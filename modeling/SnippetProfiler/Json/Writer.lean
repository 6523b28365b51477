import SnippetProfiler.Json.Basic
import SnippetProfiler.Decimal.Text
import SnippetProfiler.Text.Quoted

/-!
# Writing data values

`Json.write` gives the text of a value on one line.  Texts are written in ASCII:
the quotation mark, the backslash and five control characters have escapes of two
characters, every other character outside U+0020 … U+007E is written by its UTF-16
units in hexadecimal.  A `Spacing` says what stands behind a comma and a colon.
-/

namespace SnippetProfiler.Json

/-- What separates items, and keys from their values. -/
structure Spacing where
  comma : String
  colon : String

/-- Separators followed by a space. -/
def spaced : Spacing := ⟨", ", ": "⟩

/-- Separators alone. -/
def compact : Spacing := ⟨",", ":"⟩

/-- The UTF-16 units of a character. -/
def units (c : Char) : List Nat :=
  let n := c.toNat
  if n < 0x10000 then [n]
  else [0xD800 + (n - 0x10000) / 0x400, 0xDC00 + (n - 0x10000) % 0x400]

/-- What stands for a character inside quotation marks. -/
def escapeChar (c : Char) : List Char :=
  if c = '"' then ['\\', '"']
  else if c = '\\' then ['\\', '\\']
  else if c = '\n' then ['\\', 'n']
  else if c = '\r' then ['\\', 'r']
  else if c = '\t' then ['\\', 't']
  else if c = '\x0c' then ['\\', 'f']
  else if c = '\x08' then ['\\', 'b']
  else if 32 ≤ c.toNat && c.toNat < 127 then [c]
  else (units c).flatMap fun u => '\\' :: 'u' :: Text.hex 4 u

/-- A text between quotation marks. -/
def quote (s : String) : List Char := '"' :: s.toList.flatMap escapeChar ++ ['"']

/-- The layout of floats in written values. -/
def floatLayout : Decimal.Layout := ⟨-4, 15, true, 2, true, "Infinity", "NaN"⟩

/-- Texts one after another with a separator between them. -/
def joined (separator : List Char) : List (List Char) → List Char
  | [] => []
  | [s] => s
  | s :: rest => s ++ separator ++ joined separator rest

mutual

/-- The characters of a value. -/
def chars (sp : Spacing) : Json → List Char
  | .null => "null".toList
  | .bool true => "true".toList
  | .bool false => "false".toList
  | .int n => (Decimal.integer n).toList
  | .float x => (floatLayout.write x).toList
  | .str s => quote s
  | .arr items => '[' :: joined sp.comma.toList (itemChars sp items) ++ [']']
  | .obj fields => '{' :: joined sp.comma.toList (fieldChars sp fields) ++ ['}']

/-- The characters of each item of a list. -/
def itemChars (sp : Spacing) : List Json → List (List Char)
  | [] => []
  | v :: vs => chars sp v :: itemChars sp vs

/-- The characters of each field of an object. -/
def fieldChars (sp : Spacing) : List (String × Json) → List (List Char)
  | [] => []
  | (k, v) :: fields => (quote k ++ sp.colon.toList ++ chars sp v) :: fieldChars sp fields

end

/-- The text of a value. -/
def write (sp : Spacing) (v : Json) : String := .ofList (chars sp v)

end SnippetProfiler.Json
