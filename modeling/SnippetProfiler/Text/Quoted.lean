import SnippetProfiler.Text.Classes

/-!
# Quoted literals

The literal that denotes a text: it stands in apostrophes, or in quotation marks
when the text holds an apostrophe and no quotation mark.  The backslash, the mark
in use, tab, newline and carriage return are written with a backslash, and every
other character that is not printable by its code in two, four or eight
hexadecimal digits.
-/

namespace SnippetProfiler.Text

/-- The hexadecimal digit of a number below sixteen. -/
def hexChar (n : Nat) : Char := Nat.digitChar n

/-- The `width` last hexadecimal digits of a number. -/
def hex : (width : Nat) → Nat → List Char
  | 0, _ => []
  | width + 1, n => hex width (n / 16) ++ [hexChar (n % 16)]

namespace Quoted

/-- The mark that encloses the literal of a text, given by its codes. -/
def mark (codes : List Nat) : Char :=
  if codes.contains '\''.toNat && !codes.contains '"'.toNat then '"' else '\''

/-- A code in the shortest of the three numeric forms. -/
def byCode (n : Nat) : List Char :=
  if n < 0x100 then '\\' :: 'x' :: hex 2 n
  else if n < 0x10000 then '\\' :: 'u' :: hex 4 n
  else '\\' :: 'U' :: hex 8 n

/-- A code that is not shown as it is: by a letter where there is one, else by its
number. -/
def hidden (n : Nat) : List Char :=
  if n = '\n'.toNat then ['\\', 'n']
  else if n = '\r'.toNat then ['\\', 'r']
  else if n = '\t'.toNat then ['\\', 't']
  else byCode n

/-- What stands for a code inside a literal enclosed by `q`. -/
def escape (q : Char) (n : Nat) : List Char :=
  if n = '\\'.toNat || n = q.toNat then ['\\', Char.ofNat n]
  else if isPrintableCode n then [Char.ofNat n]
  else hidden n

/-- The literal of a text given by its codes, which may hold halves of surrogate
pairs. -/
def encodeCodes (codes : List Nat) : List Char :=
  mark codes :: codes.flatMap (escape (mark codes)) ++ [mark codes]

/-- The literal of a text. -/
def encode (s : List Char) : List Char := encodeCodes (s.map Char.toNat)

/-- The literal of a string. -/
def literal (s : String) : String := .ofList (encode s.toList)

/-- What stands for an octet inside a literal of octets enclosed by `q`. -/
def escapeOctet (q : Char) (b : Nat) : List Char :=
  if b = '\\'.toNat || b = q.toNat then ['\\', Char.ofNat b]
  else if 32 ≤ b && b < 127 then [Char.ofNat b]
  else hidden b

/-- The literal of a list of octets. -/
def encodeOctets (bs : List Nat) : List Char :=
  'b' :: mark bs :: bs.flatMap (escapeOctet (mark bs)) ++ [mark bs]

end Quoted

end SnippetProfiler.Text
