import SnippetProfiler.Text.Wide

/-!
# The encoding of data

A text with a data value begins with characters of the seven-bit code, so the zeros among its
first octets tell in what units it is written.  `Encoding.of` finds the encoding of octets, and
`Encoding.text?` the text that they stand for.
-/

namespace SnippetProfiler.Json

open Text.Wide (Order)

/-- The encodings of data: units of one, two or four octets. -/
inductive Encoding where
  | single
  | double (order : Order)
  | quadruple (order : Order)
  deriving DecidableEq, Repr

namespace Encoding

/-- The encoding that octets of UTF-8 are taken for. -/
def of : List Nat → Encoding
  | 0 :: 0 :: _ :: _ :: _ => quadruple .highFirst
  | 0 :: _ :: _ :: _ :: _ => double .highFirst
  | _ :: 0 :: 0 :: 0 :: _ => quadruple .lowFirst
  | _ :: 0 :: _ :: _ :: _ => double .lowFirst
  | [0, _] => double .highFirst
  | [_, 0] => double .lowFirst
  | _ => single

/-- A text without a byte order mark at its start. -/
def unmarked : List Char → List Char
  | '\uFEFF' :: text => text
  | text => text

/-- The text of octets in their encoding. -/
def text? (octets : List Nat) : Option (List Char) :=
  match of octets with
  | single => some (unmarked (Text.Utf8.decode octets))
  | double order => Text.Wide.decode16? order octets
  | quadruple order => Text.Wide.decode32? order octets

end Encoding

end SnippetProfiler.Json
