import SnippetProfiler.Text.Classes
import SnippetProfiler.Text.Utf8

/-!
# Percent signs in paths

In the path of a request an octet may be written as a percent sign and two hexadecimal digits.
`percentDecoded` reads a path with such octets as UTF-8.
-/

namespace SnippetProfiler.Text

/-- Whether a character is a hexadecimal digit. -/
def isHex (c : Char) : Bool :=
  c.isDigit || ('a' ≤ c && c ≤ 'f') || ('A' ≤ c && c ≤ 'F')

/-- The octets of a path. -/
def pathOctets : List Char → List Nat
  | [] => []
  | '%' :: a :: b :: rest =>
    if isHex a && isHex b then
      (16 * Ranges.hexDigit a.toLower + Ranges.hexDigit b.toLower) :: pathOctets rest
    else Utf8.encode "%" ++ pathOctets (a :: b :: rest)
  | c :: rest => Utf8.encode (.ofList [c]) ++ pathOctets rest

/-- The text that a path stands for. -/
def percentDecoded (path : List Char) : List Char := Utf8.decode (pathOctets path)

end SnippetProfiler.Text
