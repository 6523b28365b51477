/-!
# Blanks

The white space that trimming removes and that tokenizers skip: every character
of Unicode's categories for spaces and of the bidirectional classes for
separators.  The zero-width space and the byte-order mark are not among them.
`strip` removes blanks from both ends.
-/

namespace SnippetProfiler.Text

/-- Whether a character is white space. -/
def isBlank (c : Char) : Bool :=
  let n := c.toNat
  (0x09 ≤ n && n ≤ 0x0D) || (0x1C ≤ n && n ≤ 0x20) || n == 0x85 || n == 0xA0 || n == 0x1680
    || (0x2000 ≤ n && n ≤ 0x200A) || n == 0x2028 || n == 0x2029 || n == 0x202F || n == 0x205F
    || n == 0x3000

/-- `s` without the longest suffix of characters in the class `p`. -/
def dropRightWhile (p : Char → Bool) (s : List Char) : List Char :=
  (s.reverse.dropWhile p).reverse

/-- `s` without blanks at either end. -/
def strip (s : List Char) : List Char := dropRightWhile isBlank (s.dropWhile isBlank)

/-- A string without blanks at either end. -/
def stripped (s : String) : String := .ofList (strip s.toList)

end SnippetProfiler.Text
