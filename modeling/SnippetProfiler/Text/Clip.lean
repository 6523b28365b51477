/-!
# Summaries of bounded length

`clip` shortens a text to at most `limit` characters, the last three of which
are then dots.  A limit below three counts the characters that are kept from the
end of the text.
-/

namespace SnippetProfiler.Text

/-- How many characters of a text of length `n` stand before the cut `k`; a
negative cut counts from the end. -/
def cutLength (n : Nat) (k : Int) : Nat := if k < 0 then (n + k).toNat else min n k.toNat

/-- A text of at most `limit` characters as it is, a longer one cut and ended by
three dots. -/
def clip (limit : Int) (s : List Char) : List Char :=
  if (s.length : Int) ≤ limit then s else s.take (cutLength s.length (limit - 3)) ++ ['.', '.', '.']

/-- The most characters that a summary of a value keeps. -/
def summaryLimit : Int := 100

/-- A string clipped to the length of a summary. -/
def summary (s : String) : String := .ofList (clip summaryLimit s.toList)

end SnippetProfiler.Text
