/-!
# Lines

Two notions of line.  `splitOnNewline` cuts at every newline character and at
nothing else, so that a text of `n` newlines has `n + 1` lines.  `splitLines`
cuts at every line boundary that Unicode knows, takes a carriage return followed
by a newline as one boundary, and opens no line after the last boundary.
-/

namespace SnippetProfiler.Text

/-- The pieces of a text between occurrences of the character `sep`. -/
def splitOnChar (sep : Char) : List Char → List (List Char)
  | [] => [[]]
  | c :: cs =>
    match splitOnChar sep cs with
    | [] => [[]]
    | line :: lines => if c = sep then [] :: line :: lines else (c :: line) :: lines

/-- The lines of a text, cut at newline characters alone. -/
def splitOnNewline (s : List Char) : List (List Char) := splitOnChar '\n' s

/-- Whether a character ends a line by itself. -/
def isLineBoundary (c : Char) : Bool :=
  let n := c.toNat
  (0x0A ≤ n && n ≤ 0x0D) || (0x1C ≤ n && n ≤ 0x1E) || n == 0x85 || n == 0x2028 || n == 0x2029

/-- Puts a character in front of the first line. -/
def consToFirst (c : Char) : List (List Char) → List (List Char)
  | [] => [[c]]
  | line :: lines => (c :: line) :: lines

/-- The lines of a text, cut at every line boundary, which are left out. -/
def splitLines : List Char → List (List Char)
  | [] => []
  | '\r' :: '\n' :: cs => [] :: splitLines cs
  | c :: cs => if isLineBoundary c then [] :: splitLines cs else consToFirst c (splitLines cs)

/-- The lines of a string, as strings. -/
def lines (s : String) : List String := (splitLines s.toList).map .ofList

end SnippetProfiler.Text
