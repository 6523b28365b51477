import SnippetProfiler.Braced.Token
import SnippetProfiler.Complexity.Estimate
import SnippetProfiler.Text.Blank
import SnippetProfiler.Text.Classes

/-!
# Growth from the source

A hint about the growth of a snippet with braces: the number of its loops, and how deep its
braces are nested.  Comments do not count.  Comments to the end of a line are left out
first, block comments then.
-/

namespace SnippetProfiler.Braced

/-! ### Comments -/

/-- A text without its comments to the end of a line; `inside` tells whether it begins in
one. -/
def withoutLineComments (inside : Bool) : List Char → List Char
  | [] => []
  | c :: cs =>
    if inside then
      if c = '\n' then c :: withoutLineComments false cs else withoutLineComments true cs
    else if c = '/' && cs.head? == some '/' then withoutLineComments true cs
    else c :: withoutLineComments false cs

/-- The length of the block comment at the front of a text. -/
def blockCommentLength : List Char → Option Nat
  | '/' :: '*' :: cs => (commentLength cs).map (· + 2)
  | _ => none

/-- A text without its first `skip` characters and its block comments. -/
def withoutBlockComments : (skip : Nat) → List Char → List Char
  | _, [] => []
  | skip + 1, _ :: cs => withoutBlockComments skip cs
  | 0, c :: cs =>
    match blockCommentLength (c :: cs) with
    | some n => withoutBlockComments (n - 1) cs
    | none => c :: withoutBlockComments 0 cs

/-- A text without comments. -/
def withoutComments (source : List Char) : List Char :=
  withoutBlockComments 0 (withoutLineComments false source)

/-! ### Loops and braces -/

/-- The largest number of braces that are open at once, given the number that are open and
the largest number so far. -/
def braceDepth (depth deepest : Nat) : List Char → Nat
  | [] => deepest
  | c :: cs =>
    let depth := if c = '{' then depth + 1 else if c = '}' then depth - 1 else depth
    braceDepth depth (max deepest depth) cs

/-- Whether a character belongs to a word. -/
def isWordChar (c : Char) : Bool := Text.isAlphanumeric c || c == '_'

/-- Whether a text begins with a word of a loop and a parenthesis. -/
def beginsLoop (s : List Char) : Bool :=
  ["for", "while"].any fun word =>
    word.toList.isPrefixOf s && ((s.drop word.length).dropWhile Text.isBlank).head? == some '('

/-- The number of loops in a text; `inWord` tells whether a word goes on at its front. -/
def loopCount (inWord : Bool) : List Char → Nat
  | [] => 0
  | c :: cs =>
    (if !inWord && beginsLoop (c :: cs) then 1 else 0) + loopCount (isWordChar c) cs

/-- The hint for a snippet. -/
def growthHint (source : String) : GrowthHint :=
  let text := withoutComments source.toList
  let loops := loopCount false text
  if loops = 0 then ⟨GrowthClass.constant.text, "No loops detected."⟩
  else
    let depth := max 1 (min (braceDepth 0 0 text) loops)
    ⟨polylog depth 0,
      "Detected " ++ toString loops ++ " loops with approx nesting " ++ toString depth ++ "."⟩

end SnippetProfiler.Braced
