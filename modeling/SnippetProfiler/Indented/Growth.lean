import SnippetProfiler.Complexity.Estimate
import SnippetProfiler.Indented.Grammar.Statement
import SnippetProfiler.Indented.Nesting
import SnippetProfiler.Indented.Outline

/-!
# Growth from the source

A hint about the growth of a program from its outline: how deep its loops are nested, how
many of them are scaling, and how many calls go to functions that are defined further up.
`Sight.look` goes through an outline once, and `Sight.hint` reads off the result.
-/

namespace SnippetProfiler.Indented

/-- What was seen of an outline.  `divides` tells that a call of a function that is defined
further up takes a slice of its argument. -/
structure Sight where
  deepest : Nat := 0
  scalingLoops : Nat := 0
  defined : List String := []
  calls : Nat := 0
  divides : Bool := false
  deriving DecidableEq, Repr

namespace Sight

mutual

/-- Looks at a part of an outline that stands in `depth` loops. -/
def look (s : Sight) (depth : Nat) : Outline → Sight
  | .definition name inside => lookAll { s with defined := name :: s.defined } depth inside
  | .loop scaling inside =>
    lookAll { s with
      deepest := max s.deepest (depth + 1)
      scalingLoops := s.scalingLoops + (if scaling then 1 else 0) } (depth + 1) inside
  | .call name slicing =>
    if s.defined.contains name then
      { s with calls := s.calls + 1, divides := s.divides || slicing }
    else s

/-- Looks at the parts of an outline one after another. -/
def lookAll (s : Sight) (depth : Nat) : List Outline → Sight
  | [] => s
  | o :: os => lookAll (look s depth o) depth os

end

/-- The growth of the loops. -/
def loopGrowth (s : Sight) : String :=
  polylog (s.deepest - min s.scalingLoops s.deepest) (min s.scalingLoops s.deepest)

/-- The growth of the calls, and what they look like. -/
def callGrowth (s : Sight) : String × String :=
  if s.divides then
    if 2 ≤ s.calls then
      (GrowthClass.linearithmic.text, "Recursive divide-and-conquer (2 calls) detected.")
    else (GrowthClass.logarithmic.text, "Recursive divide-and-conquer (1 call) detected.")
  else if 2 ≤ s.calls then
    (GrowthClass.exponential.text, "Multiple recursive calls detected (Exponential).")
  else (GrowthClass.linear.text, "Single recursive call detected (Linear).")

/-- The hint.  Calls of defined functions outweigh loops. -/
def hint (s : Sight) : GrowthHint :=
  let loops := if s.deepest = 0 then [] else [toString s.deepest ++ " nested loops detected."]
  if s.calls = 0 then
    ⟨s.loopGrowth, if loops.isEmpty then "No loops or recursion detected." else " ".intercalate loops⟩
  else ⟨s.callGrowth.1, " ".intercalate (loops ++ [s.callGrowth.2])⟩

end Sight

/-- The hint for a program. -/
def growthOf (program : Block) : GrowthHint := (Sight.lookAll {} 0 (blockOutline program)).hint

/-- Why a text is no program, or one that cannot be looked at. -/
inductive Unreadable where
  | nullCharacter
  | malformed
  | nesting (cause : NestingError)
  deriving DecidableEq, Repr

/-- The wording of a cause. -/
def Unreadable.message : Unreadable → String
  | nullCharacter => "source code string cannot contain null bytes"
  | malformed => "invalid syntax"
  | nesting cause => cause.message

/-- The hint for a text that is no program. -/
def Unreadable.hint (cause : Unreadable) : GrowthHint :=
  ⟨GrowthClass.linear.text, "Static analysis unavailable: " ++ cause.message⟩

/-- The growth of a snippet that is a program. -/
def growth (source : String) : Except Unreadable GrowthHint :=
  match parse source.toList with
  | some program =>
    if !isBuilt (moduleShape program) then .error (.nesting .notBuilt)
    else if !isVisited (moduleShape program) then .error (.nesting .notWalked)
    else .ok (growthOf program)
  | none => .error (if source.toList.contains '\x00' then .nullCharacter else .malformed)

/-- The hint for a snippet, unless that is nested too deeply. -/
def growthHint (source : String) : Except NestingError GrowthHint :=
  match growth source with
  | .ok hint => .ok hint
  | .error (.nesting cause) => .error cause
  | .error cause => .ok cause.hint

end SnippetProfiler.Indented
