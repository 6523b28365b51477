import Mathlib.Data.List.Basic
import Mathlib.Logic.Relation
import SnippetProfiler.Indented.Growth
import SnippetProfiler.Proofs.Indented.Erasure

/-!
# Which calls count as recursion

The hint about the growth of a program counts the calls of functions that are defined further up.
The landmarks of an outline are its definitions and calls in the order in which they are written, and
a call counts when the definition of a function with its name begins before it (`lookAll_eq`).

* The hint is what the loops alone say exactly when no call counts (`growthOf_eq_loopHint_iff`).
* In a program with recursion some call counts, so no recursion is missed; but a call counts as well
  when it stands behind the function and not in it.
-/

namespace SnippetProfiler.Indented

/-! ### Landmarks -/

/-- A definition or a call in an outline. -/
inductive Landmark where
  | definition (name : String)
  | call (name : String) (slicing : Bool)
  deriving DecidableEq

mutual

/-- The landmarks of a part of an outline, in order.  A definition comes before what is in it. -/
def Outline.landmarks : Outline → List Landmark
  | .definition name inside => .definition name :: landmarksOf inside
  | .loop _ inside => landmarksOf inside
  | .call name slicing => [.call name slicing]

/-- The landmarks of an outline, in order. -/
def landmarksOf : List Outline → List Landmark
  | [] => []
  | o :: os => o.landmarks ++ landmarksOf os

end

mutual

/-- How many loops of a part of an outline stand inside each other. -/
def Outline.loopDepth : Outline → Nat
  | .definition _ inside => loopDepthOf inside
  | .loop _ inside => loopDepthOf inside + 1
  | .call .. => 0

/-- How many loops of an outline stand inside each other. -/
def loopDepthOf : List Outline → Nat
  | [] => 0
  | o :: os => max o.loopDepth (loopDepthOf os)

end

mutual

/-- The number of scaling loops in a part of an outline. -/
def Outline.scalingLoops : Outline → Nat
  | .definition _ inside => scalingLoopsOf inside
  | .loop scaling inside => (if scaling then 1 else 0) + scalingLoopsOf inside
  | .call .. => 0

/-- The number of scaling loops in an outline. -/
def scalingLoopsOf : List Outline → Nat
  | [] => 0
  | o :: os => o.scalingLoops + scalingLoopsOf os

end

/-- The names that are known behind some landmarks. -/
def knownBehind (known : List String) : List Landmark → List String
  | [] => known
  | .definition name :: ls => knownBehind (name :: known) ls
  | .call .. :: ls => knownBehind known ls

/-- The calls of names that are known, each told by whether it is slicing. -/
def backCalls (known : List String) : List Landmark → List Bool
  | [] => []
  | .definition name :: ls => backCalls (name :: known) ls
  | .call name slicing :: ls =>
    if known.contains name then slicing :: backCalls known ls else backCalls known ls

/-- The calls of a program that count. -/
def countedCalls (program : Block) : List Bool := backCalls [] (landmarksOf (blockOutline program))

/-- In an outline a call stands behind the beginning of a definition of its name. -/
def CallsBack (os : List Outline) : Prop :=
  ∃ before name slicing after, landmarksOf os = before ++ .call name slicing :: after
    ∧ Landmark.definition name ∈ before

variable {known : List String} {ls ms : List Landmark}

theorem knownBehind_append :
  knownBehind known (ls ++ ms) = knownBehind (knownBehind known ls) ms
  := by
  induction ls generalizing known with
  | nil => rfl
  | cons l ls ih =>
      cases l with
      | definition name => exact ih
      | call name slicing => exact ih

theorem backCalls_append :
  backCalls known (ls ++ ms) = backCalls known ls ++ backCalls (knownBehind known ls) ms
  := by
  induction ls generalizing known with
  | nil => rfl
  | cons l ls ih =>
      cases l with
      | definition name => exact ih
      | call name slicing =>
          rw [List.cons_append, backCalls, backCalls, knownBehind, ih]
          split
          · rfl
          · rfl

theorem mem_knownBehind {name : String} :
  name ∈ knownBehind known ls ↔ name ∈ known ∨ .definition name ∈ ls
  := by
  induction ls generalizing known with
  | nil => simp [knownBehind]
  | cons l ls ih =>
      cases l with
      | definition other =>
          rw [knownBehind, ih, List.mem_cons, List.mem_cons, Landmark.definition.injEq, or_assoc,
            or_left_comm]
      | call other slicing => simp [knownBehind, ih]

/-- A call counts when its name is known at the start or its definition begins before it. -/
theorem backCalls_ne_nil_iff :
  backCalls known ls ≠ [] ↔ ∃ before name slicing after,
    ls = before ++ .call name slicing :: after ∧ (name ∈ known ∨ .definition name ∈ before)
  := by
  constructor
  · intro h
    induction ls generalizing known with
    | nil => cases h rfl
    | cons l ls ih =>
        cases l with
        | definition other =>
            obtain ⟨before, name, slicing, after, rfl, hname⟩ := ih h
            refine ⟨.definition other :: before, name, slicing, after, rfl, ?_⟩
            rw [List.mem_cons] at hname ⊢
            rw [Landmark.definition.injEq]
            tauto
        | call other slicing =>
            rw [backCalls] at h
            split at h
            case isTrue hknown =>
              refine ⟨[], other, slicing, ls, rfl, .inl ?_⟩
              rwa [List.contains_iff_mem] at hknown
            case isFalse =>
              obtain ⟨before, name, slicing', after, rfl, hname⟩ := ih h
              refine ⟨.call other slicing :: before, name, slicing', after, rfl, ?_⟩
              exact hname.imp_right (List.mem_cons_of_mem _)
  · rintro ⟨before, name, slicing, after, rfl, hname⟩
    have hcontains : (knownBehind known before).contains name = true := by
      rwa [List.contains_iff_mem, mem_knownBehind]
    rw [backCalls_append, backCalls, if_pos hcontains]
    simp

theorem callsBack_iff {program : Block} :
  CallsBack (blockOutline program) ↔ countedCalls program ≠ []
  := by
  rw [countedCalls]
  simp only [backCalls_ne_nil_iff, List.not_mem_nil, false_or]
  rfl

/-! ### What is seen -/

namespace Sight

/-- What is seen behind an outline, when `s` was seen before it and it stands in `depth` loops. -/
def behind (s : Sight) (deepest scalingLoops : Nat) (ls : List Landmark) : Sight where
  deepest := max s.deepest deepest
  scalingLoops := s.scalingLoops + scalingLoops
  defined := knownBehind s.defined ls
  calls := s.calls + (backCalls s.defined ls).length
  divides := s.divides || (backCalls s.defined ls).any id

theorem behind_append (s : Sight) (d d' n n' : Nat) (ls ms : List Landmark) :
  (s.behind d n ls).behind d' n' ms = s.behind (max d d') (n + n') (ls ++ ms)
  := by
  simp only [behind, knownBehind_append, backCalls_append, List.length_append, List.any_append,
    Nat.max_assoc, Nat.add_assoc, Bool.or_assoc]

theorem behind_nil {s : Sight} {depth : Nat} (h : depth ≤ s.deepest) :
  s.behind (depth + 0) 0 [] = s
  := by
  simp only [behind, knownBehind, backCalls, List.length_nil, List.any_nil, Bool.or_false, Nat.add_zero,
    Nat.max_eq_left h]

mutual

theorem look_eq (s : Sight) {depth : Nat} (h : depth ≤ s.deepest) (o : Outline) :
  s.look depth o = s.behind (depth + o.loopDepth) o.scalingLoops o.landmarks
  := by
  cases o with
  | definition name inside =>
      exact lookAll_eq { s with defined := name :: s.defined } h inside
  | loop scaling inside =>
      have hmax : max (max s.deepest (depth + 1)) (depth + 1 + loopDepthOf inside)
          = max s.deepest (depth + (loopDepthOf inside + 1)) := by omega
      rw [look, lookAll_eq _ (Nat.le_max_right ..) inside]
      simp only [behind, Outline.loopDepth, Outline.scalingLoops, Outline.landmarks, Nat.add_assoc] at hmax ⊢
      rw [hmax]
  | call name slicing =>
      rw [look, Outline.loopDepth, Outline.scalingLoops, Outline.landmarks]
      split
      case isTrue hknown =>
        simp only [behind, knownBehind, backCalls, if_pos hknown, List.length_singleton, List.any_cons,
          List.any_nil, id, Bool.or_false, Nat.add_zero, Nat.max_eq_left h]
      case isFalse hunknown =>
        simp only [behind, knownBehind, backCalls, if_neg hunknown, List.length_nil, List.any_nil,
          Bool.or_false, Nat.add_zero, Nat.max_eq_left h]

theorem lookAll_eq (s : Sight) {depth : Nat} (h : depth ≤ s.deepest) (os : List Outline) :
  s.lookAll depth os = s.behind (depth + loopDepthOf os) (scalingLoopsOf os) (landmarksOf os)
  := by
  cases os with
  | nil => exact (behind_nil h).symm
  | cons o os =>
      have hdeepest : depth ≤ (s.behind (depth + o.loopDepth) o.scalingLoops o.landmarks).deepest :=
        Nat.le_trans h (Nat.le_max_left ..)
      rw [lookAll, look_eq s h o, lookAll_eq _ hdeepest os, behind_append, loopDepthOf, scalingLoopsOf,
        landmarksOf, Nat.add_max_add_left]

end

end Sight

/-! ### The hint -/

/-- The hint that the loops of a program give alone. -/
def loopHint (program : Block) : GrowthHint :=
  let depth := loopDepthOf (blockOutline program)
  let scaling := min (scalingLoopsOf (blockOutline program)) depth
  ⟨polylog (depth - scaling) scaling,
    if depth = 0 then "No loops or recursion detected." else toString depth ++ " nested loops detected."⟩

namespace Sight

/-- Calls that count are told of. -/
theorem derivation_ne {s : Sight} (h : s.calls ≠ 0) :
  s.hint.derivation ≠ if s.deepest = 0 then "No loops or recursion detected."
    else toString s.deepest ++ " nested loops detected."
  := by
  rw [hint]
  simp only [if_neg h]
  split
  case isTrue =>
    rw [List.nil_append, String.intercalate_singleton, callGrowth]
    split <;> split <;> decide
  case isFalse =>
    rw [List.singleton_append, String.intercalate_cons_cons, String.append_assoc]
    intro heq
    have hlength := congrArg String.length heq
    have hspace : " ".length = 1 := rfl
    simp only [String.length_append, hspace] at hlength
    omega

end Sight

theorem growthOf_eq (program : Block) :
  growthOf program = (({} : Sight).behind (0 + loopDepthOf (blockOutline program))
    (scalingLoopsOf (blockOutline program)) (landmarksOf (blockOutline program))).hint
  := congrArg Sight.hint (Sight.lookAll_eq {} (Nat.le_refl 0) _)

/-- Without calls that count the hint is that of the loops. -/
theorem growthOf_of_countedCalls_eq_nil {program : Block} (h : countedCalls program = []) :
  growthOf program = loopHint program
  := by
  have hcalls : backCalls ({} : Sight).defined (landmarksOf (blockOutline program)) = [] := h
  rw [growthOf_eq, Sight.hint, loopHint]
  simp only [Sight.behind, Sight.loopGrowth, hcalls, List.length_nil, Nat.add_zero, Nat.zero_add,
    Nat.zero_max, if_true]
  split
  · rfl
  · rfl

/-- With calls that count the hint is not that of the loops. -/
theorem growthOf_of_countedCalls_ne_nil {program : Block} (h : countedCalls program ≠ []) :
  growthOf program ≠ loopHint program
  := by
  intro heq
  have hcalls : ((({} : Sight).behind (0 + loopDepthOf (blockOutline program))
      (scalingLoopsOf (blockOutline program)) (landmarksOf (blockOutline program))).calls) ≠ 0 := by
    simp only [Sight.behind, Nat.zero_add]
    rw [Ne, List.length_eq_zero_iff]
    exact h
  apply Sight.derivation_ne hcalls
  rw [← growthOf_eq, heq, loopHint]
  simp only [Sight.behind, Nat.zero_add, Nat.zero_max]

/-! ### Recursion -/

/-- In a program the body of a function named `f` has a call by the name `g`, at any depth. -/
def Invokes (program : Block) (f g : String) : Prop :=
  ∃ l isAsync ps body ds returns slicing,
    (Stmt.functionDef l isAsync f ps body ds returns).StandsIn program
      ∧ .call g slicing ∈ landmarksOf (blockOutline body)

/-- The functions of a program call each other, or one calls itself, in a circle. -/
def IsRecursive (program : Block) : Prop := ∃ f, Relation.TransGen (Invokes program) f f

theorem landmarksOf_append (os ps : List Outline) :
  landmarksOf (os ++ ps) = landmarksOf os ++ landmarksOf ps
  := by
  induction os with
  | nil => rfl
  | cons o os ih => rw [List.cons_append, landmarksOf, landmarksOf, ih, List.append_assoc]

theorem loopDepthOf_append (os ps : List Outline) :
  loopDepthOf (os ++ ps) = max (loopDepthOf os) (loopDepthOf ps)
  := by
  induction os with
  | nil => rw [List.nil_append, loopDepthOf, Nat.zero_max]
  | cons o os ih => rw [List.cons_append, loopDepthOf, loopDepthOf, ih, Nat.max_assoc]

/-- An outline has another one in it, beside other parts. -/
def HasPart (os part : List Outline) : Prop := ∃ before after, os = before ++ (part ++ after)

theorem HasPart.of_mem_append {os ps part : List Outline} (h : HasPart os part ∨ HasPart ps part) :
  HasPart (os ++ ps) part
  := by
  obtain ⟨before, after, rfl⟩ | ⟨before, after, rfl⟩ := h
  · exact ⟨before, after ++ ps, by simp only [List.append_assoc]⟩
  · exact ⟨os ++ before, after, by simp only [List.append_assoc]⟩

theorem hasPart_self (part : List Outline) :
  HasPart part part
  := ⟨[], [], (List.append_nil part).symm⟩

/-- The outline of a block has those of its statements in it. -/
theorem hasPart_blockOutline {s : Stmt} {b : Block} (h : s ∈ b) :
  HasPart (blockOutline b) s.outline
  := by
  induction b with
  | nil => cases h
  | cons t b ih =>
      apply HasPart.of_mem_append
      cases h with
      | head => exact .inl (hasPart_self _)
      | tail _ h => exact .inr (ih h)

theorem hasPart_handlersOutline {b : Block} {hs : List Handler} (h : b ∈ hs.map Handler.body) :
  HasPart (handlersOutline hs) (blockOutline b)
  := by
  induction hs with
  | nil => cases h
  | cons handler hs ih =>
      obtain ⟨l, exception, name, body⟩ := handler
      apply HasPart.of_mem_append
      cases h with
      | head => exact .inl (.of_mem_append (.inr (hasPart_self _)))
      | tail _ h => exact .inr (ih h)

theorem hasPart_casesOutline {b : Block} {cs : List Case} (h : b ∈ cs.map Case.body) :
  HasPart (casesOutline cs) (blockOutline b)
  := by
  induction cs with
  | nil => cases h
  | cons case cs ih =>
      obtain ⟨p, guard, body⟩ := case
      apply HasPart.of_mem_append
      cases h with
      | head => exact .inl (.of_mem_append (.inr (hasPart_self _)))
      | tail _ h => exact .inr (ih h)

/-- The outline of a statement has those of its blocks in it, or in the definition or the loop that
the statement is. -/
theorem hasPart_of_mem_blocks {s : Stmt} {b : Block} (h : b ∈ s.blocks) :
  HasPart s.outline (blockOutline b)
    ∨ (∃ name inside, s.outline = [.definition name inside] ∧ HasPart inside (blockOutline b))
    ∨ ∃ scaling inside, s.outline = [.loop scaling inside] ∧ HasPart inside (blockOutline b)
  := by
  cases s with
  | functionDef l isAsync name ps body ds returns =>
      cases List.mem_singleton.mp h
      refine .inr (.inl ⟨name, _, rfl, ?_⟩)
      exact .of_mem_append (.inl (.of_mem_append (.inl (.of_mem_append (.inr (hasPart_self _))))))
  | classDef l name bases ks body ds =>
      cases List.mem_singleton.mp h
      exact .inl (.of_mem_append (.inl (.of_mem_append (.inr (hasPart_self _)))))
  | withItems l isAsync items body =>
      cases List.mem_singleton.mp h
      exact .inl (.of_mem_append (.inr (hasPart_self _)))
  | forIn l isAsync target iterable body orelse =>
      refine .inr (.inr ⟨_, _, rfl, ?_⟩)
      rcases List.mem_pair.mp h with rfl | rfl
      · exact .of_mem_append (.inl (.of_mem_append (.inr (hasPart_self _))))
      · exact .of_mem_append (.inr (hasPart_self _))
  | whileLoop l test body orelse =>
      refine .inr (.inr ⟨_, _, rfl, ?_⟩)
      rcases List.mem_pair.mp h with rfl | rfl
      · exact .of_mem_append (.inl (.of_mem_append (.inr (hasPart_self _))))
      · exact .of_mem_append (.inr (hasPart_self _))
  | ifElse l test body orelse =>
      left
      rcases List.mem_pair.mp h with rfl | rfl
      · exact .of_mem_append (.inl (.of_mem_append (.inr (hasPart_self _))))
      · exact .of_mem_append (.inr (hasPart_self _))
  | tryExcept l isGroup body hs orelse finalbody =>
      left
      rw [Stmt.blocks, List.cons_append, List.mem_cons, List.mem_append, List.mem_pair] at h
      obtain rfl | h | rfl | rfl := h
      · exact .of_mem_append (.inl (.of_mem_append (.inl (.of_mem_append (.inl (hasPart_self _))))))
      · exact .of_mem_append (.inl (.of_mem_append (.inl (.of_mem_append
          (.inr (hasPart_handlersOutline h))))))
      · exact .of_mem_append (.inl (.of_mem_append (.inr (hasPart_self _))))
      · exact .of_mem_append (.inr (hasPart_self _))
  | matchOn l subject cs => exact .inl (.of_mem_append (.inr (hasPart_casesOutline h)))
  | _ => cases h

theorem HasPart.landmarks {os part : List Outline} (h : HasPart os part) :
  landmarksOf part <:+: landmarksOf os
  := by
  obtain ⟨before, after, rfl⟩ := h
  refine ⟨landmarksOf before, landmarksOf after, ?_⟩
  rw [landmarksOf_append, landmarksOf_append, List.append_assoc]

/-- The landmarks of a statement stand one behind the other among those of a block in which the statement
is. -/
theorem Stmt.StandsIn.landmarks {s : Stmt} {b : Block} (h : s.StandsIn b) :
  landmarksOf s.outline <:+: landmarksOf (blockOutline b)
  := by
  induction h with
  | here h => exact (hasPart_blockOutline h).landmarks
  | @inside t b c ht hc _ ih =>
      apply List.IsInfix.trans _ (hasPart_blockOutline ht).landmarks
      apply ih.trans
      obtain hpart | ⟨name, inside, heq, hpart⟩ | ⟨scaling, inside, heq, hpart⟩ :=
        hasPart_of_mem_blocks hc
      · exact hpart.landmarks
      · rw [heq, landmarksOf, Outline.landmarks, landmarksOf, List.append_nil]
        exact hpart.landmarks.trans (List.suffix_cons ..).isInfix
      · rw [heq, landmarksOf, Outline.landmarks, landmarksOf, List.append_nil]
        exact hpart.landmarks

/-- When no call stands behind a definition of its name, a function is defined before those it calls. -/
theorem Invokes.lt {program : Block} {f g : String} (h : Invokes program f g)
    (hback : ¬ CallsBack (blockOutline program)) :
  (landmarksOf (blockOutline program)).idxOf (.definition f)
    < (landmarksOf (blockOutline program)).idxOf (.definition g)
  := by
  obtain ⟨l, isAsync, ps, body, ds, returns, slicing, hstands, hcall⟩ := h
  obtain ⟨before, after, hlandmarks⟩ := hstands.landmarks
  have hbody : HasPart (ps.outline ++ blockOutline body ++ exprsOutline ds ++ optionalOutline returns)
      (blockOutline body) :=
    .of_mem_append (.inl (.of_mem_append (.inl (.of_mem_append (.inr (hasPart_self _))))))
  obtain ⟨left, right, hinside⟩ := List.append_of_mem (hbody.landmarks.subset hcall)
  have hsplit : landmarksOf (blockOutline program)
      = (before ++ .definition f :: left) ++ .call g slicing :: (right ++ after) := by
    rw [← hlandmarks, Stmt.outline, landmarksOf, Outline.landmarks, landmarksOf, hinside]
    simp only [List.append_nil, List.append_assoc, List.cons_append]
  have hnot : Landmark.definition g ∉ before ++ .definition f :: left := fun hmem =>
    hback ⟨_, g, slicing, _, hsplit, hmem⟩
  have hmem : Landmark.definition f ∈ before ++ .definition f :: left := by simp
  rw [hsplit, List.idxOf_append_of_mem hmem, List.idxOf_append_of_notMem hnot]
  have hlt := List.idxOf_lt_length_of_mem hmem
  omega

/-- A program with recursion has a call behind a definition of its name. -/
theorem IsRecursive.callsBack {program : Block} (h : IsRecursive program) :
  CallsBack (blockOutline program)
  := by
  obtain ⟨f, hf⟩ := h
  by_contra hback
  have hlt : ∀ {g}, Relation.TransGen (Invokes program) f g →
      (landmarksOf (blockOutline program)).idxOf (.definition f)
        < (landmarksOf (blockOutline program)).idxOf (.definition g) := by
    intro g hg
    induction hg with
    | single h => exact h.lt hback
    | tail _ h ih => exact Nat.lt_trans ih (h.lt hback)
  exact Nat.lt_irrefl _ (hlt hf)

/-- The hint of a program is the one of its loops exactly when no call stands behind the beginning of a
definition of its name.  A program with recursion has such a call. -/
theorem growthOf_eq_loopHint_iff (program : Block) :
  (growthOf program = loopHint program ↔ ¬ CallsBack (blockOutline program))
    ∧ (IsRecursive program → CallsBack (blockOutline program))
  := by
  refine ⟨?_, IsRecursive.callsBack⟩
  rw [callsBack_iff, not_ne_iff]
  constructor
  · intro heq
    by_contra hne
    exact growthOf_of_countedCalls_ne_nil hne heq
  · exact growthOf_of_countedCalls_eq_nil

/-- A function that calls nothing, and a call of it behind the function. -/
def calledOnce : Block :=
  [.functionDef 1 false "f" {} [.pass 2] [] none, .expression 3 (.call 3 (.name 3 "f") [] [])]

/-- A program without recursion does not always have the hint of its loops: a call of a function from
the top level is taken for recursion. -/
theorem not_always_loopHint :
  ¬ ∀ program, ¬ IsRecursive program → growthOf program = loopHint program
  := by
  intro h
  have hbody : ∀ s : Stmt, s.StandsIn [.pass 2] → s = .pass 2 := by
    intro s hs
    cases hs with
    | here hs => exact List.mem_singleton.mp hs
    | inside ht hc => cases List.mem_singleton.mp ht; cases hc
  have hcalls : ∀ f g, ¬ Invokes calledOnce f g := by
    rintro f g ⟨l, isAsync, ps, body, ds, returns, slicing, hstands, hcall⟩
    cases hstands with
    | here hmem =>
        obtain heq | heq := List.mem_pair.mp hmem
        · cases heq; cases hcall
        · cases heq
    | inside ht hc hs =>
        obtain rfl | rfl := List.mem_pair.mp ht
        · cases List.mem_singleton.mp hc
          cases hbody _ hs
        · cases hc
  have hne : growthOf calledOnce ≠ loopHint calledOnce := growthOf_of_countedCalls_ne_nil (by decide)
  apply hne
  apply h
  rintro ⟨f, hf⟩
  obtain ⟨g, hg, -⟩ := Relation.TransGen.head'_iff.mp hf
  exact hcalls f g hg

end SnippetProfiler.Indented
