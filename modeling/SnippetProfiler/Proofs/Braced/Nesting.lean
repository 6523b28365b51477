import Mathlib.Tactic.Common
import SnippetProfiler.Braced.Plan

/-!
# Nested brackets

A plan opens and closes scopes, and it guesses from the context what sort of scope a brace or a
parenthesis opens.  The guess does not matter for whether the plan succeeds: it matters only that
the brackets are nested.

`Nested` is the grammar of nested brackets of four types.  A stack of open brackets decides it
(`follow_nil_eq_some`), and the open scopes of a plan, without their sorts, are that stack
(`Planner.step_brackets`).
-/

namespace SnippetProfiler.Braced

/-! ### Brackets -/

/-- One of the two sides of a pair of brackets. -/
inductive Side where
  | opening (b : Bracket)
  | closing (b : Bracket)
  deriving DecidableEq, Repr

/-- The sides of brackets among the marks. -/
def markSides (text : String) : List Side :=
  match text with
  | "(" => [.opening .round]
  | ")" => [.closing .round]
  | "[" => [.opening .square]
  | "]" => [.closing .square]
  | "\x7b" => [.opening .curly]
  | "\x7d" => [.closing .curly]
  | _ => []

/-- The sides of brackets that a token is.  A piece in the middle of a template closes a
substitution and opens another one. -/
def Token.sides (t : Token) : List Side :=
  match t.kind with
  | .mark => markSides t.text
  | .template =>
    (if t.closesSubstitution then [.closing .template] else [])
      ++ if t.opensSubstitution then [.opening .template] else []
  | _ => []

/-- Brackets that are nested: each one that opens is closed by one of its type, and what stands
between the two is nested. -/
inductive Nested : List Side → Prop
  | nil : Nested []
  | pair {b : Bracket} {inside behind : List Side} (hinside : Nested inside)
      (hbehind : Nested behind) : Nested (.opening b :: (inside ++ .closing b :: behind))

/-- The brackets that are open behind some sides, innermost first, if each side that closes fits
the innermost open bracket. -/
def follow : List Bracket → List Side → Option (List Bracket)
  | stack, [] => some stack
  | stack, .opening b :: sides => follow (b :: stack) sides
  | b' :: stack, .closing b :: sides => if b' = b then follow stack sides else none
  | [], .closing _ :: _ => none

theorem follow_append (stack : List Bracket) (v w : List Side) :
  follow stack (v ++ w) = (follow stack v).bind fun stack => follow stack w
  := by
  fun_induction follow stack v with
  | case1 => rfl
  | case2 stack b sides ih => rw [List.cons_append, follow, ih]
  | case3 stack b sides ih => rw [List.cons_append, follow, if_pos rfl, ih]
  | case4 b' stack b sides hne => rw [List.cons_append, follow, if_neg hne, Option.bind_none]
  | case5 => rfl

/-- The brackets of a stack can be closed, innermost first. -/
theorem follow_closing (stack : List Bracket) :
  follow stack (stack.map .closing) = some []
  := by
  induction stack with
  | nil => rfl
  | cons b stack ih => rw [List.map_cons, follow, if_pos rfl, ih]

/-- Only the open brackets can be closed. -/
theorem eq_of_follow_closing {stack bs : List Bracket}
    (h : follow stack (bs.map .closing) = some []) :
  stack = bs
  := by
  induction bs generalizing stack with
  | nil =>
      cases h
      rfl
  | cons b bs ih =>
      cases stack with
      | nil => cases h
      | cons b' stack =>
          rw [List.map_cons, follow] at h
          split at h
          · rename_i heq
            rw [heq, ih h]
          · cases h

/-- Nested brackets leave the open ones as they were. -/
theorem Nested.follow {w : List Side} (h : Nested w) (stack : List Bracket) :
  follow stack w = some stack
  := by
  induction h generalizing stack with
  | nil => rfl
  | pair _ _ ihinside ihbehind =>
      rw [Braced.follow, follow_append, ihinside, Option.bind_some, Braced.follow, if_pos rfl,
        ihbehind]

/-- The sides close the brackets of the stack, and are nested in between. -/
inductive Closes : List Bracket → List Side → Prop
  | nil {w : List Side} (h : Nested w) : Closes [] w
  | cons {b : Bracket} {stack : List Bracket} {v w : List Side} (hv : Nested v)
      (hw : Closes stack w) : Closes (b :: stack) (v ++ .closing b :: w)

/-- A nested pair may stand in front. -/
theorem Closes.pair {b : Bracket} {stack : List Bracket} {v w : List Side} (hv : Nested v)
    (h : Closes stack w) :
  Closes stack (.opening b :: (v ++ .closing b :: w))
  := by
  cases h with
  | nil hw => apply Closes.nil (Nested.pair hv hw)
  | cons hu hw =>
      have hpair : Nested (.opening b :: (v ++ .closing b :: _)) := Nested.pair hv hu
      simpa only [List.cons_append, List.append_assoc] using Closes.cons hpair hw

/-- Sides behind which no bracket is open close those that were. -/
theorem closes_of_follow {stack : List Bracket} {w : List Side}
    (h : Braced.follow stack w = some []) :
  Closes stack w
  := by
  fun_induction Braced.follow stack w with
  | case1 =>
      cases h
      apply Closes.nil Nested.nil
  | case2 stack b sides ih =>
      cases ih h with
      | cons hv hw => apply hw.pair hv
  | case3 stack b sides ih => apply Closes.cons Nested.nil (ih h)
  | case4 => cases h
  | case5 => cases h

/-- Sides leave brackets open exactly when they are nested once those are closed. -/
theorem follow_nil_eq_some {w : List Side} {stack : List Bracket} :
  Braced.follow [] w = some stack ↔ Nested (w ++ stack.map .closing)
  := by
  constructor
  · intro h
    have hall : Braced.follow [] (w ++ stack.map .closing) = some [] := by
      rw [follow_append, h, Option.bind_some, follow_closing]
    cases closes_of_follow hall with
    | nil hw => exact hw
  · intro h
    have hall := h.follow []
    rw [follow_append, Option.bind_eq_some_iff] at hall
    obtain ⟨open', hopen, hclosing⟩ := hall
    rw [hopen, eq_of_follow_closing hclosing]

namespace Planner

/-! ### The brackets of open scopes -/

/-- The brackets that opened scopes, innermost first.  No bracket opened the outermost scope. -/
def bracketsOf : Scope → List Scope → List Bracket
  | _, [] => []
  | inner, s :: outer => inner.bracket :: bracketsOf s outer

/-- The brackets that are open. -/
def brackets (p : Planner) : List Bracket := bracketsOf p.inner p.outer

variable {p q : Planner} {t : Token} {rest : List Token} {hooks : List Insertion}

/-- The brackets depend on the innermost scope only through its bracket. -/
theorem brackets_congr {s : Scope} (h : s.bracket = p.inner.bracket) :
  ({ p with inner := s } : Planner).brackets = p.brackets
  := by
  rw [brackets, brackets]
  cases p.outer with
  | nil => rfl
  | cons s' outer =>
      rw [bracketsOf, bracketsOf, h]

theorem length_brackets (p : Planner) :
  p.brackets.length = p.outer.length
  := by
  rw [brackets]
  generalize p.inner = s
  induction p.outer generalizing s with
  | nil => rfl
  | cons s' outer ih => rw [bracketsOf, List.length_cons, List.length_cons, ih]

theorem brackets_setDue (p : Planner) (due : Option Assignment) :
  (p.setDue due).brackets = p.brackets
  := by
  rw [setDue]
  split
  · rename_i hinner
    apply brackets_congr
    rw [hinner]
    rfl
  · rfl

theorem brackets_declareNext (p : Planner) (next : Option Token) :
  (p.declareNext next).brackets = p.brackets
  := by
  unfold declareNext
  split
  · rename_i hinner
    split
    · apply brackets_congr
      rw [hinner]
      rfl
    · rfl
  · rfl

theorem brackets_await (p : Planner) (t : Token) :
  (p.await t).brackets = p.brackets
  := by
  rw [await]
  split
  · rfl
  · split
    · rfl
    · rfl

theorem brackets_openBrace (p : Planner) (t : Token) (rest : List Token) :
  (p.openBrace t rest).brackets = .curly :: p.brackets
  := by
  rw [openBrace]
  split
  · rfl
  split
  · rfl
  split
  · rfl
  · rfl

/-- A scope can be closed when the bracket fits the innermost open one. -/
theorem pop_brackets (p : Planner) (b : Bracket) (sides : List Side) :
  follow p.brackets (.closing b :: sides)
    = (p.pop b).bind fun q => follow q.brackets sides
  := by
  rw [brackets, pop]
  cases p.outer with
  | nil => rfl
  | cons s outer =>
      rw [bracketsOf, follow]
      split
      · rfl
      · rfl

/-! ### Steps -/

/-- What the scopes that are open become, if nothing is wrong. -/
def bracketsBehind (r : Except PlanError (Planner × List Insertion)) : Option (List Bracket) :=
  r.toOption.map fun r => r.1.brackets

theorem bracketsBehind_close (p : Planner) (b : Bracket) (t : Token) (hooks : List Insertion) :
  bracketsBehind (p.close b t hooks) = follow p.brackets [.closing b]
  := by
  rw [pop_brackets, close]
  cases p.pop b with
  | none => rfl
  | some q => rfl

theorem bracketsBehind_readMark (p : Planner) (t : Token) (rest : List Token) :
  bracketsBehind (p.readMark t rest) = follow p.brackets (markSides t.text)
  := by
  rw [readMark]
  split
  · rename_i htext
    rw [htext]
    exact congrArg some (brackets_setDue p none)
  · rename_i htext
    rw [htext]
    exact congrArg some (brackets_declareNext p rest.head?)
  · rename_i htext
    rw [htext]
    split
    · rfl
    · rfl
  · rename_i htext
    rw [htext]
    rfl
  · rename_i htext
    rw [htext]
    exact congrArg some (brackets_openBrace p t rest)
  · rename_i htext
    rw [htext]
    apply bracketsBehind_close
  · rename_i htext
    rw [htext]
    apply bracketsBehind_close
  · rename_i htext
    rw [htext]
    apply bracketsBehind_close
  · rename_i hopen hsquare hcurly hround hclose hbrace
    have hsides : markSides t.text = [] := by
      rw [markSides]
      · exact hopen
      · exact hround
      · exact hsquare
      · exact hclose
      · exact hcurly
      · exact hbrace
    rw [hsides]
    rfl

theorem bracketsBehind_readTemplate (p : Planner) (ht : t.kind = .template) :
  bracketsBehind (p.readTemplate t) = follow p.brackets t.sides
  := by
  have hopened (q : Planner) :
      some (if t.opensSubstitution then q.push .substitution else q).brackets
        = follow q.brackets (if t.opensSubstitution then [.opening .template] else []) := by
    split
    · rfl
    · rfl
  rw [Token.sides, ht, readTemplate]
  simp only
  split
  · rw [List.singleton_append, pop_brackets]
    cases p.pop .template with
    | none => rfl
    | some q => apply hopened
  · apply hopened

theorem bracketsBehind_effect (p : Planner) (t : Token) (starts : Bool) (rest : List Token) :
  bracketsBehind (p.effect t starts rest) = follow p.brackets t.sides
  := by
  rw [effect]
  split
  · rename_i hkind
    rw [Token.sides, hkind]
    exact congrArg some (brackets_await p t)
  · rename_i hkind
    apply bracketsBehind_readTemplate p hkind
  · rename_i hkind
    rw [Token.sides, hkind]
    apply bracketsBehind_readMark
  · rename_i hidentifier htemplate hmark
    rw [Token.sides]
    split
    · cases hmark ‹_›
    · cases htemplate ‹_›
    · rfl

/-- A step closes and opens the brackets of its token. -/
theorem step_brackets (p : Planner) (t : Token) (rest : List Token) :
  bracketsBehind (p.step t rest) = follow p.brackets t.sides
  := by
  have hopening : (if p.starts t then p.beginStatement t rest.head? else (p, [])).1.brackets
      = p.brackets := by
    split
    · apply brackets_setDue
    · rfl
  rw [step, ← hopening, ← bracketsBehind_effect _ t (p.starts t) rest]
  simp only
  generalize (if p.starts t then p.beginStatement t rest.head? else (p, [])).1.effect t
    (p.starts t) rest = r
  cases r with
  | error e => rfl
  | ok r => rfl

theorem brackets_of_step (h : p.step t rest = .ok (q, hooks)) :
  follow p.brackets t.sides = some q.brackets
  := by
  rw [← step_brackets p t rest, h]
  rfl

theorem follow_of_step_error {e : PlanError} (h : p.step t rest = .error e) :
  follow p.brackets t.sides = none
  := by
  rw [← step_brackets p t rest, h]
  rfl

/-- A token is never refused for brackets that are still open. -/
theorem step_ne_unclosed (p : Planner) (t : Token) (rest : List Token) :
  p.step t rest ≠ .error .unclosed
  := by
  intro h
  simp only [step] at h
  split at h
  · rename_i heffect
    cases h
    rw [effect] at heffect
    split at heffect
    · cases heffect
    · rw [readTemplate] at heffect
      split at heffect
      · split at heffect
        · cases heffect
        · cases heffect
      · cases heffect
    · have hclose (p : Planner) (b : Bracket) (due : List Insertion) :
          p.close b t due ≠ .error .unclosed := by
        rw [close]
        split
        · rintro ⟨⟩
        · rintro ⟨⟩
      rw [readMark] at heffect
      split at heffect
      · cases heffect
      · cases heffect
      · cases heffect
      · cases heffect
      · cases heffect
      · apply hclose _ _ _ heffect
      · apply hclose _ _ _ heffect
      · apply hclose _ _ _ heffect
      · cases heffect
    · cases heffect
  · cases h

theorem brackets_eq_nil (p : Planner) :
  p.brackets = [] ↔ p.outer.isEmpty = true
  := by
  rw [List.isEmpty_iff, ← List.length_eq_zero_iff, length_brackets, List.length_eq_zero_iff]

/-- A run succeeds when its tokens close all open brackets, and it says that brackets are not closed
when that is all that is wrong. -/
theorem run_brackets (p : Planner) (stop : Nat) (ts : List Token) :
  ((∃ hooks, p.run stop ts = .ok hooks) ↔ follow p.brackets (ts.flatMap Token.sides) = some [])
    ∧ (p.run stop ts = .error .unclosed
      ↔ ∃ bs ≠ [], follow p.brackets (ts.flatMap Token.sides) = some bs)
  := by
  induction ts generalizing p stop with
  | nil =>
      rw [run, List.flatMap_nil, follow, Option.some.injEq, brackets_eq_nil]
      split
      · rename_i hempty
        constructor
        · exact ⟨fun _ => hempty, fun _ => ⟨_, rfl⟩⟩
        · constructor
          · rintro ⟨⟩
          · rintro ⟨bs, hne, hbs⟩
            cases hbs
            cases hne ((brackets_eq_nil p).mpr hempty)
      · rename_i hempty
        constructor
        · constructor
          · rintro ⟨hooks, ⟨⟩⟩
          · intro h
            cases hempty h
        · constructor
          · intro _
            exact ⟨_, fun h => hempty ((brackets_eq_nil p).mp h), rfl⟩
          · intro _
            rfl
  | cons t ts ih =>
      rw [List.flatMap_cons, follow_append]
      cases hstep : p.step t ts with
      | error e =>
          simp only [run, hstep, follow_of_step_error hstep, Option.bind_none]
          constructor
          · constructor
            · rintro ⟨hooks, ⟨⟩⟩
            · rintro ⟨⟩
          · constructor
            · rintro ⟨⟩
              cases step_ne_unclosed p t ts hstep
            · rintro ⟨bs, -, ⟨⟩⟩
      | ok r =>
          obtain ⟨q, hooks⟩ := r
          simp only [run, hstep, brackets_of_step hstep, Option.bind_some]
          obtain ⟨hok, hunclosed⟩ := ih q t.stop
          rw [← hok, ← hunclosed]
          cases q.run t.stop ts with
          | error e => simp
          | ok more => simp

end Planner

/-- A plan succeeds exactly when the brackets among the tokens are nested, whatever else the tokens
are, and otherwise it says what is wrong.  It says that brackets are not closed exactly when closing
some would make them nested. -/
theorem plan_isOk_iff_nested (tokens : List Token) :
  ((∃ hooks, plan tokens = .ok hooks) ↔ Nested (tokens.flatMap Token.sides))
    ∧ ((∃ e, plan tokens = .error e) ↔ ¬ Nested (tokens.flatMap Token.sides))
    ∧ (plan tokens = .error .unclosed
      ↔ ∃ bs ≠ [], Nested (tokens.flatMap Token.sides ++ bs.map .closing))
  := by
  obtain ⟨hok, hunclosed⟩ := Planner.run_brackets { inner := openBlock tokens 0 } 0 tokens
  have hnone : ({ inner := openBlock tokens 0 } : Planner).brackets = [] := rfl
  rw [← plan, hnone] at hok hunclosed
  have hnested : (∃ hooks, plan tokens = .ok hooks) ↔ Nested (tokens.flatMap Token.sides) := by
    rw [hok, follow_nil_eq_some, List.map_nil, List.append_nil]
  use hnested
  constructor
  · rw [← hnested]
    cases plan tokens with
    | error e => simp
    | ok hooks => simp
  · simp only [hunclosed, follow_nil_eq_some]

end SnippetProfiler.Braced
