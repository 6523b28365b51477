import SnippetProfiler.Braced.Plan
import SnippetProfiler.Proofs.Braced.Hooks

/-!
# The places of planned hooks

A hook can be written between two tokens when it does not run into the one in front of it, and
when the slash behind it, if there is one, means the same as before.  `plan_fits` says that this
holds for each planned hook.

A plan goes through the tokens once.  A hook of a function goes to a place that the plan passed
long before, so that a scope has to be safe: whatever name the function has, its hook fits at the
place that the scope remembers.
-/

namespace SnippetProfiler.Braced

/-! ### Places -/

/-- Whether nothing that stands behind a token runs into it. -/
def Token.isSealed (t : Token) : Bool :=
  t.kind = .text || t.kind = .template || t.isMark [";", "\x7b", "\x7d"]

/-- The first of the tokens does not begin with a slash. -/
def IsQuiet (ts : List Token) : Prop := ∀ t ∈ ts.head?, t.text.toList.head? ≠ some '/'

/-- A hook can be written between the token `previous` and the tokens `ts`. -/
structure Insertion.IsBetween (i : Insertion) (previous : Option Token) (ts : List Token) :
    Prop where
  place : (∃ q ∈ previous, i.position = q.stop) ∨ (∃ t ∈ ts.head?, i.position = t.start)
    ∨ (previous = none ∧ i.position = 0)
  apart : ∀ q ∈ previous, i.position = q.stop → q.isSealed = true ∨ i.hook.isSeparate = true
  quiet : regexAfter previous = true ∨ IsQuiet ts

/-- A hook can be written somewhere behind the token `previous`, among the tokens. -/
def Insertion.Fits (i : Insertion) : Option Token → List Token → Prop
  | previous, [] => i.IsBetween previous []
  | previous, t :: ts => i.IsBetween previous (t :: ts) ∨ Fits i (some t) ts

theorem Insertion.IsBetween.fits {i : Insertion} {previous : Option Token} {ts : List Token}
    (h : i.IsBetween previous ts) :
  i.Fits previous ts
  := by
  cases ts with
  | nil => exact h
  | cons t ts => exact .inl h

theorem isQuiet_nil :
  IsQuiet []
  := by
  rintro _ ⟨⟩

/-- A token with another first character than a slash is quiet. -/
theorem isQuiet_cons {t : Token} {ts : List Token} (h : t.text.toList.head? ≠ some '/') :
  IsQuiet (t :: ts)
  := by
  rintro _ ⟨⟩
  exact h

theorem Token.kind_eq_of_isName {t : Token} (h : t.isName = true) :
  t.kind = .identifier
  := by
  rw [Token.isName, Bool.and_eq_true, decide_eq_true_eq] at h
  exact h.1

/-- An identifier at the front of linked tokens is a word. -/
theorem Linked.isWord {previous : Option Token} {ts : List Token} (h : Linked previous ts)
    {t : Token} (ht : ts.head? = some t) (hkind : t.kind = .identifier) :
  IsWord t.text.toList
  := by
  cases ts with
  | nil => cases ht
  | cons u ts =>
      cases ht
      apply h.1.word hkind

theorem IsWord.head?_ne {w : List Char} (h : IsWord w) :
  w.head? ≠ some '/'
  := by
  obtain ⟨c, cs, rfl, -, hc, -⟩ := h
  rintro ⟨⟩
  cases hc

/-! ### Beginnings of statements -/

/-- A token that is no mark is quiet, unless a slash in its place begins a regular expression. -/
theorem Token.Follows.quiet {previous : Option Token} {t : Token} (h : t.Follows previous)
    (hkind : t.kind ≠ .mark) (ts : List Token) :
  regexAfter previous = true ∨ IsQuiet (t :: ts)
  := by
  by_cases hslash : t.text.toList.head? = some '/'
  · obtain hmark | hregex := h.slash hslash
    · cases hkind hmark
    · exact .inl hregex
  · exact .inr (isQuiet_cons hslash)

/-- Any hook can be written in front of a token that begins a statement. -/
theorem isBetween_of_starts {p : Planner} {t : Token} (ht : t.Follows p.previous)
    (hstarts : p.starts t = true) (h : Hook) (rest : List Token) :
  (⟨t.start, h⟩ : Insertion).IsBetween p.previous (t :: rest)
  := by
  rw [Planner.starts] at hstarts
  simp only [Bool.and_eq_true, decide_eq_true_eq] at hstarts
  obtain ⟨⟨⟨⟨-, hmark⟩, -⟩, -⟩, hstarts⟩ := hstarts
  constructor
  · right
    left
    use t, rfl
  · intro q hq htouch
    left
    rw [hq] at hstarts
    simp only at hstarts
    split at hstarts
    · cases hstarts
    split at hstarts
    · rename_i hprevious
      rw [Token.isSealed, hprevious, Bool.or_true]
    split at hstarts
    · cases hstarts
    · -- The token is on a later line, which a token in front of it reaches only if it is a text
      -- or a piece of a template.
      rename_i hline
      rw [Bool.or_eq_true, decide_eq_true_eq, decide_eq_true_eq, not_or, not_not] at hline
      rw [Token.isSealed]
      by_cases htext : q.kind = .text
      · simp [htext]
      by_cases htemplate : q.kind = .template
      · simp [htemplate]
      exfalso
      apply hline.2
      apply ht.line hline.1 q hq htouch.symm htext htemplate
  · apply ht.quiet hmark

/-- A hook that begins with a semicolon can be written in front of a token that is quiet. -/
theorem isBetween_of_quiet {t : Token} (ht : t.text.toList.head? ≠ some '/') {h : Hook}
    (hseparate : h.isSeparate = true) (previous : Option Token) (rest : List Token) :
  (⟨t.start, h⟩ : Insertion).IsBetween previous (t :: rest)
  := by
  constructor
  · right
    left
    use t, rfl
  · intro _ _ _
    exact .inr hseparate
  · exact .inr (isQuiet_cons ht)

/-- Any hook can be written behind a semicolon or an opening brace. -/
theorem isBetween_of_isMark {t : Token} (ht : t.isMark [";", "\x7b"] = true) (h : Hook)
    (rest : List Token) :
  (⟨t.stop, h⟩ : Insertion).IsBetween (some t) rest
  := by
  rw [Token.isMark, Bool.and_eq_true, decide_eq_true_eq, List.contains_iff_mem] at ht
  obtain ⟨hkind, htext⟩ := ht
  constructor
  · exact .inl ⟨t, rfl, rfl⟩
  · rintro _ ⟨⟩ _
    left
    simp only [List.mem_cons, List.not_mem_nil, or_false] at htext
    obtain htext | htext := htext
    · simp [Token.isSealed, Token.isMark, hkind, htext]
    · simp [Token.isSealed, Token.isMark, hkind, htext]
  · left
    simp only [List.mem_cons, List.not_mem_nil, or_false] at htext
    obtain htext | htext := htext
    · simp [regexAfter, hkind, htext]
    · simp [regexAfter, hkind, htext]

/-- Any hook can be written behind a text, in front of tokens that are quiet. -/
theorem isBetween_of_text {t : Token} (ht : t.kind = .text) (h : Hook) {rest : List Token}
    (hrest : IsQuiet rest) :
  (⟨t.stop, h⟩ : Insertion).IsBetween (some t) rest
  := by
  constructor
  · exact .inl ⟨t, rfl, rfl⟩
  · rintro _ ⟨⟩ _
    left
    rw [Token.isSealed, decide_eq_true ht]
    rfl
  · exact .inr hrest

/-- A hook that begins with a semicolon can be written at the end. -/
theorem isBetween_end {previous : Option Token} {position : Nat}
    (hposition : position = (previous.map Token.stop).getD 0) {h : Hook}
    (hseparate : h.isSeparate = true) :
  (⟨position, h⟩ : Insertion).IsBetween previous []
  := by
  constructor
  · cases previous with
    | none => exact .inr (.inr ⟨rfl, hposition⟩)
    | some q => exact .inl ⟨q, rfl, hposition⟩
  · intro _ _ _
    exact .inr hseparate
  · exact .inr isQuiet_nil

/-! ### Directives -/

/-- A hook that can be written in front of the directives of a block can also be written behind
them, with a semicolon if it needs one. -/
theorem behindDirectives_fits {ts : List Token} {previous : Option Token} {top : Nat}
    {separate : Bool} {name : String} (hts : Linked previous ts)
    (h : (⟨top, .rebind separate name⟩ : Insertion).IsBetween previous ts) :
  (⟨(behindDirectives ts top separate).1,
    .rebind (behindDirectives ts top separate).2 name⟩ : Insertion).Fits previous ts
  := by
  fun_induction behindDirectives ts top separate generalizing previous with
  | case1 => exact h
  | case2 top separate t ht =>
      right
      apply isBetween_of_text ht _ isQuiet_nil
  | case3 => apply h.fits
  | case4 => apply h.fits
  | case5 t next rest top separate ht hnext ih =>
      right
      right
      have hkind := hts.2.1.semicolon hnext
      apply ih hts.2.2
      apply isBetween_of_isMark
      simp [Token.isMark, hkind, hnext]
  | case6 t next rest top separate ht _ hnext ih =>
      right
      rw [not_ne_iff] at ht
      apply ih hts.2
      apply isBetween_of_text ht
      apply isQuiet_cons
      simp only [Bool.or_eq_true, Bool.and_eq_true, decide_eq_true_eq] at hnext
      obtain hbrace | ⟨-, hword | htext⟩ := hnext
      · rw [hbrace]
        decide
      · apply (hts.2.1.word hword).head?_ne
      · apply hts.2.1.quote htext
  | case7 => apply h.fits

/-! ### Safe scopes -/

/-- The names of a statement are words. -/
def Assignment.IsProper (a : Assignment) : Prop := ∀ name ∈ a.names, IsWord name.toList

variable {P : Insertion → Prop}

/-- A scope in which hooks go to places where the property `P` lets them stand. -/
def Scope.IsSafe (P : Insertion → Prop) : Scope → Prop
  | .block top separate due =>
    (∀ name, IsWord name.toList → P ⟨top, .rebind separate name⟩) ∧ ∀ a ∈ due, a.IsProper
  | _ => True

/-- No hook of a function goes to a scope that is no block, and nothing is due in it. -/
theorem Scope.isSafe_of_not_isBlock {s : Scope} (hs : s.isBlock = false) :
  s.IsSafe P
  := by
  cases s with
  | block => cases hs
  | object | classBody | switchBody | group | header | list | substitution => trivial

/-- A hook of words that stands where it may. -/
def Insertion.IsSafe (P : Insertion → Prop) (i : Insertion) : Prop := i.hook.IsProper ∧ P i

/-- The scope of a block is safe when a hook can be written at its front. -/
theorem openBlock_isSafe {previous : Option Token} {ts : List Token} {top : Nat}
    (hts : Linked previous ts) (hP : ∀ i : Insertion, i.Fits previous ts → P i)
    (h : ∀ name, (⟨top, .rebind false name⟩ : Insertion).IsBetween previous ts) :
  (openBlock ts top).IsSafe P
  := by
  constructor
  · intro name _
    apply hP
    apply behindDirectives_fits hts (h name)
  · rintro _ ⟨⟩

namespace Planner

variable {p q : Planner} {t : Token} {rest : List Token} {hooks : List Insertion}

/-- A plan whose open scopes are safe. -/
def IsSafe (P : Insertion → Prop) (p : Planner) : Prop := ∀ s ∈ p.inner :: p.outer, s.IsSafe P

theorem IsSafe.push (hp : p.IsSafe P) {s : Scope} (hs : s.IsSafe P) :
  (p.push s).IsSafe P
  := by
  intro s' hs'
  rw [Planner.push, List.mem_cons] at hs'
  obtain rfl | hs' := hs'
  · exact hs
  · apply hp s' hs'

theorem IsSafe.setDue (hp : p.IsSafe P) {due : Option Assignment} (hdue : ∀ a ∈ due, a.IsProper) :
  (p.setDue due).IsSafe P
  := by
  rw [Planner.setDue]
  split
  · rename_i top separate old hinner
    intro s hs
    rw [List.mem_cons] at hs
    obtain rfl | hs := hs
    · have hblock := hp p.inner List.mem_cons_self
      rw [hinner] at hblock
      exact ⟨hblock.1, hdue⟩
    · apply hp s (List.mem_cons_of_mem _ hs)
  · exact hp

theorem setDue_previous (p : Planner) (due : Option Assignment) :
  (p.setDue due).previous = p.previous
  := by
  rw [setDue]
  split
  · rfl
  · rfl

/-- The hook that is due stands where it is asked for. -/
theorem mem_dueHooks (hp : p.IsSafe P) {position : Nat} {separate : Bool} {i : Insertion}
    (hi : i ∈ p.dueHooks position separate) :
  ∃ h : Hook, i = ⟨position, h⟩ ∧ h.IsProper ∧ h.isSeparate = separate
  := by
  rw [dueHooks] at hi
  split at hi
  · rename_i top old a hinner
    have hblock := hp p.inner List.mem_cons_self
    rw [hinner] at hblock
    rw [List.mem_singleton] at hi
    exact ⟨_, hi, hblock.2 a rfl, rfl⟩
  · cases hi

theorem assignment?_isProper (hts : Linked p.previous (t :: rest)) :
  ∀ a ∈ assignment? t rest.head?, a.IsProper
  := by
  intro a ha
  cases hnext : rest.head? with
  | none =>
      rw [hnext] at ha
      cases ha
  | some next =>
      rw [hnext, assignment?] at ha
      split at ha
      · split at ha
        · rename_i hname
          cases ha
          intro name hmem
          rw [List.mem_singleton] at hmem
          subst hmem
          apply hts.2.isWord hnext (Token.kind_eq_of_isName hname)
        · cases ha
      · split at ha
        · rename_i hname
          rw [Bool.and_eq_true] at hname
          cases ha
          intro name hmem
          rw [List.mem_singleton] at hmem
          subst hmem
          apply hts.1.word (Token.kind_eq_of_isName hname.1)
        · cases ha

theorem IsSafe.declareNext (hp : p.IsSafe P) (hts : Linked (some t) rest) :
  (p.declareNext rest.head?).IsSafe P
  := by
  unfold Planner.declareNext
  split
  · rename_i top separate a name hinner hnext
    split
    · rename_i hname
      rw [Bool.and_eq_true] at hname
      have hblock := hp p.inner List.mem_cons_self
      rw [hinner] at hblock
      intro s hs
      rw [List.mem_cons] at hs
      obtain rfl | hs := hs
      · use hblock.1
        rintro _ ⟨⟩ other hother
        rw [List.mem_append, List.mem_singleton] at hother
        obtain hother | rfl := hother
        · apply hblock.2 a rfl other hother
        · apply hts.isWord hnext (Token.kind_eq_of_isName hname.2)
      · apply hp s (List.mem_cons_of_mem _ hs)
    · exact hp
  · exact hp

theorem IsSafe.functionHooks (hp : p.IsSafe P) (hts : Linked (some t) rest) (starts : Bool) :
  ∀ i ∈ p.functionHooks t starts rest.head?, i.IsSafe P
  := by
  intro i hi
  unfold Planner.functionHooks at hi
  split at hi
  · rename_i top separate due name hinner hnext
    split at hi
    · rename_i hname
      rw [Bool.and_eq_true, Bool.and_eq_true, decide_eq_true_eq, decide_eq_true_eq] at hname
      have hblock := hp p.inner List.mem_cons_self
      rw [hinner] at hblock
      have hword := hts.isWord hnext hname.1.2
      rw [List.mem_singleton] at hi
      subst hi
      exact ⟨hword, hblock.1 name.text hword⟩
    · cases hi
  · cases hi

theorem IsSafe.await (hp : p.IsSafe P) (t : Token) :
  (p.await t).IsSafe P
  := by
  rw [Planner.await]
  split
  · exact hp
  · split
    · exact hp
    · exact hp

theorem IsSafe.openBrace (hp : p.IsSafe P) (hts : Linked (some t) rest)
    (hP : ∀ i : Insertion, i.Fits (some t) rest → P i) (ht : t.isMark [";", "\x7b"] = true) :
  (p.openBrace t rest).IsSafe P
  := by
  rw [Planner.openBrace]
  split
  · apply IsSafe.push (p := { p with classAt := none }) hp
    trivial
  split
  · apply IsSafe.push (p := { p with switchAt := none }) hp
    trivial
  split
  · apply hp.push
    apply openBlock_isSafe hts hP
    intro name
    apply isBetween_of_isMark ht
  · apply hp.push
    trivial

theorem IsSafe.pop (hp : p.IsSafe P) {b : Bracket} (h : p.pop b = some q) :
  q.IsSafe P
  := by
  rw [Planner.pop] at h
  split at h
  · cases h
  · rename_i s outer houter
    split at h
    · cases h
      intro s' hs'
      apply hp s'
      rw [houter]
      apply List.mem_cons_of_mem _ hs'
    · cases h

/-! ### What a token may do -/

theorem eq_of_close {b : Bracket} {due : List Insertion} (h : p.close b t due = .ok (q, hooks)) :
  p.pop b = some q ∧ hooks = due
  := by
  rw [close] at h
  split at h
  · rename_i hpop
    cases h
    exact ⟨hpop, rfl⟩
  · cases h

/-- A piece of a template writes no hooks.  It may close a substitution, and it may open one. -/
theorem exists_of_readTemplate (h : p.readTemplate t = .ok (q, hooks)) :
  hooks = [] ∧ ∃ r, (r = p ∨ p.pop .template = some r) ∧ (q = r ∨ q = r.push .substitution)
  := by
  have hopened (r : Planner) : (if t.opensSubstitution then r.push .substitution else r) = r
      ∨ (if t.opensSubstitution then r.push .substitution else r) = r.push .substitution := by
    split
    · exact .inr rfl
    · exact .inl rfl
  rw [readTemplate] at h
  split at h
  · split at h
    · rename_i r hpop
      cases h
      exact ⟨rfl, r, .inr hpop, hopened r⟩
    · cases h
  · cases h
    exact ⟨rfl, p, .inl rfl, hopened p⟩

/-- Where a plan is behind the mark `t`, and which hooks it writes there. -/
inductive ReadsMark (p : Planner) (t : Token) (rest : List Token) :
    Planner → List Insertion → Prop
  | ends (htext : t.text = ";") : ReadsMark p t rest (p.setDue none) (p.dueHooks t.stop false)
  | goesOn (htext : t.text = ",") : ReadsMark p t rest (p.declareNext rest.head?) []
  | opens {s : Scope} (htext : t.text = "(" ∨ t.text = "[") (hs : s.isBlock = false) :
      ReadsMark p t rest (p.push s) []
  | opensBrace (htext : t.text = "\x7b") : ReadsMark p t rest (p.openBrace t rest) []
  | closes {b : Bracket} {q : Planner} (htext : t.text = ")" ∨ t.text = "]") (hb : b ≠ .curly)
      (hpop : p.pop b = some q) : ReadsMark p t rest q []
  | closesBrace {q : Planner} (htext : t.text = "\x7d") (hpop : p.pop .curly = some q) :
      ReadsMark p t rest q (p.dueHooks t.start true)
  | other (htext : t.text ∉ [";", ",", "(", "[", "\x7b", ")", "]", "\x7d"]) :
      ReadsMark p t rest p []

/-- A mark that is read does one of these. -/
theorem readsMark_of_readMark (h : p.readMark t rest = .ok (q, hooks)) :
  p.ReadsMark t rest q hooks
  := by
  rw [readMark] at h
  split at h
  · rename_i htext
    cases h
    exact .ends htext
  · rename_i htext
    cases h
    exact .goesOn htext
  · rename_i htext
    cases h
    apply ReadsMark.opens (.inl htext)
    split
    · rfl
    · rfl
  · rename_i htext
    cases h
    exact .opens (.inr htext) rfl
  · rename_i htext
    cases h
    exact .opensBrace htext
  · rename_i htext
    obtain ⟨hpop, rfl⟩ := eq_of_close h
    exact .closes (.inl htext) (by decide) hpop
  · rename_i htext
    obtain ⟨hpop, rfl⟩ := eq_of_close h
    exact .closes (.inr htext) (by decide) hpop
  · rename_i htext
    obtain ⟨hpop, rfl⟩ := eq_of_close h
    exact .closesBrace htext hpop
  · rename_i hsemicolon hcomma hopen hsquare hcurly hround hclose hbrace
    cases h
    apply ReadsMark.other
    simp only [List.mem_cons, List.not_mem_nil, or_false, not_or]
    exact ⟨hsemicolon, hcomma, hopen, hsquare, hcurly, hround, hclose, hbrace⟩

/-! ### Steps -/

theorem IsSafe.readTemplate (hp : p.IsSafe P) (h : p.readTemplate t = .ok (q, hooks)) :
  q.IsSafe P ∧ hooks = []
  := by
  obtain ⟨rfl, r, hr, hq⟩ := exists_of_readTemplate h
  have hsafe : r.IsSafe P := by
    obtain rfl | hpop := hr
    · exact hp
    · exact hp.pop hpop
  obtain rfl | rfl := hq
  · exact ⟨hsafe, rfl⟩
  · exact ⟨hsafe.push trivial, rfl⟩

theorem IsSafe.readMark (hp : p.IsSafe P) (hts : Linked p.previous (t :: rest))
    (hP : ∀ i : Insertion, i.Fits p.previous (t :: rest) → P i) (ht : t.kind = .mark)
    (h : p.readMark t rest = .ok (q, hooks)) :
  q.IsSafe P ∧ ∀ i ∈ hooks, i.IsSafe P
  := by
  cases readsMark_of_readMark h with
  | ends htext =>
      have hnone : ∀ a ∈ (none : Option Assignment), a.IsProper := fun _ => nofun
      use hp.setDue hnone
      intro i hi
      obtain ⟨hook, rfl, hproper, -⟩ := mem_dueHooks hp hi
      use hproper
      apply hP
      right
      apply Insertion.IsBetween.fits
      apply isBetween_of_isMark
      simp [Token.isMark, ht, htext]
  | goesOn => exact ⟨hp.declareNext hts.2, fun _ => nofun⟩
  | opens _ hs => exact ⟨hp.push (Scope.isSafe_of_not_isBlock hs), fun _ => nofun⟩
  | opensBrace htext =>
      have hmark : t.isMark [";", "\x7b"] = true := by simp [Token.isMark, ht, htext]
      exact ⟨hp.openBrace hts.2 (fun i hi => hP i (.inr hi)) hmark, fun _ => nofun⟩
  | closes _ _ hpop => exact ⟨hp.pop hpop, fun _ => nofun⟩
  | closesBrace htext hpop =>
      use hp.pop hpop
      intro i hi
      obtain ⟨hook, rfl, hproper, hseparate⟩ := mem_dueHooks hp hi
      use hproper
      apply hP
      left
      apply isBetween_of_quiet _ hseparate
      rw [htext]
      decide
  | other => exact ⟨hp, fun _ => nofun⟩

theorem IsSafe.effect (hp : p.IsSafe P) (hts : Linked p.previous (t :: rest))
    (hP : ∀ i : Insertion, i.Fits p.previous (t :: rest) → P i) {starts : Bool}
    (h : p.effect t starts rest = .ok (q, hooks)) :
  q.IsSafe P ∧ ∀ i ∈ hooks, i.IsSafe P
  := by
  rw [Planner.effect] at h
  split at h
  · cases h
    exact ⟨hp.await t, hp.functionHooks hts.2 starts⟩
  · obtain ⟨hq, rfl⟩ := hp.readTemplate h
    use hq
    intro i hi
    cases hi
  · rename_i hkind
    apply hp.readMark hts hP hkind h
  · cases h
    use hp
    intro i hi
    cases hi

theorem IsSafe.beginStatement (hp : p.IsSafe P) (hts : Linked p.previous (t :: rest))
    (hP : ∀ i : Insertion, i.Fits p.previous (t :: rest) → P i) (hstarts : p.starts t = true) :
  (p.beginStatement t rest.head?).1.IsSafe P
    ∧ ∀ i ∈ (p.beginStatement t rest.head?).2, i.IsSafe P
  := by
  constructor
  · apply hp.setDue (assignment?_isProper hts)
  · have hfits (h : Hook) : P ⟨t.start, h⟩ := by
      apply hP
      left
      apply isBetween_of_starts hts.1 hstarts
    intro i hi
    rw [Planner.beginStatement, List.mem_append, List.mem_singleton] at hi
    obtain hi | rfl := hi
    · obtain ⟨hook, rfl, hproper, -⟩ := mem_dueHooks hp hi
      exact ⟨hproper, hfits hook⟩
    · exact ⟨trivial, hfits _⟩

/-- What a token plans is safe, and leaves the scopes safe. -/
theorem IsSafe.step (hp : p.IsSafe P) (hts : Linked p.previous (t :: rest))
    (hP : ∀ i : Insertion, i.Fits p.previous (t :: rest) → P i)
    (h : p.step t rest = .ok (q, hooks)) :
  q.IsSafe P ∧ q.previous = some t ∧ ∀ i ∈ hooks, i.IsSafe P
  := by
  have hopening : ∃ p' opening, (if p.starts t then p.beginStatement t rest.head? else (p, []))
      = (p', opening) ∧ p'.IsSafe P ∧ p'.previous = p.previous ∧ ∀ i ∈ opening, i.IsSafe P := by
    split
    · rename_i hstarts
      obtain ⟨hp', hopening⟩ := hp.beginStatement hts hP hstarts
      exact ⟨_, _, rfl, hp', setDue_previous _ _, hopening⟩
    · use p, [], rfl, hp, rfl
      intro i hi
      cases hi
  obtain ⟨p', opening, heq, hp', hprevious, hopening⟩ := hopening
  simp only [Planner.step, heq] at h
  split at h
  · cases h
  · rename_i r due heffect
    rw [← hprevious] at hts hP
    obtain ⟨hr, hdue⟩ := hp'.effect hts hP heffect
    cases h
    use hr, rfl
    intro i hi
    rw [List.mem_append] at hi
    obtain hi | hi := hi
    · apply hopening i hi
    · apply hdue i hi

/-- A run that succeeds reads its first token and goes on behind it. -/
theorem run_cons {ts : List Token} {stop : Nat} (h : p.run stop (t :: ts) = .ok hooks) :
  ∃ q written more, p.step t ts = .ok (q, written) ∧ q.run t.stop ts = .ok more
    ∧ hooks = written ++ more
  := by
  rw [Planner.run] at h
  split at h
  · cases h
  · rename_i q written hstep
    split at h
    · cases h
    · rename_i more hrun
      cases h
      exact ⟨q, written, more, hstep, hrun, rfl⟩

/-- What a run plans is safe. -/
theorem IsSafe.run {ts : List Token} {stop : Nat} (hp : p.IsSafe P) (hts : Linked p.previous ts)
    (hP : ∀ i : Insertion, i.Fits p.previous ts → P i)
    (hstop : stop = (p.previous.map Token.stop).getD 0) (h : p.run stop ts = .ok hooks) :
  ∀ i ∈ hooks, i.IsSafe P
  := by
  induction ts generalizing p stop hooks with
  | nil =>
      rw [Planner.run] at h
      split at h
      · cases h
        intro i hi
        obtain ⟨hook, rfl, hproper, hseparate⟩ := mem_dueHooks hp hi
        use hproper
        apply hP
        apply isBetween_end hstop hseparate
      · cases h
  | cons t ts ih =>
      obtain ⟨q, due, more, hstep, hrun, rfl⟩ := run_cons h
      obtain ⟨hq, hprevious, hdue⟩ := hp.step hts hP hstep
      intro i hi
      rw [List.mem_append] at hi
      obtain hi | hi := hi
      · apply hdue i hi
      · apply ih hq _ _ _ hrun i hi
        · rw [hprevious]
          exact hts.2
        · rw [hprevious]
          intro i hi
          apply hP
          exact .inr hi
        · rw [hprevious]
          rfl

end Planner

/-- Each planned hook has words for names, and fits among the tokens. -/
theorem plan_isSafe {ts : List Token} {hooks : List Insertion} (hts : Linked none ts)
    (h : plan ts = .ok hooks) :
  ∀ i ∈ hooks, i.IsSafe fun i => i.Fits none ts
  := by
  rw [plan] at h
  apply Planner.IsSafe.run _ hts _ rfl h
  · intro s hs
    rw [List.mem_singleton] at hs
    subst hs
    apply openBlock_isSafe hts
    · intro i hi
      exact hi
    · intro name
      constructor
      · exact .inr (.inr ⟨rfl, rfl⟩)
      · rintro _ ⟨⟩
      · exact .inl rfl
  · intro i hi
    exact hi

end SnippetProfiler.Braced
