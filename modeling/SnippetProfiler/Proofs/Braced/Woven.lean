import SnippetProfiler.Braced.Program
import SnippetProfiler.Proofs.Braced.Places

/-!
# Woven texts

A woven text is the source with hooks in it.  Each hook takes a stretch of the woven text, and
what remains when the stretches are left out is the source.

`Merged` puts the tokens of a source and the tokens of the hooks together.  A token of the source
moves by the length of the hooks in front of it and keeps its kind, its text and its line.
-/

namespace SnippetProfiler.Braced

/-! ### Stretches -/

/-- The characters of a woven text, from `start` up to `stop`, that a hook takes. -/
structure Stretch where
  start : Nat
  stop : Nat
  hook : Hook
  deriving DecidableEq, Repr

/-- The stretch of a hook when `shift` characters of other hooks stand in front of it. -/
def Insertion.stretch (i : Insertion) (shift : Nat) : Stretch :=
  ⟨i.position + shift, i.position + shift + i.hook.text.length, i.hook⟩

/-- The stretches of hooks, which are in order, when `shift` characters of other hooks stand in
front of them. -/
def stretchesFrom (shift : Nat) : List Insertion → List Stretch
  | [] => []
  | i :: rest => i.stretch shift :: stretchesFrom (shift + i.hook.text.length) rest

/-- The stretches of the text that hooks are woven into. -/
def stretches (hooks : List Insertion) : List Stretch := stretchesFrom 0 (ordered hooks)

/-- Whether a place of a woven text lies in one of the stretches. -/
def isTaken (rs : List Stretch) (position : Nat) : Bool :=
  rs.any fun r => r.start ≤ position && position < r.stop

/-- Whether a token of a woven text lies in a stretch. -/
def Stretch.holds (r : Stretch) (t : Token) : Bool := r.start ≤ t.start && t.stop ≤ r.stop

/-- Whether a token of a woven text has no character in common with the stretches. -/
def Token.isRetained (t : Token) (rs : List Stretch) : Bool :=
  rs.all fun r => t.stop ≤ r.start || r.stop ≤ t.start

/-- No stretch begins in front of the text. -/
theorem le_start_of_mem_stretchesFrom {shift n : Nat} {is : List Insertion}
    (his : ∀ i ∈ is, n ≤ i.position) :
  ∀ r ∈ stretchesFrom shift is, n + shift ≤ r.start
  := by
  induction is generalizing shift with
  | nil =>
      intro r hr
      cases hr
  | cons i is ih =>
      rw [List.forall_mem_cons] at his
      intro r hr
      rw [stretchesFrom, List.mem_cons] at hr
      obtain rfl | hr := hr
      · apply Nat.add_le_add_right his.1
      · have h := ih his.2 r hr
        omega

theorem Stretch.holds_eq_true {r : Stretch} {t : Token} :
  r.holds t = true ↔ r.start ≤ t.start ∧ t.stop ≤ r.stop
  := by
  rw [Stretch.holds, Bool.and_eq_true, decide_eq_true_eq, decide_eq_true_eq]

theorem Token.isRetained_eq_true {t : Token} {rs : List Stretch} :
  t.isRetained rs = true ↔ ∀ r ∈ rs, t.stop ≤ r.start ∨ r.stop ≤ t.start
  := by
  simp only [Token.isRetained, List.all_eq_true, Bool.or_eq_true, decide_eq_true_eq]

/-- A token does not lie in a stretch and outside of all stretches. -/
theorem Stretch.not_isRetained {r : Stretch} {t : Token} (ht : t.start < t.stop)
    (h : r.holds t = true) {rs : List Stretch} (hr : r ∈ rs) :
  t.isRetained rs = false
  := by
  rw [Stretch.holds_eq_true] at h
  rw [Bool.eq_false_iff, Ne, Token.isRetained_eq_true]
  intro hretained
  have hapart := hretained r hr
  omega

/-! ### Texts with hooks -/

/-- Characters in front of all hooks stay in front. -/
theorem weaveFrom_eq_append {cs : List Char} {position n : Nat} {is : List Insertion}
    (h : ∀ i ∈ is, position + n ≤ i.position) :
  weaveFrom cs position is = cs.take n ++ weaveFrom (cs.drop n) (position + n) is
  := by
  cases is with
  | nil => rw [weaveFrom, weaveFrom, List.take_append_drop]
  | cons i is =>
      obtain ⟨k, hk⟩ := Nat.exists_eq_add_of_le (h i List.mem_cons_self)
      have hleft : i.position - position = n + k := by omega
      have hright : i.position - (position + n) = k := by omega
      have hmax : max (position + n) i.position = max position i.position := by omega
      simp only [weaveFrom, hleft, hright, hmax, List.take_add, List.drop_drop, List.append_assoc]

/-- A hook that stands at the front is the front of a woven text. -/
theorem weaveFrom_cons (cs : List Char) (i : Insertion) (is : List Insertion) :
  weaveFrom cs i.position (i :: is) = i.hook.text.toList ++ weaveFrom cs i.position is
  := by
  rw [weaveFrom, Nat.sub_self, List.take_zero, List.nil_append, List.drop_zero, Nat.max_self]

/-- The characters at places that are not taken. -/
def freeChars (rs : List Stretch) (position : Nat) (cs : List Char) : List Char :=
  ((cs.zipIdx position).filter fun c => !isTaken rs c.2).map Prod.fst

theorem freeChars_append (rs : List Stretch) (position : Nat) (cs ds : List Char) :
  freeChars rs position (cs ++ ds)
    = freeChars rs position cs ++ freeChars rs (position + cs.length) ds
  := by
  rw [freeChars, List.zipIdx_append, List.filter_append, List.map_append]
  rfl

theorem freeChars_congr {rs : List Stretch} (rs' : List Stretch) {position : Nat}
    {cs : List Char}
    (h : ∀ n, position ≤ n → n < position + cs.length → isTaken rs n = isTaken rs' n) :
  freeChars rs position cs = freeChars rs' position cs
  := by
  rw [freeChars, freeChars]
  congr 1
  apply List.filter_congr
  rintro ⟨c, n⟩ hc
  rw [h n (List.le_snd_of_mem_zipIdx hc) (List.snd_lt_add_of_mem_zipIdx hc)]

theorem freeChars_of_taken {rs : List Stretch} {position : Nat} {cs : List Char}
    (h : ∀ n, position ≤ n → n < position + cs.length → isTaken rs n = true) :
  freeChars rs position cs = []
  := by
  rw [freeChars, List.map_eq_nil_iff, List.filter_eq_nil_iff]
  rintro ⟨c, n⟩ hc
  rw [h n (List.le_snd_of_mem_zipIdx hc) (List.snd_lt_add_of_mem_zipIdx hc)]
  apply Bool.false_ne_true

theorem freeChars_nil (position : Nat) (cs : List Char) :
  freeChars [] position cs = cs
  := by
  have hall : ((cs.zipIdx position).filter fun c => !isTaken [] c.2) = cs.zipIdx position :=
    List.filter_eq_self.mpr fun _ _ => rfl
  rw [freeChars, hall, List.zipIdx_map_fst]

/-- A woven text consists of the characters in front of the first hook, that hook, and the rest of
the characters with the other hooks. -/
theorem weaveFrom_parts {cs : List Char} {position : Nat} {i : Insertion} {is : List Insertion}
    (hsorted : ∀ j ∈ is, i.position ≤ j.position)
    (h : ∀ j ∈ i :: is, position ≤ j.position ∧ j.position ≤ position + cs.length) :
  ∃ front rest, cs = front ++ rest ∧ i.position = position + front.length
    ∧ weaveFrom cs position (i :: is)
      = front ++ (i.hook.text.toList ++ weaveFrom rest i.position is)
    ∧ ∀ j ∈ is, i.position ≤ j.position ∧ j.position ≤ i.position + rest.length
  := by
  rw [List.forall_mem_cons] at h
  obtain ⟨n, hn⟩ := Nat.exists_eq_add_of_le h.1.1
  have hlength : (cs.take n).length = n := by
    rw [List.length_take]
    omega
  have hfront : ∀ j ∈ i :: is, position + n ≤ j.position := by
    rw [← hn, List.forall_mem_cons]
    exact ⟨Nat.le_refl _, hsorted⟩
  use cs.take n, cs.drop n, (List.take_append_drop n cs).symm
  constructor
  · rw [hlength, hn]
  constructor
  · rw [weaveFrom_eq_append hfront, ← hn, weaveFrom_cons]
  · intro j hj
    have hfirst := hsorted j hj
    have hrange := h.2 j hj
    rw [List.length_drop]
    omega

/-- What is left of a woven text without the stretches is the source. -/
theorem freeChars_weaveFrom {cs : List Char} {position shift : Nat} {is : List Insertion}
    (hsorted : is.Pairwise fun i j => i.position ≤ j.position)
    (h : ∀ i ∈ is, position ≤ i.position ∧ i.position ≤ position + cs.length) :
  freeChars (stretchesFrom shift is) (position + shift) (weaveFrom cs position is) = cs
  := by
  induction is generalizing cs position shift with
  | nil => apply freeChars_nil
  | cons i is ih =>
      rw [List.pairwise_cons] at hsorted
      obtain ⟨front, rest, rfl, hfront, hwoven, hlater⟩ := weaveFrom_parts hsorted.1 h
      have hbefore : freeChars (stretchesFrom shift (i :: is)) (position + shift) front = front := by
        rw [freeChars_congr []]
        · apply freeChars_nil
        · intro m _ hm
          show isTaken _ m = false
          rw [isTaken, List.any_eq_false]
          intro r hr
          have hfirst : ∀ j ∈ i :: is, i.position ≤ j.position := by
            rw [List.forall_mem_cons]
            exact ⟨Nat.le_refl _, hsorted.1⟩
          have hle := le_start_of_mem_stretchesFrom hfirst r hr
          rw [Bool.and_eq_true, decide_eq_true_eq]
          omega
      have hinside : freeChars (stretchesFrom shift (i :: is)) (position + shift + front.length)
          i.hook.text.toList = [] := by
        apply freeChars_of_taken
        intro m hle hlt
        rw [String.length_toList] at hlt
        rw [isTaken, List.any_eq_true]
        use i.stretch shift, List.mem_cons_self
        rw [Insertion.stretch, Bool.and_eq_true, decide_eq_true_eq, decide_eq_true_eq]
        simp only
        omega
      have hbehind : freeChars (stretchesFrom shift (i :: is))
          (position + shift + front.length + i.hook.text.toList.length)
          (weaveFrom rest i.position is) = rest := by
        have hplace : position + shift + front.length + i.hook.text.toList.length
            = i.position + (shift + i.hook.text.length) := by
          rw [String.length_toList]
          omega
        rw [hplace, freeChars_congr (stretchesFrom (shift + i.hook.text.length) is)]
        · apply ih hsorted.2 hlater
        · intro m hle _
          have hpast : ((i.stretch shift).start ≤ m && m < (i.stretch shift).stop) = false := by
            rw [Insertion.stretch, Bool.and_eq_false_iff, decide_eq_false_iff_not]
            right
            rw [decide_eq_false_iff_not]
            simp only
            omega
          rw [stretchesFrom, isTaken, List.any_cons, hpast, Bool.false_or]
          rfl
      rw [hwoven, freeChars_append, freeChars_append, hbefore, hinside, hbehind, List.nil_append]

/-- A stretch holds the text of its hook. -/
theorem slice_weaveFrom {cs : List Char} {position shift : Nat} {is : List Insertion}
    (hsorted : is.Pairwise fun i j => i.position ≤ j.position)
    (h : ∀ i ∈ is, position ≤ i.position ∧ i.position ≤ position + cs.length) :
  ∀ r ∈ stretchesFrom shift is,
    ((weaveFrom cs position is).drop (r.start - (position + shift))).take r.hook.text.length
      = r.hook.text.toList
  := by
  induction is generalizing cs position shift with
  | nil =>
      intro r hr
      cases hr
  | cons i is ih =>
      rw [List.pairwise_cons] at hsorted
      obtain ⟨front, rest, rfl, hfront, hwoven, hlater⟩ := weaveFrom_parts hsorted.1 h
      rw [hwoven]
      intro r hr
      rw [stretchesFrom, List.mem_cons] at hr
      obtain rfl | hr := hr
      · have hplace : (i.stretch shift).start - (position + shift) = front.length := by
          rw [Insertion.stretch]
          simp only
          omega
        rw [hplace, List.drop_left]
        apply List.take_left' String.length_toList
      · have hle := le_start_of_mem_stretchesFrom hsorted.1 r hr
        have hplace : r.start - (position + shift) = front.length + (i.hook.text.toList.length
            + (r.start - (i.position + (shift + i.hook.text.length)))) := by
          rw [String.length_toList]
          omega
        rw [hplace, ← List.drop_drop, List.drop_left, ← List.drop_drop, List.drop_left]
        apply ih hsorted.2 hlater r hr

/-! ### Merged tokens -/

/-- What a token is, and its line. -/
def Token.content (t : Token) : TokenKind × String × Nat := (t.kind, t.text, t.line)

/-- A token that is moved by `n` characters. -/
def Token.moved (t : Token) (n : Nat) : Token :=
  { t with start := t.start + n, stop := t.stop + n }

/-- The tokens `ts` of a text and the tokens of hooks, which stand in order and have `shift`
characters of other hooks in front of them, make the tokens `us`. -/
inductive Merged : (shift : Nat) → List Insertion → (ts us : List Token) → Prop
  | done {shift : Nat} : Merged shift [] [] []
  | retained {shift : Nat} {is : List Insertion} {t : Token} {ts us : List Token}
      (hpos : t.start < t.stop) (hstop : ∀ i ∈ is, t.stop ≤ i.position)
      (h : Merged shift is ts us) : Merged shift is (t :: ts) (t.moved shift :: us)
  | inserted {shift : Nat} {i : Insertion} {is : List Insertion} {ts us vs ws : List Token}
      (hscan : scan i.hook.text.toList = .ok ws)
      (hcontent : vs.map Token.lexeme = ws.map Token.lexeme)
      (hvs : ∀ v ∈ vs, i.position + shift ≤ v.start ∧ v.start < v.stop
        ∧ v.stop ≤ i.position + shift + i.hook.text.length)
      (hts : ∀ t ∈ ts, i.position ≤ t.start) (his : ∀ j ∈ is, i.position ≤ j.position)
      (h : Merged (shift + i.hook.text.length) is ts us) :
      Merged shift (i :: is) ts (vs ++ us)

namespace Merged

variable {shift : Nat} {is : List Insertion} {ts us : List Token}

/-- Tokens are not empty, and none of them stands in front of the text. -/
theorem le_start (h : Merged shift is ts us) {n : Nat} (hts : ∀ t ∈ ts, n ≤ t.start)
    (his : ∀ i ∈ is, n ≤ i.position) :
  ∀ u ∈ us, n + shift ≤ u.start ∧ u.start < u.stop
  := by
  induction h generalizing n with
  | done =>
      intro u hu
      cases hu
  | retained hpos hstop _ ih =>
      rename_i shift is t ts us h
      rw [List.forall_mem_cons] at hts
      intro u hu
      rw [List.mem_cons] at hu
      obtain rfl | hu := hu
      · simp only [Token.moved]
        omega
      · apply ih hts.2 his u hu
  | inserted _ _ hvs _ _ _ ih =>
      rw [List.forall_mem_cons] at his
      intro u hu
      rw [List.mem_append] at hu
      obtain hu | hu := hu
      · have h := hvs u hu
        omega
      · have h := ih hts his.2 u hu
        omega

/-- A token of the text is retained. -/
theorem isRetained_moved {t : Token} (hstop : ∀ i ∈ is, t.stop ≤ i.position) :
  (t.moved shift).isRetained (stretchesFrom shift is) = true
  := by
  rw [Token.isRetained_eq_true]
  intro r hr
  exact .inl (le_start_of_mem_stretchesFrom hstop r hr)

/-- Behind the stretch of a hook, a token is retained when it lies in none of the stretches behind
that one. -/
theorem isRetained_behind {i : Insertion} {u : Token}
    (hu : i.position + (shift + i.hook.text.length) ≤ u.start) :
  u.isRetained (stretchesFrom shift (i :: is))
    = u.isRetained (stretchesFrom (shift + i.hook.text.length) is)
  := by
  rw [Bool.eq_iff_iff, Token.isRetained_eq_true, Token.isRetained_eq_true, stretchesFrom,
    List.forall_mem_cons]
  constructor
  · exact And.right
  · intro h
    have hbehind : (i.stretch shift).stop ≤ u.start := by
      rw [Insertion.stretch, Nat.add_assoc]
      exact hu
    exact ⟨.inr hbehind, h⟩

/-- Each token is retained or lies in the stretch of a hook. -/
theorem retained_or_held (h : Merged shift is ts us) :
  ∀ u ∈ us, u.isRetained (stretchesFrom shift is) = true
    ∨ ∃ r ∈ stretchesFrom shift is, r.holds u = true
  := by
  induction h with
  | done =>
      intro u hu
      cases hu
  | retained hpos hstop _ ih =>
      intro u hu
      rw [List.mem_cons] at hu
      obtain rfl | hu := hu
      · exact .inl (isRetained_moved hstop)
      · apply ih u hu
  | @inserted shift i is ts us vs ws _ _ hvs hts his h ih =>
      intro u hu
      rw [List.mem_append] at hu
      obtain hu | hu := hu
      · right
        use i.stretch shift, List.mem_cons_self
        rw [Stretch.holds_eq_true]
        exact ⟨(hvs u hu).1, (hvs u hu).2.2⟩
      · have hstart := (h.le_start hts his u hu).1
        obtain hretained | ⟨r, hr, hholds⟩ := ih u hu
        · left
          rw [isRetained_behind hstart]
          exact hretained
        · right
          use r, List.mem_cons_of_mem _ hr

/-- The tokens that are retained are those of the text. -/
theorem filter_isRetained (h : Merged shift is ts us) :
  (us.filter fun u => u.isRetained (stretchesFrom shift is)).map Token.content
    = ts.map Token.content
  := by
  induction h with
  | done => rfl
  | retained hpos hstop _ ih =>
      rw [List.filter_cons, if_pos (isRetained_moved hstop), List.map_cons, List.map_cons, ih]
      rfl
  | @inserted shift i is ts us vs ws _ _ hvs hts his h ih =>
      have hnone : (vs.filter fun u => u.isRetained (stretchesFrom shift (i :: is))) = [] := by
        rw [List.filter_eq_nil_iff]
        intro v hv
        obtain ⟨hstart, hpos, hstop⟩ := hvs v hv
        have hholds : (i.stretch shift).holds v = true := Stretch.holds_eq_true.mpr ⟨hstart, hstop⟩
        rw [stretchesFrom, Stretch.not_isRetained hpos hholds List.mem_cons_self]
        apply Bool.false_ne_true
      rw [List.filter_append, hnone, List.nil_append, ← ih]
      congr 1
      apply List.filter_congr
      intro u hu
      apply isRetained_behind (h.le_start hts his u hu).1

/-- The tokens in the stretch of a hook are those of the hook alone. -/
theorem filter_holds (h : Merged shift is ts us) {r : Stretch}
    (hr : r ∈ stretchesFrom shift is) :
  ∃ ws, scan r.hook.text.toList = .ok ws
    ∧ (us.filter r.holds).map Token.lexeme = ws.map Token.lexeme
  := by
  induction h with
  | done => cases hr
  | @retained shift is t ts us hpos hstop _ ih =>
      obtain ⟨ws, hscan, hws⟩ := ih hr
      use ws, hscan
      rw [List.filter_cons_of_neg, hws]
      rw [Stretch.holds_eq_true]
      have hle := le_start_of_mem_stretchesFrom hstop r hr
      simp only [Token.moved]
      omega
  | @inserted shift i is ts us vs ws hscan hcontent hvs hts his h ih =>
      rw [stretchesFrom, List.mem_cons] at hr
      rw [List.filter_append, List.map_append]
      obtain rfl | hr := hr
      · use ws, hscan
        have hall : vs.filter (i.stretch shift).holds = vs := by
          rw [List.filter_eq_self]
          intro v hv
          obtain ⟨hstart, -, hstop⟩ := hvs v hv
          exact Stretch.holds_eq_true.mpr ⟨hstart, hstop⟩
        have hnone : us.filter (i.stretch shift).holds = [] := by
          rw [List.filter_eq_nil_iff]
          intro u hu
          have hle := h.le_start hts his u hu
          rw [Stretch.holds_eq_true, Insertion.stretch]
          simp only
          omega
        rw [hall, hnone, hcontent, List.map_nil, List.append_nil]
      · obtain ⟨ws', hscan', hws'⟩ := ih hr
        use ws', hscan'
        have hnone : vs.filter r.holds = [] := by
          rw [List.filter_eq_nil_iff]
          intro v hv
          have hvs := hvs v hv
          have hle := le_start_of_mem_stretchesFrom his r hr
          rw [Stretch.holds_eq_true]
          omega
        rw [hnone, hws', List.map_nil, List.nil_append]

end Merged

end SnippetProfiler.Braced
