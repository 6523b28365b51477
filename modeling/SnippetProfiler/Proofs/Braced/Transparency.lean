import SnippetProfiler.Proofs.Braced.Woven

/-!
# Hooks change no token

The scan of a source and the scan of the source with its hooks go side by side.  A spot of the
one shadows a spot of the other: the same braces are open, on the same line, and a slash that
comes next means the same.  A piece of the source takes a spot and its shadow to such spots again,
and so does a hook, which only the second scan reads.

`scan_weave` is the result: the source with its hooks can be scanned; its tokens outside of the
hooks are those of the source; and those inside of a hook are the tokens of that hook alone.
-/

namespace SnippetProfiler.Braced

/-! ### Places of hooks -/

/-- Linked tokens stand behind the token in front of them. -/
theorem Linked.stop_le {t : Token} {ts : List Token} (h : Linked (some t) ts) :
  ∀ u ∈ ts.head?, t.stop ≤ u.start
  := by
  intro u hu
  cases ts with
  | nil => cases hu
  | cons v ts =>
      cases hu
      apply h.1.apart t rfl

/-- A hook that stands behind the front of the tokens does not stand in front of the first. -/
theorem Insertion.Fits.le_position {i : Insertion} {previous : Option Token} {ts : List Token}
    (h : i.Fits previous ts) (hts : Linked previous ts) {n : Nat}
    (hn : ∀ t ∈ ts.head?, n ≤ t.start) :
  (∃ q ∈ previous, i.position = q.stop) ∨ (previous = none ∧ i.position = 0) ∨ n ≤ i.position
  := by
  induction ts generalizing previous n with
  | nil =>
      obtain hplace | ⟨t, ht, -⟩ | hplace := h.place
      · exact .inl hplace
      · cases ht
      · exact .inr (.inl hplace)
  | cons t ts ih =>
      obtain h | h := h
      · obtain hplace | ⟨t', ht, hplace⟩ | hplace := h.place
        · exact .inl hplace
        · right
          right
          rw [hplace]
          apply hn t' ht
        · exact .inr (.inl hplace)
      · right
        right
        have hstart := hn t rfl
        have hpos := hts.1.pos
        obtain ⟨q, hq, hplace⟩ | ⟨hnone, -⟩ | hplace := ih h hts.2 hts.2.stop_le
        · cases hq
          omega
        · cases hnone
        · omega

/-- A hook that stands no further than the first of the tokens can be written in front of it. -/
theorem Insertion.Fits.isBetween {i : Insertion} {previous : Option Token} {ts : List Token}
    (h : i.Fits previous ts) (hts : Linked previous ts)
    (hplace : ∀ t ∈ ts.head?, i.position ≤ t.start) :
  i.IsBetween previous ts
  := by
  cases ts with
  | nil => exact h
  | cons t ts =>
      obtain h | h := h
      · exact h
      · exfalso
        have hle := hplace t rfl
        have hpos := hts.1.pos
        obtain ⟨q, hq, hstop⟩ | ⟨hnone, -⟩ | hstop := h.le_position hts.2 hts.2.stop_le
        · cases hq
          omega
        · cases hnone
        · omega

/-- A hook behind the first of the tokens fits among the others. -/
theorem Insertion.Fits.tail {i : Insertion} {previous : Option Token} {t : Token}
    {ts : List Token} (h : i.Fits previous (t :: ts)) (hts : Linked previous (t :: ts))
    (hplace : t.start < i.position) :
  i.Fits (some t) ts
  := by
  obtain h | h := h
  · exfalso
    obtain ⟨q, hq, hstop⟩ | ⟨u, hu, hstart⟩ | ⟨-, hzero⟩ := h.place
    · have hle := hts.1.apart q hq
      omega
    · cases hu
      omega
    · omega
  · exact h

/-- A hook that is to be written into the characters `cs` behind a spot, which hold the tokens
`ts`. -/
structure Insertion.IsPlaced (i : Insertion) (s : Spot) (cs : List Char) (ts : List Token) :
    Prop where
  le : i.position ≤ s.position + cs.length
  proper : i.hook.IsProper
  fits : i.Fits s.previous ts

/-! ### Pieces of woven texts -/

/-- A piece that ends in front of the hooks stays the same when they are written. -/
theorem Begins.weave {s : Spot} {c : Char} {cs : List Char} {p : Piece} (h : Begins s c cs p)
    {is : List Insertion} {ts : List Token} (hplaced : ∀ i ∈ is, i.IsPlaced s (c :: cs) ts)
    (hle : ∀ i ∈ is, s.position + 1 + p.extra ≤ i.position)
    (hcomment : ∀ i ∈ is, i.position = s.position + 1 + p.extra →
      ¬ (c = '/' ∧ cs.head? = some '/'))
    (hend : ∀ i ∈ is, i.position = s.position + 1 + p.extra → p.goesOn c = true →
      i.hook.isSeparate = true) :
  Begins s c (weaveFrom cs (s.position + 1) is) p
  := by
  cases is with
  | nil => exact h
  | cons i is =>
      have hi := hplaced i List.mem_cons_self
      have hlength := hi.le
      rw [List.length_cons] at hlength
      obtain ⟨x, w, hchars, hx, hseparate⟩ := hi.proper.opensHook
      have hplace := hle i List.mem_cons_self
      obtain ⟨n, hn⟩ := Nat.exists_eq_add_of_le (Nat.le_of_add_right_le hplace)
      have hfront : weaveFrom cs (s.position + 1) (i :: is)
          = cs.take n ++ x :: (w ++ weaveFrom (cs.drop n) (max (s.position + 1) i.position) is) := by
        rw [weaveFrom, hchars, hn, Nat.add_sub_cancel_left, List.append_assoc, List.cons_append]
      have htake : (cs.take n).length = n := by
        rw [List.length_take]
        omega
      rw [hfront]
      rw [← List.take_append_drop n cs] at h hcomment
      apply h.append _ hx
      · intro hextra
        apply hcomment i List.mem_cons_self
        omega
      · intro hextra hgoes
        apply hseparate
        apply hend i List.mem_cons_self _ hgoes
        omega
      · omega

/-! ### Shadows -/

/-- The spot `s'` of a woven text corresponds to the spot `s` of the source, in front of the
tokens `ts`. -/
structure Spot.Shadows (s s' : Spot) (shift : Nat) (ts : List Token) : Prop where
  position : s'.position = s.position + shift
  line : s'.line = s.line
  depth : s'.depth = s.depth
  openings : s'.openings = s.openings
  regex : regexAfter s'.previous = regexAfter s.previous
    ∨ (regexAfter s'.previous = true ∧ IsQuiet ts)

/-- Hooks at the place `n` or behind it can be woven into the characters `cs` behind a spot: the
tokens of the woven text are the tokens `ts` of the source and the tokens of the hooks. -/
def Weavable (s : Spot) (cs : List Char) (ts : List Token) (n : Nat) : Prop :=
  ∀ (s' : Spot) (shift : Nat) (is : List Insertion), s.Shadows s' shift ts →
    is.Pairwise (fun i j => i.position ≤ j.position) →
    (∀ i ∈ is, n ≤ i.position ∧ i.IsPlaced s cs ts) →
    ∃ us, Scans s' (weaveFrom cs s.position is) us ∧ Merged shift is ts us

variable {s s' : Spot} {shift : Nat} {is : List Insertion} {c : Char} {cs : List Char}
  {ts : List Token}

theorem Spot.Shadows.skip (h : s.Shadows s' shift ts) (n k : Nat) :
  (s.skip n k).Shadows (s'.skip n k) shift ts
  := by
  obtain ⟨hposition, hline, hdepth, hopen, hregex⟩ := h
  constructor
  · simp only [Spot.skip]
    omega
  · simp only [Spot.skip, hline]
  · exact hdepth
  · exact hopen
  · exact hregex

/-- The token that a lexeme makes in a woven text is the one of the source, moved. -/
theorem Spot.Shadows.token_eq (h : s.Shadows s' shift ts) (kind : TokenKind) (w : List Char)
    (k : Nat) :
  s'.token kind w k = (s.token kind w k).moved shift
  := by
  simp only [Spot.token, Token.moved, h.position, h.line, Token.mk.injEq, true_and, and_true]
  omega

theorem Spot.Shadows.pass (h : s.Shadows s' shift ts) (t : Token) (k : Nat) (ts' : List Token) :
  (s.pass t k).Shadows (s'.pass (t.moved shift) k) shift ts'
  := by
  obtain ⟨-, hline, hdepth, hopen, -⟩ := h
  constructor
  · rfl
  · simp only [Spot.pass, hline]
  · simp only [Spot.pass, Spot.depthAfter, Token.moved, hdepth]
  · simp only [Spot.pass, Spot.openingsAfter, hdepth, hopen]
    rfl
  · exact .inl rfl

/-- Behind a hook a scan is at a shadow of the spot in front of which the hook stands. -/
theorem Spot.Shadows.reach (h : s.Shadows s' shift ts) {us : List Token} {n : Nat} {s2 : Spot}
    (hs2 : s'.Reaches us n s2) (hregex : regexAfter s2.previous = true)
    (hquiet : regexAfter s.previous = true ∨ IsQuiet ts) :
  s.Shadows s2 (shift + n) ts
  := by
  constructor
  · rw [hs2.position, h.position, Nat.add_assoc]
  · rw [hs2.line, h.line]
  · rw [hs2.depth, h.depth]
  · rw [hs2.openings, h.openings]
  · obtain hprevious | hquiet := hquiet
    · left
      rw [hregex, hprevious]
    · exact .inr ⟨hregex, hquiet⟩

/-! ### Steps -/

/-- Hooks that stand at a spot can be woven in if those further behind can be. -/
theorem weavable_of_succ (hscan : Scans s cs ts) (hs : s.IsBehind)
    (hbehind : Weavable s cs ts (s.position + 1)) :
  Weavable s cs ts s.position
  := by
  intro s' shift is h hsorted hplaced
  induction is generalizing s' shift with
  | nil =>
      apply hbehind s' shift [] h hsorted
      intro i hi
      cases hi
  | cons i is ih =>
      obtain ⟨hge, hi⟩ := hplaced i List.mem_cons_self
      rw [List.pairwise_cons] at hsorted
      -- The hooks at the spot come first, because the hooks are in order.
      by_cases hplace : i.position = s.position
      · have hfront : ∀ t ∈ ts, i.position ≤ t.start := by
          rw [hplace]
          apply hscan.le_start
        have hbetween : i.IsBetween s.previous ts := by
          apply hi.fits.isBetween (hscan.linked hs)
          intro t ht
          apply hfront t (List.mem_of_mem_head? ht)
        obtain ⟨ws, hws⟩ := hi.proper.isStatement
        obtain ⟨vs, s2, hs2, hvs, hread⟩ := hws.read s'
        obtain ⟨alone, halone, hcontent⟩ := hi.proper.scan hws
        rw [String.length_toList] at hs2
        have hshadows := h.reach hs2 (hs2.regexAfter hvs) hbetween.quiet
        obtain ⟨us, hus, hmerged⟩ := ih s2 _ hshadows hsorted.2
          fun j hj => hplaced j (List.mem_cons_of_mem _ hj)
        use vs ++ us
        constructor
        · rw [← hplace, weaveFrom_cons, hplace]
          apply hread _ _ hus
        · apply Merged.inserted halone (hvs.trans hcontent.symm) _ hfront hsorted.1 hmerged
          intro v hv
          rw [hplace, ← h.position]
          apply hs2.within v hv
      · have hlt : s.position < i.position := Nat.lt_of_le_of_ne hge (Ne.symm hplace)
        apply hbehind s' shift (i :: is) h (List.pairwise_cons.mpr hsorted)
        rw [List.forall_mem_cons]
        use ⟨hlt, hi⟩
        intro j hj
        use Nat.lt_of_lt_of_le hlt (hsorted.1 j hj)
        apply (hplaced j (List.mem_cons_of_mem _ hj)).2

/-- The characters of a piece are those of the source, and hooks stand only behind them. -/
theorem take_drop_weaveFrom {position n : Nat} (hn : n ≤ cs.length)
    (his : ∀ i ∈ is, position + n ≤ i.position) :
  (weaveFrom cs position is).take n = cs.take n
    ∧ (weaveFrom cs position is).drop n = weaveFrom (cs.drop n) (position + n) is
  := by
  have hlength : (cs.take n).length = n := by
    rw [List.length_take]
    omega
  rw [weaveFrom_eq_append his]
  exact ⟨List.take_left' hlength, List.drop_left' hlength⟩

/-- The first character of a text with hooks behind it. -/
theorem weaveFrom_cons_of_lt {position : Nat} (his : ∀ i ∈ is, position + 1 ≤ i.position) :
  weaveFrom (c :: cs) position is = c :: weaveFrom cs (position + 1) is
  := weaveFrom_eq_append his

/-- No token begins at the end or at a newline. -/
theorem Scans.lt_start (h : Scans s cs ts) (hcs : ∀ d ∈ cs.head?, d = '\n') :
  ∀ t ∈ ts, s.position + 1 ≤ t.start
  := by
  cases h with
  | done =>
      intro t ht
      cases ht
  | gap _ htail =>
      intro t ht
      have hle := htail.le_start t ht
      simp only [Spot.skip] at hle
      omega
  | lexeme hbegins _ =>
      have hread := hbegins.readPiece
      rw [readPiece, if_pos (hcs _ rfl)] at hread
      cases hread

/-- A hook that stands behind a spot does not stand in front of the tokens behind the spot. -/
theorem Insertion.IsPlaced.le_position {i : Insertion} (hi : i.IsPlaced s cs ts) (hs : s.IsBehind)
    (hscan : Linked s.previous ts) (hlt : s.position < i.position) {n : Nat}
    (hn : ∀ t ∈ ts, n ≤ t.start) :
  n ≤ i.position
  := by
  obtain ⟨q, hq, hstop⟩ | ⟨-, hzero⟩ | hle := hi.fits.le_position hscan
      (fun t ht => hn t (List.mem_of_mem_head? ht))
  · have hle := (hs q hq).1
    omega
  · omega
  · exact hle

/-- Behind a comment to the end of a line stands a newline, or nothing. -/
theorem Begins.head?_drop {n k : Nat} (h : Begins s c cs (.gap n k))
    (hcomment : c = '/' ∧ cs.head? = some '/') :
  ∀ d ∈ (cs.drop n).head?, d = '\n'
  := by
  have hread := h.readPiece
  rw [(Begins.lineComment hcomment.1 hcomment.2).readPiece] at hread
  cases hread
  intro d hd
  have hnot := head?_drop_runLength _ cs d hd
  simpa using hnot

theorem Insertion.IsPlaced.skip {i : Insertion} (hi : i.IsPlaced s (c :: cs) ts) {n : Nat}
    (hn : n ≤ cs.length) (k : Nat) :
  i.IsPlaced (s.skip (n + 1) k) (cs.drop n) ts
  := by
  obtain ⟨hle, hproper, hfits⟩ := hi
  constructor
  · rw [List.length_cons] at hle
    rw [List.length_drop]
    simp only [Spot.skip]
    omega
  · exact hproper
  · exact hfits

theorem Insertion.IsPlaced.pass {i : Insertion} {t : Token} (hi : i.IsPlaced s (c :: cs) (t :: ts))
    (hts : Linked s.previous (t :: ts)) (hlt : t.start < i.position) {n : Nat}
    (ht : t.stop = s.position + (n + 1)) (hn : n ≤ cs.length) (k : Nat) :
  i.IsPlaced (s.pass t k) (cs.drop n) ts
  := by
  obtain ⟨hle, hproper, hfits⟩ := hi
  constructor
  · rw [List.length_cons] at hle
    rw [List.length_drop]
    simp only [Spot.pass]
    omega
  · exact hproper
  · apply hfits.tail hts hlt

/-- Hooks behind a piece are woven in from the spot behind it. -/
theorem Weavable.exists_scans (h : Weavable s cs ts s.position) {position : Nat}
    (hposition : position = s.position) (hshadows : s.Shadows s' shift ts)
    (hsorted : is.Pairwise fun i j => i.position ≤ j.position)
    (hle : ∀ i ∈ is, position ≤ i.position) (hplaced : ∀ i ∈ is, i.IsPlaced s cs ts) :
  ∃ us, Scans s' (weaveFrom cs position is) us ∧ Merged shift is ts us
  := by
  subst hposition
  apply h _ _ _ hshadows hsorted
  intro i hi
  exact ⟨hle i hi, hplaced i hi⟩

/-- A piece without a token is read in the woven text, too. -/
theorem Begins.weave_gap {n k : Nat} (hbegins : Begins s c cs (.gap n k))
    (hscan : Scans (s.skip (n + 1) k) (cs.drop n) ts) (hs : s.IsBehind)
    (h : s.Shadows s' shift ts)
    (hplaced : ∀ i ∈ is, s.position + 1 ≤ i.position ∧ i.IsPlaced s (c :: cs) ts)
    (hle : ∀ i ∈ is, s.position + 1 + n ≤ i.position) :
  Begins s' c (weaveFrom cs (s.position + 1) is) (.gap n k)
  := by
  have hweave : Begins s c (weaveFrom cs (s.position + 1) is) (.gap n k) := by
    apply hbegins.weave (fun i hi => (hplaced i hi).2) hle
    · intro i hi hplace hcomment
      -- Behind a comment stands a newline, where no token begins and so no hook stands.
      obtain ⟨hlt, hi⟩ := hplaced i hi
      have hstart := hscan.lt_start (hbegins.head?_drop hcomment)
      have hle := hi.le_position hs (hscan.linked (hs.skip n k)) hlt hstart
      simp only [Piece.extra] at hplace
      simp only [Spot.skip] at hle
      omega
    · intro i _ _ hgoes
      cases hgoes
  apply hweave.congr h.depth h.openings
  exact .inr (.inr ⟨n, k, rfl⟩)

/-- A piece without a token takes a spot and its shadow further. -/
theorem weavable_gap {n k : Nat} (hbegins : Begins s c cs (.gap n k))
    (hscan : Scans (s.skip (n + 1) k) (cs.drop n) ts) (hs : s.IsBehind)
    (ih : Weavable (s.skip (n + 1) k) (cs.drop n) ts (s.skip (n + 1) k).position) :
  Weavable s (c :: cs) ts (s.position + 1)
  := by
  intro s' shift is h hsorted hplaced
  have hn : n ≤ cs.length := hbegins.extra_le
  have hposition : s.position + 1 + n = (s.skip (n + 1) k).position := by
    simp only [Spot.skip]
    omega
  have hle : ∀ i ∈ is, s.position + 1 + n ≤ i.position := by
    intro i hi
    obtain ⟨hlt, hi⟩ := hplaced i hi
    rw [hposition]
    apply hi.le_position hs (hscan.linked (hs.skip n k)) hlt hscan.le_start
  obtain ⟨-, hdrop⟩ := take_drop_weaveFrom hn hle
  obtain ⟨us, hus, hmerged⟩ := ih.exists_scans hposition (h.skip _ _) hsorted hle
    fun i hi => (hplaced i hi).2.skip hn k
  use us
  constructor
  · rw [weaveFrom_cons_of_lt fun i hi => (hplaced i hi).1]
    apply Scans.gap (hbegins.weave_gap hscan hs h hplaced hle)
    rw [hdrop]
    exact hus
  · exact hmerged

/-- A piece does not go on with what stands behind its token when nothing can run into that. -/
theorem goesOn_of_isSealed {kind : TokenKind} {w : List Char} {n k : Nat}
    (h : (s.token kind (c :: w) k).isSealed = true) :
  (Piece.lexeme kind n k).goesOn c = false
  := by
  have hmark : kind = .mark → c ≠ '.' := by
    rintro rfl rfl
    have hne : String.ofList ('.' :: w) ∉ [";", "\x7b", "\x7d"] := by
      simp only [List.mem_cons, List.not_mem_nil, or_false, not_or]
      exact ⟨ofList_ne (d := ';') (by decide), ofList_ne (d := '{') (by decide),
        ofList_ne (d := '}') (by decide)⟩
    simp only [Token.isSealed, Spot.token, Token.isMark, Bool.or_eq_true, Bool.and_eq_true,
      List.contains_iff_mem] at h
    obtain (h | h) | h := h
    · cases h
    · cases h
    · exact hne h.2
  cases kind with
  | text => rfl
  | template => rfl
  | mark => exact decide_eq_false (hmark rfl)
  | identifier => cases h
  | number => cases h
  | regex => cases h

/-- A hook behind a token stands no further in front than the token ends. -/
theorem Insertion.IsPlaced.stop_le {i : Insertion} {t : Token} {k : Nat}
    (hi : i.IsPlaced (s.pass t k) cs ts) (hts : Linked (some t) ts) :
  t.stop ≤ i.position
  := by
  obtain ⟨q, hq, hplace⟩ | ⟨hnone, -⟩ | hplace := hi.fits.le_position hts hts.stop_le
  · cases hq
    omega
  · cases hnone
  · exact hplace

/-- A piece with a token is read in the woven text, too. -/
theorem Begins.weave_lexeme {kind : TokenKind} {n k : Nat}
    (hbegins : Begins s c cs (.lexeme kind n k)) {t : Token}
    (ht : t = s.token kind (c :: cs.take n) k) (hts : Linked (some t) ts)
    (h : s.Shadows s' shift (t :: ts)) (hplaced : ∀ i ∈ is, i.IsPlaced s (c :: cs) (t :: ts))
    (hafter : ∀ i ∈ is, i.IsPlaced (s.pass t k) (cs.drop n) ts) :
  Begins s' c (weaveFrom cs (s.position + 1) is) (.lexeme kind n k)
  := by
  have hstop : s.position + 1 + n = t.stop := by
    rw [ht, hbegins.stop_token]
    omega
  have hweave : Begins s c (weaveFrom cs (s.position + 1) is) (.lexeme kind n k) := by
    apply hbegins.weave hplaced
    · intro i hi
      rw [Piece.extra, hstop]
      apply (hafter i hi).stop_le hts
    · intro i _ _ hcomment
      have hread := hbegins.readPiece
      rw [(Begins.lineComment hcomment.1 hcomment.2).readPiece] at hread
      cases hread
    · intro i hi hplace hgoes
      -- The hook touches the token, so that one of them keeps the other apart.
      rw [Piece.extra, hstop] at hplace
      have hbetween : i.IsBetween (some t) ts := by
        apply (hafter i hi).fits.isBetween hts
        rw [hplace]
        exact hts.stop_le
      obtain hsealed | hseparate := hbetween.apart t rfl hplace
      · rw [ht] at hsealed
        rw [goesOn_of_isSealed hsealed] at hgoes
        cases hgoes
      · exact hseparate
  apply hweave.congr h.depth h.openings
  obtain hregex | ⟨-, hquiet⟩ := h.regex
  · exact .inl hregex
  · right
    left
    rintro rfl
    apply hquiet t rfl
    rw [ht, Spot.token, String.toList_ofList]
    rfl

/-- A piece with a token takes a spot and its shadow further. -/
theorem weavable_lexeme {kind : TokenKind} {n k : Nat} (hbegins : Begins s c cs (.lexeme kind n k))
    {t : Token} (ht : t = s.token kind (c :: cs.take n) k)
    (hscan : Scans (s.pass t k) (cs.drop n) ts) (hs : s.IsBehind)
    (ih : Weavable (s.pass t k) (cs.drop n) ts (s.pass t k).position) :
  Weavable s (c :: cs) (t :: ts) (s.position + 1)
  := by
  intro s' shift is h hsorted hplaced
  have hn : n ≤ cs.length := hbegins.extra_le
  have hstart : t.start = s.position := by rw [ht, Spot.token]
  have hstop : t.stop = s.position + (n + 1) := by rw [ht, hbegins.stop_token]
  have hposition : s.position + 1 + n = (s.pass t k).position := by
    simp only [Spot.pass]
    omega
  have hlinked : Linked s.previous (t :: ts) := by
    rw [ht] at hscan ⊢
    exact ⟨hbegins.follows hs, hscan.linked hbegins.isBehind_pass⟩
  have hafter : ∀ i ∈ is, i.IsPlaced (s.pass t k) (cs.drop n) ts := by
    intro i hi
    obtain ⟨hlt, hi⟩ := hplaced i hi
    apply hi.pass hlinked _ hstop hn
    omega
  have hle : ∀ i ∈ is, s.position + 1 + n ≤ i.position := by
    intro i hi
    rw [hposition]
    apply (hafter i hi).stop_le hlinked.2
  obtain ⟨htake, hdrop⟩ := take_drop_weaveFrom hn hle
  obtain ⟨us, hus, hmerged⟩ := ih.exists_scans hposition (h.pass t k ts) hsorted hle hafter
  use t.moved shift :: us
  constructor
  · rw [weaveFrom_cons_of_lt fun i hi => (hplaced i hi).1]
    have htoken : t.moved shift
        = s'.token kind (c :: (weaveFrom cs (s.position + 1) is).take n) k := by
      rw [htake, h.token_eq, ht]
    rw [htoken] at hus ⊢
    apply Scans.lexeme (hbegins.weave_lexeme ht hlinked.2 h (fun i hi => (hplaced i hi).2) hafter)
    rw [hdrop]
    exact hus
  · apply Merged.retained _ _ hmerged
    · omega
    · intro i hi
      have hle := hle i hi
      omega

/-- A source and its hooks are scanned side by side. -/
theorem Scans.weavable (h : Scans s cs ts) (hs : s.IsBehind) :
  Weavable s cs ts s.position
  := by
  induction h with
  | done hopen =>
      apply weavable_of_succ (Scans.done hopen) hs
      intro s' shift is h _ hplaced
      cases is with
      | nil =>
          use []
          constructor
          · apply Scans.done
            rw [h.openings, hopen]
          · apply Merged.done
      | cons i is =>
          exfalso
          obtain ⟨hlt, hi⟩ := hplaced i List.mem_cons_self
          have hle := hi.le
          rw [List.length_nil] at hle
          omega
  | gap hbegins htail ih =>
      apply weavable_of_succ (Scans.gap hbegins htail) hs
      apply weavable_gap hbegins htail hs
      apply ih (hs.skip _ _)
  | lexeme hbegins htail ih =>
      apply weavable_of_succ (Scans.lexeme hbegins htail) hs
      apply weavable_lexeme hbegins rfl htail hs
      apply ih hbegins.isBehind_pass

/-! ### Whole texts -/

/-- No token of a scan reaches beyond the end of the text. -/
theorem Scans.stop_le (h : Scans s cs ts) :
  ∀ t ∈ ts, t.stop ≤ s.position + cs.length
  := by
  induction h with
  | done =>
      intro t ht
      cases ht
  | gap hbegins _ ih =>
      intro t ht
      have hle := ih t ht
      have hn := hbegins.extra_le
      rw [List.length_drop] at hle
      simp only [Spot.skip, Piece.extra] at hle hn
      rw [List.length_cons]
      omega
  | lexeme hbegins _ ih =>
      intro t ht
      have hn := hbegins.extra_le
      have hstop := hbegins.stop_token
      rw [Piece.extra] at hn
      rw [List.length_cons]
      rw [List.mem_cons] at ht
      obtain rfl | ht := ht
      · omega
      · have hle := ih t ht
        rw [List.length_drop] at hle
        simp only [Spot.pass] at hle
        omega

/-- A hook does not stand further than the tokens reach. -/
theorem Insertion.Fits.position_le {i : Insertion} {previous : Option Token}
    (h : i.Fits previous ts) (hts : Linked previous ts) {n : Nat}
    (hprevious : ∀ q ∈ previous, q.stop ≤ n) (hn : ∀ t ∈ ts, t.stop ≤ n) :
  i.position ≤ n
  := by
  induction ts generalizing previous with
  | nil =>
      obtain ⟨q, hq, hplace⟩ | ⟨t, ht, -⟩ | ⟨-, hzero⟩ := h.place
      · rw [hplace]
        apply hprevious q hq
      · cases ht
      · omega
  | cons t ts ih =>
      rw [List.forall_mem_cons] at hn
      obtain h | h := h
      · obtain ⟨q, hq, hplace⟩ | ⟨u, hu, hplace⟩ | ⟨-, hzero⟩ := h.place
        · rw [hplace]
          apply hprevious q hq
        · cases hu
          have hpos := hts.1.pos
          omega
        · omega
      · apply ih h hts.2 _ hn.2
        rintro _ ⟨⟩
        exact hn.1

/-- A text with hooks names no interpreter in its first line when the source does not. -/
theorem shebangLength_weaveFrom {source : List Char} {is : List Insertion}
    (hsource : ['#', '!'].isPrefixOf source = false) (his : ∀ i ∈ is, i.hook.IsProper) :
  shebangLength (weaveFrom source 0 is) = 0
  := by
  cases is with
  | nil =>
      rw [weaveFrom, shebangLength, hsource]
      rfl
  | cons i is =>
      obtain ⟨x, w, hchars, hx, -⟩ := (his i List.mem_cons_self).opensHook
      have hnot : x ∉ ['#', '!'] := by
        intro hmem
        have hall : ['#', '!'].any opensHook = false := by decide
        exact List.any_eq_false.mp hall x hmem hx
      rw [weaveFrom, hchars, shebangLength, if_neg]
      intro hp
      rw [List.isPrefixOf_iff_prefix, List.append_assoc, List.cons_append] at hp
      have hprefix := (prefix_of_not_mem hnot hp).trans (List.take_prefix ..)
      rw [← List.isPrefixOf_iff_prefix, hsource] at hprefix
      cases hprefix

/-- Hooks are written in the order of their positions. -/
theorem ordered_pairwise (hooks : List Insertion) :
  (ordered hooks).Pairwise fun i j => i.position ≤ j.position
  := by
  have hsorted : (ordered hooks).Pairwise fun i j => decide (i.position ≤ j.position) = true := by
    apply List.pairwise_mergeSort
    · intro i j k hij hjk
      rw [decide_eq_true_eq] at *
      omega
    · intro i j
      rw [Bool.or_eq_true, decide_eq_true_eq, decide_eq_true_eq]
      omega
  simpa only [decide_eq_true_eq] using hsorted

/-- The tokens `us` of a source with hooks are the tokens `ts` of the source, and between them the
tokens of the hooks. -/
structure Transparent (source : List Char) (hooks : List Insertion) (ts us : List Token) :
    Prop where
  source_eq : freeChars (stretches hooks) 0 (weave source hooks) = source
  hook_eq : ∀ r ∈ stretches hooks,
    ((weave source hooks).drop r.start).take r.hook.text.length = r.hook.text.toList
  retained : (us.filter fun u => u.isRetained (stretches hooks)).map Token.content
    = ts.map Token.content
  inserted : ∀ u ∈ us, u.isRetained (stretches hooks) = true
    ∨ ∃ r ∈ stretches hooks, r.holds u = true
  alone : ∀ r ∈ stretches hooks, ∃ ws, scan r.hook.text.toList = .ok ws
    ∧ (us.filter r.holds).map Token.lexeme = ws.map Token.lexeme

/-- A source that can be scanned and planned can be scanned with its hooks, which change none of
its tokens. -/
theorem scan_weave {source : List Char} {ts : List Token} {hooks : List Insertion}
    (hsource : ['#', '!'].isPrefixOf source = false) (hscan : scan source = .ok ts)
    (hplan : plan ts = .ok hooks) :
  ∃ us, scan (weave source hooks) = .ok us ∧ Transparent source hooks ts us
  := by
  have hfirst : shebangLength source = 0 := by
    rw [shebangLength, hsource]
    rfl
  simp only [scan, hfirst, List.drop_zero] at hscan
  have hscans := scanFrom_eq_ok.mp hscan
  have hbehind : Spot.IsBehind {} := by rintro _ ⟨⟩
  have hlinked := hscans.linked hbehind
  have hsafe := plan_isSafe hlinked hplan
  have hplaced : ∀ i ∈ ordered hooks, 0 ≤ i.position ∧ i.IsPlaced {} source ts := by
    intro i hi
    obtain ⟨hproper, hfits⟩ := hsafe i (List.mem_mergeSort.mp hi)
    use Nat.zero_le _
    constructor
    · apply hfits.position_le hlinked
      · rintro _ ⟨⟩
      · apply hscans.stop_le
    · exact hproper
    · exact hfits
  have hsorted := ordered_pairwise hooks
  have hshadows : Spot.Shadows {} {} 0 ts := by
    constructor
    · rfl
    · rfl
    · rfl
    · rfl
    · exact .inl rfl
  have hrange : ∀ i ∈ ordered hooks, 0 ≤ i.position ∧ i.position ≤ 0 + source.length :=
    fun i hi => ⟨Nat.zero_le _, (hplaced i hi).2.le⟩
  obtain ⟨us, hus, hmerged⟩ := hscans.weavable hbehind {} 0 _ hshadows hsorted hplaced
  use us
  constructor
  · have hwoven : shebangLength (weave source hooks) = 0 :=
      shebangLength_weaveFrom hsource fun i hi => (hplaced i hi).2.proper
    simp only [scan, hwoven, List.drop_zero]
    apply scanFrom_eq_ok.mpr hus
  · constructor
    · apply freeChars_weaveFrom hsorted hrange
    · apply slice_weaveFrom hsorted hrange
    · apply hmerged.filter_isRetained
    · apply hmerged.retained_or_held
    · intro r hr
      apply hmerged.filter_holds hr

/-- Two statements: in the first one slashes enclose a regular expression, in the second one a
slash divides. -/
def slashes : List Char := "q = /x/\nq / 2".toList

/-- The tokens of the statements. -/
def slashTokens : List Token :=
  [⟨.identifier, "q", 0, 1, 1⟩, ⟨.mark, "=", 2, 3, 1⟩, ⟨.regex, "/x/", 4, 7, 1⟩,
    ⟨.identifier, "q", 8, 9, 2⟩, ⟨.mark, "/", 10, 11, 2⟩, ⟨.number, "2", 12, 13, 2⟩]

/-- The hooks of the statements. -/
def slashHooks : List Insertion := [⟨0, .line 1⟩, ⟨8, .vars true ["q"] 1⟩, ⟨8, .line 2⟩]

theorem scan_weave_slashes :
  ['#', '!'].isPrefixOf slashes = false ∧ scan slashes = .ok slashTokens
    ∧ plan slashTokens = .ok slashHooks
    ∧ ∃ us, scan (weave slashes slashHooks) = .ok us
      ∧ Transparent slashes slashHooks slashTokens us
  := by
  have hfirst : ['#', '!'].isPrefixOf slashes = false := by decide
  have hscan : scan slashes = .ok slashTokens := by decide +kernel
  have hplan : plan slashTokens = .ok slashHooks := by decide
  exact ⟨hfirst, hscan, hplan, scan_weave hfirst hscan hplan⟩

end SnippetProfiler.Braced
