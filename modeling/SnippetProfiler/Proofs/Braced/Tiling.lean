import SnippetProfiler.Proofs.Braced.Alignment

/-!
# Tokens tile a text

The tokens of a text stand one behind the other, and each is the text of its range.  What stands in
front of them, between them and behind them holds no token: it is made of blanks and comments, except
that the first line of the text may name an interpreter.

`IsGap` says what such a stretch is, without the scanner.  A comment to the end of its line has to be
followed by a newline, unless it stands at the end of the text; so a stretch at the end may be more than
one in front of a token.
-/

namespace SnippetProfiler.Braced

/-! ### Gaps -/

/-- A line ends in front of `w`: with a newline, or with the whole text if `w` is empty and `final`. -/
def EndsLine (final : Bool) (w : List Char) : Prop := w.head? = some '\n' ∨ (w = [] ∧ final = true)

/-- Blanks and complete comments; they are `final` if the text ends behind them. -/
inductive IsGap (final : Bool) : List Char → Prop
  | nil : IsGap final []
  | blank {c : Char} {w : List Char} (hc : Text.isBlank c = true) (h : IsGap final w) :
      IsGap final (c :: w)
  | lineComment {v w : List Char} (hv : '\n' ∉ v) (hend : EndsLine final w) (h : IsGap final w) :
      IsGap final ('/' :: '/' :: (v ++ w))
  | blockComment {v w : List Char} (hv : ¬ ['*', '/'] <:+: v) (h : IsGap final w) :
      IsGap final ('/' :: '*' :: (v ++ '*' :: '/' :: w))

/-- A gap at the beginning of a text, where a line may name an interpreter. -/
inductive IsFront (final : Bool) : List Char → Prop
  | gap {w : List Char} (h : IsGap final w) : IsFront final w
  | shebang {v w : List Char} (hv : '\n' ∉ v) (hend : EndsLine final w) (h : IsGap final w) :
      IsFront final ('#' :: '!' :: (v ++ w))

/-- Where the first of some tokens of a text begins, or where the text ends if there is none. -/
def nextStart (source : List Char) : List Token → Nat
  | [] => source.length
  | t :: _ => t.start

/-- The tokens hold a text but for gaps. -/
structure Tiles (source : List Char) (ts : List Token) : Prop where
  inside : ∀ t ∈ ts, t.start < t.stop ∧ t.stop ≤ source.length
  ordered : ts.Pairwise fun t u => t.stop ≤ u.start
  text : ∀ t ∈ ts, t.text.toList = source.extract t.start t.stop
  front : IsFront ts.isEmpty (source.extract 0 (nextStart source ts))
  behind : ∀ before t after, ts = before ++ t :: after →
    IsGap after.isEmpty (source.extract t.stop (nextStart source after))

/-! ### Pieces that make no token -/

/-- A block comment ends with its first star that has a slash behind it. -/
theorem IsCommentBody.exists_close {w : List Char} (h : IsCommentBody w) :
  ∃ v, w = v ++ ['*', '/'] ∧ ¬ ['*', '/'] <:+: v
  := by
  induction h with
  | close =>
      use [], rfl
      intro hinfix
      cases List.infix_nil.mp hinfix
  | @char c _ hc _ ih =>
      obtain ⟨v, rfl, hv⟩ := ih
      use c :: v, rfl
      rw [List.infix_cons_iff, not_or]
      constructor
      · rw [List.cons_prefix_cons]
        rintro ⟨rfl, u, rfl⟩
        exact hc rfl rfl
      · exact hv

/-- A piece that makes no token goes on with a gap to a gap. -/
theorem Begins.isGap {s : Spot} {c : Char} {cs : List Char} {n k : Nat}
    (h : Begins s c cs (.gap n k)) {final : Bool} {w : List Char} (hw : IsGap final w)
    (hend : (∀ d ∈ (cs.drop n).head?, d = '\n') → EndsLine final w) :
  IsGap final (c :: cs.take n ++ w)
  := by
  have hdrop := h.head?_drop
  cases h with
  | newline hc => exact .blank (hc ▸ by decide) hw
  | blank _ hblank => exact .blank hblank hw
  | lineComment hc hcs =>
      subst hc
      cases cs with
      | nil => cases hcs
      | cons d cs =>
          cases hcs
          have hrun : runLength (· != '\n') ('/' :: cs) = runLength (· != '\n') cs + 1 := rfl
          rw [hrun] at hdrop hend ⊢
          rw [List.take_succ_cons]
          exact .lineComment (not_mem_take_runLength (p := (· != '\n')) rfl cs)
            (hend (hdrop ⟨rfl, rfl⟩)) hw
  | @blockComment hc hcs n hn =>
      subst hc
      cases cs with
      | nil => cases hcs
      | cons d cs =>
          cases hcs
          rw [List.tail_cons] at hn
          obtain ⟨_, y, rfl, rfl, hbody⟩ := exists_isCommentBody hn
          obtain ⟨v, rfl, hv⟩ := hbody.exists_close
          have hgap := IsGap.blockComment hv hw
          rw [List.take_succ_cons, List.take_left, List.cons_append, List.cons_append,
            List.append_assoc]
          exact hgap

/-! ### Gaps of a scan -/

variable {source cs : List Char} {s : Spot} {ts : List Token}

/-- A stretch of a text up to a position inside it, and on from there. -/
theorem extract_append {start middle stop : Nat} (hstart : start ≤ middle) (hstop : middle ≤ stop) :
  source.extract start stop = source.extract start middle ++ source.extract middle stop
  := by
  have hlength : stop - start = (middle - start) + (stop - middle) := by omega
  have hdrop : start + (middle - start) = middle := by omega
  rw [List.extract, List.extract, List.extract, hlength, List.take_add, List.drop_drop, hdrop]

/-- The text behind a spot goes on with the piece that begins there. -/
theorem drop_eq_drop {p : Nat} {c : Char} (h : source.drop p = c :: cs) (n : Nat) :
  source.drop (p + (n + 1)) = cs.drop n
  := by
  rw [← List.drop_drop, h, List.drop_succ_cons]

/-- The tokens behind a spot begin behind it. -/
theorem Scans.le_nextStart (h : Scans s cs ts) (hposition : s.position ≤ source.length) :
  s.position ≤ nextStart source ts
  := by
  cases ts with
  | nil => exact hposition
  | cons t ts => exact h.le_start t List.mem_cons_self

/-- A line ends at a spot where the text ends or goes on with a newline. -/
theorem Scans.endsLine (h : Scans s cs ts) (hcs : source.drop s.position = cs)
    (hend : ∀ d ∈ cs.head?, d = '\n') :
  EndsLine ts.isEmpty (source.extract s.position (nextStart source ts))
  := by
  cases cs with
  | nil =>
      right
      cases h
      rw [List.extract, hcs]
      exact ⟨List.take_nil, rfl⟩
  | cons d cs =>
      left
      have hlt : s.position + 1 ≤ nextStart source ts := by
        cases ts with
        | nil =>
            have hlength := congrArg List.length hcs
            rw [List.length_drop, List.length_cons] at hlength
            rw [nextStart]
            omega
        | cons t ts => exact h.lt_start hend t List.mem_cons_self
      obtain ⟨k, hk⟩ := Nat.exists_eq_add_of_le hlt
      have hlength : nextStart source ts - s.position = k + 1 := by omega
      rw [List.extract, hcs, hlength, List.take_succ_cons, List.head?_cons, hend d rfl]

/-- What stands in front of the tokens behind a spot is a gap. -/
theorem Scans.isGap (h : Scans s cs ts) (hcs : source.drop s.position = cs) :
  IsGap ts.isEmpty (source.extract s.position (nextStart source ts))
  := by
  induction h with
  | done =>
      rw [List.extract, hcs, List.take_nil]
      exact .nil
  | @gap s c cs n k ts hbegins htail ih =>
      have hn : n ≤ cs.length := hbegins.extra_le
      have htailcs : source.drop (s.skip (n + 1) k).position = cs.drop n := drop_eq_drop hcs n
      have hlength := congrArg List.length hcs
      rw [List.length_drop, List.length_cons] at hlength
      have hle : s.position + (n + 1) ≤ nextStart source ts :=
        htail.le_nextStart (by simp only [Spot.skip]; omega)
      have hpiece : source.extract s.position (s.position + (n + 1)) = c :: cs.take n := by
        rw [List.extract, hcs, Nat.add_sub_cancel_left, List.take_succ_cons]
      rw [extract_append (Nat.le_add_right _ _) hle, hpiece]
      apply hbegins.isGap (ih htailcs)
      exact htail.endsLine htailcs
  | lexeme =>
      simp only [nextStart, Spot.token, List.extract, Nat.sub_self, List.take_zero]
      exact .nil

theorem Begins.drop_token {c : Char} {kind : TokenKind} {n k : Nat}
    (h : Begins s c cs (.lexeme kind n k)) (hcs : source.drop s.position = c :: cs) :
  source.drop (s.token kind (c :: cs.take n) k).stop = cs.drop n
  := by
  rw [h.stop_token, drop_eq_drop hcs]

/-- What stands behind each token is a gap. -/
theorem Scans.isGap_behind (h : Scans s cs ts) (hcs : source.drop s.position = cs)
    {before after : List Token} {t : Token} (ht : ts = before ++ t :: after) :
  IsGap after.isEmpty (source.extract t.stop (nextStart source after))
  := by
  induction h generalizing before with
  | done =>
      cases before with
      | nil => cases ht
      | cons _ _ => cases ht
  | gap _ _ ih => exact ih (drop_eq_drop hcs _) ht
  | lexeme hbegins htail ih =>
      have hdrop := hbegins.drop_token hcs
      cases before with
      | nil =>
          cases ht
          exact htail.isGap hdrop
      | cons q before =>
          cases ht
          exact ih hdrop rfl

/-- Each token is the text of its range. -/
theorem Scans.text_eq (h : Scans s cs ts) (hcs : source.drop s.position = cs) :
  ∀ t ∈ ts, t.text.toList = source.extract t.start t.stop
  := by
  induction h with
  | done =>
      intro t ht
      cases ht
  | gap _ _ ih => exact ih (drop_eq_drop hcs _)
  | @lexeme s c cs kind n k ts hbegins htail ih =>
      rw [List.forall_mem_cons]
      constructor
      · rw [hbegins.stop_token, Spot.token, String.toList_ofList, List.extract, hcs,
          Nat.add_sub_cancel_left, List.take_succ_cons]
      · exact ih (hbegins.drop_token hcs)

/-! ### Whole texts -/

/-- A first line that names an interpreter reaches up to a newline or the end of the text. -/
theorem take_shebangLength (source : List Char) :
  shebangLength source = 0
    ∨ (∃ v, source.take (shebangLength source) = '#' :: '!' :: v ∧ '\n' ∉ v)
      ∧ ∀ d ∈ (source.drop (shebangLength source)).head?, d = '\n'
  := by
  rw [shebangLength]
  split
  · rename_i hshebang
    right
    obtain ⟨w, rfl⟩ := List.isPrefixOf_iff_prefix.mp hshebang
    constructor
    · use w.take (runLength (· != '\n') w), rfl
      exact not_mem_take_runLength (p := (· != '\n')) rfl w
    · intro d hd
      have hnot := head?_drop_runLength _ _ d hd
      simpa using hnot
  · exact .inl rfl

/-- A text begins with a gap, or with a line that names an interpreter and a gap. -/
theorem isFront_of_scan (h : scan source = .ok ts) :
  IsFront ts.isEmpty (source.extract 0 (nextStart source ts))
  := by
  have hscans := scans_of_scanFrom h
  have hgap := hscans.isGap rfl
  have hle := hscans.le_nextStart (shebangLength_le source)
  rw [extract_append (Nat.zero_le _) hle]
  obtain hnone | ⟨⟨v, hline, hv⟩, hend⟩ := take_shebangLength source
  · simp only [hnone] at hgap ⊢
    exact .gap hgap
  · have hfirst : source.extract 0 (shebangLength source) = '#' :: '!' :: v := hline
    simp only [hfirst]
    exact .shebang hv (hscans.endsLine rfl hend) hgap

/-- The tokens of a text hold all of it but gaps. -/
theorem scan_tiles (h : scan source = .ok ts) :
  Tiles source ts
  where
  inside t ht := by
    have hle := (scans_of_scanFrom h).stop_le t ht
    have hfirst := shebangLength_le source
    simp only [List.length_drop] at hle
    use (linked_of_scan h).pos t ht
    omega
  ordered := (linked_of_scan h).pairwise
  text := (scans_of_scanFrom h).text_eq rfl
  front := isFront_of_scan h
  behind _ _ _ ht := (scans_of_scanFrom h).isGap_behind rfl ht

/-- A template inside another one, with marks of comments that begin none, a comment in a substitution,
and one at the end. -/
def layered : List Char := "#!node\na = `//$\x7b`$\x7b'/*'\x7d` /* \x7d */\x7d` // b".toList

/-- The tokens of that text. -/
def layeredTokens : List Token :=
  [⟨.identifier, "a", 7, 8, 2⟩, ⟨.mark, "=", 9, 10, 2⟩, ⟨.template, "`//$\x7b", 11, 16, 2⟩,
    ⟨.template, "`$\x7b", 16, 19, 2⟩, ⟨.text, "'/*'", 19, 23, 2⟩, ⟨.template, "\x7d`", 23, 25, 2⟩,
    ⟨.template, "\x7d`", 33, 35, 2⟩]

/-- The comments are gaps, the one in the substitution and the one at the end. -/
theorem scan_tiles_layered :
  scan layered = .ok layeredTokens
    ∧ IsGap false " /* \x7d */".toList ∧ IsGap true " // b".toList
  := by
  have hscan : scan layered = .ok layeredTokens := by decide +kernel
  have htiles := scan_tiles hscan
  have hinner := htiles.behind (layeredTokens.take 5) ⟨.template, "\x7d`", 23, 25, 2⟩
    (layeredTokens.drop 6) rfl
  have hlast := htiles.behind (layeredTokens.take 6) ⟨.template, "\x7d`", 33, 35, 2⟩ [] rfl
  have hinnerText : layered.extract 25 33 = " /* \x7d */".toList := by decide +kernel
  have hlastText : layered.extract 35 layered.length = " // b".toList := by decide +kernel
  use hscan
  rw [← hinnerText, ← hlastText]
  exact ⟨hinner, hlast⟩

end SnippetProfiler.Braced
