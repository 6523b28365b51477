import SnippetProfiler.Proofs.Braced.Alignment

/-!
# Strict mode

A program runs in strict mode when its first line is the directive for it.  The program with hooks
looks for the directive in the first token of the snippet, the program without hooks at the first
character that is not blank.

The two find the same, unless a comment stands in front of the directive: `Scans.beginsDirective_iff`
says so for the characters from any spot on.
-/

namespace SnippetProfiler.Braced

/-- Whether a program runs in strict mode: its first line is the directive. -/
def IsStrict (program : String) : Prop :=
  (program.toList.splitOn '\n').head? = some "'use strict';".toList

theorem isStrict_assemble {strict : Bool} {source body : String} {o : TrackingOptions} :
  IsStrict (assemble strict source body o) ↔ strict = true
  := by
  rw [IsStrict, splitOn_assemble]
  cases strict with
  | true => exact ⟨fun _ => rfl, fun _ => rfl⟩
  | false =>
      constructor
      · intro h
        revert h
        simp only [header, List.map_cons, List.cons_append, List.head?_cons, Option.some.injEq]
        decide
      · rintro ⟨⟩

/-! ### Directives -/

/-- The directives for strict mode. -/
def directives : List String := ["'use strict'", "\"use strict\""]

/-- Whether characters begin with a directive. -/
def beginsDirective (cs : List Char) : Bool := directives.any fun d => d.toList.isPrefixOf cs

theorem beginsStrict_eq (source : String) :
  beginsStrict source = beginsDirective (source.toList.dropWhile Text.isBlank)
  := by
  simp only [beginsStrict, beginsDirective, directives, List.any_cons, List.any_nil, Bool.or_false]

/-- A directive stands between quotes. -/
theorem exists_quote_of_mem {d : String} (hd : d ∈ directives) :
  ∃ q, (q = '"' ∨ q = '\'') ∧ d.toList = q :: ("use strict".toList ++ [q])
  := by
  simp only [directives, List.mem_cons, List.not_mem_nil, or_false] at hd
  obtain rfl | rfl := hd
  · exact ⟨'\'', .inr rfl, by decide⟩
  · exact ⟨'"', .inl rfl, by decide⟩

/-- What begins with no quote begins with no directive. -/
theorem not_beginsDirective {c : Char} (hdouble : c ≠ '"') (hsingle : c ≠ '\'') (cs : List Char) :
  ¬ beginsDirective (c :: cs) = true
  := by
  intro h
  obtain ⟨d, hd, hprefix⟩ := List.any_eq_true.mp h
  obtain ⟨q, hq, hchars⟩ := exists_quote_of_mem hd
  rw [hchars, List.isPrefixOf_iff_prefix, List.cons_prefix_cons] at hprefix
  obtain ⟨rfl, -⟩ := hprefix
  obtain rfl | rfl := hq
  · exact hdouble rfl
  · exact hsingle rfl

/-- A text ends at the quote behind the directive. -/
theorem textLength_directive {q : Char} (hq : q = '"' ∨ q = '\'') (cs : List Char) :
  textLength q ("use strict".toList ++ q :: cs) = some 11
  := by
  have hchars : "use strict".toList = ['u', 's', 'e', ' ', 's', 't', 'r', 'i', 'c', 't'] := by decide
  rw [hchars]
  obtain rfl | rfl := hq
  · simp [textLength]
  · simp [textLength]

/-- The characters of a token begin with a directive exactly when the token is one. -/
theorem Begins.beginsDirective_iff {s : Spot} {c : Char} {cs : List Char} {kind : TokenKind}
    {n k : Nat} (h : Begins s c cs (.lexeme kind n k)) (ts : List Token) :
  beginsDirective (c :: cs) = true
    ↔ asksStrict (s.token kind (c :: cs.take n) k :: ts) = true
  := by
  simp only [asksStrict, Spot.token, Bool.and_eq_true, List.contains_iff_mem]
  constructor
  · intro hbegins
    obtain ⟨d, hd, hprefix⟩ := List.any_eq_true.mp hbegins
    obtain ⟨q, hq, hchars⟩ := exists_quote_of_mem hd
    rw [hchars, List.isPrefixOf_iff_prefix, List.cons_prefix_cons] at hprefix
    obtain ⟨rfl, rest, hrest⟩ := hprefix
    rw [List.append_assoc, List.singleton_append] at hrest
    have htext : Begins s q cs (.lexeme .text 11 (newlines (cs.take 11))) := by
      apply Begins.text hq
      rw [← hrest]
      apply textLength_directive hq
    have hpiece := h.readPiece.symm.trans htext.readPiece
    cases hpiece
    have htaken : cs.take 11 = "use strict".toList ++ [q] := by
      rw [← hrest]
      rfl
    rw [htaken, ← hchars, String.ofList_toList]
    exact ⟨rfl, hd⟩
  · rintro ⟨-, hd⟩
    apply List.any_eq_true.mpr
    refine ⟨_, hd, ?_⟩
    rw [String.toList_ofList, List.isPrefixOf_iff_prefix, List.cons_prefix_cons]
    exact ⟨rfl, List.take_prefix n cs⟩

/-- A token begins with no blank character. -/
theorem Begins.isBlank_lexeme {s : Spot} {c : Char} {cs : List Char} {kind : TokenKind} {n k : Nat}
    (h : Begins s c cs (.lexeme kind n k)) :
  Text.isBlank c = false
  := by
  have hread := h.readPiece
  rw [Braced.readPiece] at hread
  split at hread
  · cases hread
  · split at hread
    · cases hread
    · rename_i hblank
      rwa [Bool.not_eq_true] at hblank

/-! ### Comments in front of tokens -/

/-- Whether a comment stands in front of tokens. -/
def Comment.IsInFront (r : Comment) (ts : List Token) : Prop :=
  r.start < r.stop ∧ ∀ t ∈ ts, r.stop ≤ t.start

/-- Behind blanks there is a directive exactly when the first token is one and no comment stands in
front of it. -/
theorem Scans.beginsDirective_iff {s : Spot} {cs : List Char} {ts : List Token}
    (h : Scans s cs ts) :
  beginsDirective (cs.dropWhile Text.isBlank) = true
    ↔ asksStrict ts = true ∧ ∀ r ∈ commentsFrom s cs, ¬ r.IsInFront ts
  := by
  induction h with
  | done =>
      constructor
      · rintro ⟨⟩
      · rintro ⟨⟨⟩, -⟩
  | @gap s c cs n k ts hbegins htail ih =>
      rw [commentsFrom_gap hbegins]
      by_cases hc : c = '/'
      · -- the piece is a comment in front of all tokens
        have hslash : Text.isBlank c = false := by
          rw [hc]
          decide
        have hfront : Comment.IsInFront ⟨s.position, s.position + (n + 1)⟩ ts :=
          ⟨Nat.lt_add_of_pos_right (Nat.succ_pos n), htail.le_start⟩
        rw [List.dropWhile_cons_of_neg (by simp [hslash]), if_pos hc]
        constructor
        · intro h
          rw [hc] at h
          cases not_beginsDirective (by decide) (by decide) cs h
        · rintro ⟨-, hnone⟩
          cases hnone _ (List.mem_append_left _ (List.mem_singleton.mpr rfl)) hfront
      · obtain ⟨rfl, hblank⟩ := hbegins.isBlank hc
        rw [List.dropWhile_cons_of_pos hblank, if_neg hc, List.nil_append]
        exact ih
  | @lexeme s c cs kind n k ts hbegins htail ih =>
      rw [List.dropWhile_cons_of_neg (by simp [hbegins.isBlank_lexeme]),
        hbegins.beginsDirective_iff ts, commentsFrom_lexeme hbegins]
      constructor
      · intro h
        use h
        rintro r hr ⟨hlt, hfront⟩
        have hle := (htail.beside_comments r hr).1
        have hstart := hfront _ List.mem_cons_self
        simp only [Spot.pass, Spot.token, List.length_cons] at hle hstart
        omega
      · exact And.left

/-- A snippet without hooks is taken to ask for strict mode exactly when its first token does and no
comment stands in front of that token. -/
theorem beginsStrict_iff {source : String} {tokens : List Token}
    (h : scan source.toList = .ok tokens) :
  beginsStrict source = true
    ↔ asksStrict tokens = true ∧ ∀ r ∈ comments source.toList, ¬ r.IsInFront tokens
  := by
  have hscans := scans_of_scanFrom h
  have hiff := hscans.beginsDirective_iff
  rw [beginsStrict_eq, comments, List.forall_mem_cons]
  by_cases hshebang : ['#', '!'].isPrefixOf source.toList = true
  · -- the first line names an interpreter, so that it is a comment and no directive
    obtain ⟨rest, hrest⟩ := List.isPrefixOf_iff_prefix.mp hshebang
    have hpos : 0 < shebangLength source.toList := by
      rw [shebangLength, if_pos hshebang, ← hrest, runLength]
      apply Nat.succ_pos
    constructor
    · intro hbegins
      rw [← hrest, List.cons_append, List.dropWhile_cons_of_neg (by decide)] at hbegins
      cases not_beginsDirective (by decide) (by decide) _ hbegins
    · rintro ⟨-, hfirst, -⟩
      cases hfirst ⟨hpos, hscans.le_start⟩
  · have hzero : shebangLength source.toList = 0 := by rw [shebangLength, if_neg hshebang]
    rw [hzero] at hiff ⊢
    rw [List.drop_zero] at hiff ⊢
    rw [hiff]
    constructor
    · rintro ⟨hasks, hnone⟩
      exact ⟨hasks, fun hfirst => Nat.lt_irrefl 0 hfirst.1, hnone⟩
    · rintro ⟨hasks, -, hnone⟩
      exact ⟨hasks, hnone⟩

/-! ### Both programs -/

/-- If the program without hooks is strict, then so is the one with hooks.  The two run in the same
mode exactly when no comment stands in front of a directive that is the first token. -/
theorem sameMode_iff {source : String} {tokens : List Token} {hooks : List Insertion}
    (h : analyse source = .ok (tokens, hooks)) (o : TrackingOptions) :
  (IsStrict (plain source o) → IsStrict (instrument source o))
    ∧ ((IsStrict (instrument source o) ↔ IsStrict (plain source o))
      ↔ ¬ (asksStrict tokens = true ∧ ∃ r ∈ comments source.toList, r.IsInFront tokens))
  := by
  have hplain : IsStrict (plain source o)
      ↔ asksStrict tokens = true ∧ ∀ r ∈ comments source.toList, ¬ r.IsInFront tokens := by
    rw [plain, isStrict_assemble]
    apply beginsStrict_iff (analyse_eq_ok.mp h).1
  have hhooked : IsStrict (instrument source o) ↔ asksStrict tokens = true := by
    rw [instrument, h]
    apply isStrict_assemble
  rw [hplain, hhooked]
  refine ⟨And.left, ?_⟩
  constructor
  · rintro hsame ⟨hasks, r, hr, hfront⟩
    exact (hsame.mp hasks).2 r hr hfront
  · intro hnone
    refine ⟨fun hasks => ⟨hasks, fun r hr hfront => ?_⟩, And.left⟩
    exact hnone ⟨hasks, r, hr, hfront⟩

/-- A snippet that asks for strict mode behind a comment. -/
def remarked : String := "//\n'use strict'"

/-- Its only token. -/
def remarkedTokens : List Token := [⟨.text, "'use strict'", 3, 15, 2⟩]

theorem analyse_remarked :
  analyse remarked = .ok (remarkedTokens, [])
  := by
  apply analyse_eq_ok.mpr
  constructor
  · decide +kernel
  · decide

/-- The comment makes the programs of the snippet differ. -/
theorem sameMode_iff_remarked :
  analyse remarked = .ok (remarkedTokens, [])
    ∧ ¬ (IsStrict (instrument remarked {}) ↔ IsStrict (plain remarked {}))
  := by
  use analyse_remarked
  intro h
  apply (sameMode_iff analyse_remarked {}).2.mp h
  refine ⟨by decide, ⟨0, 2⟩, by decide +kernel, ?_⟩
  constructor
  · decide
  · decide

/-- The program with hooks and the one without do not always run in the same mode. -/
theorem not_always_sameMode :
  ¬ ∀ (source : String) (tokens : List Token) (hooks : List Insertion) (o : TrackingOptions),
    analyse source = .ok (tokens, hooks) →
    (IsStrict (instrument source o) ↔ IsStrict (plain source o))
  := by
  intro h
  have hsame := h remarked _ _ {} analyse_remarked
  rw [instrument, analyse_remarked, plain, isStrict_assemble, isStrict_assemble] at hsame
  revert hsame
  decide

end SnippetProfiler.Braced
