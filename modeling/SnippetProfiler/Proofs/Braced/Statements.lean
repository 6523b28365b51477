import SnippetProfiler.Braced.Hook
import SnippetProfiler.Proofs.Braced.Scans

/-!
# Texts that spell tokens

A text spells tokens when it is cut into them wherever it stands and whatever stands behind it.
`IsStatement` says that the last one of them is a semicolon.  Statements are put together from
their ends: each lemma in the namespace writes a token in front of one.
-/

namespace SnippetProfiler.Braced

/-! ### Texts that spell tokens -/

/-- What a token is, without its place. -/
def Token.lexeme (t : Token) : TokenKind × String := (t.kind, t.text)

/-- The characters `cs` spell the lexemes `ws`, wherever they stand and whatever stands behind
them. -/
inductive Spells : List Char → List (TokenKind × String) → Prop
  | done : Spells [] []
  | blank {cs : List Char} {ws : List (TokenKind × String)} (h : Spells cs ws) :
      Spells (' ' :: cs) ws
  | lexeme {kind : TokenKind} {c : Char} {w cs : List Char} {ws : List (TokenKind × String)}
      (hread : ∀ s y, Begins s c (w ++ (cs ++ y)) (.lexeme kind w.length 0))
      (hkind : kind ≠ .template) (hbrace : c ≠ '{' ∧ c ≠ '}') (h : Spells cs ws) :
      Spells (c :: (w ++ cs)) ((kind, .ofList (c :: w)) :: ws)

/-- The spot `s'` is `n` characters behind the spot `s`, on the same line and inside the same
braces, and the tokens `us` stand between them. -/
structure Spot.Reaches (s : Spot) (us : List Token) (n : Nat) (s' : Spot) : Prop where
  position : s'.position = s.position + n
  line : s'.line = s.line
  depth : s'.depth = s.depth
  openings : s'.openings = s.openings
  previous : s'.previous = us.getLast?.or s.previous
  within : ∀ u ∈ us, s.position ≤ u.start ∧ u.start < u.stop ∧ u.stop ≤ s.position + n

theorem ofList_ne {c d : Char} {w : List Char} (h : c ≠ d) :
  String.ofList (c :: w) ≠ String.singleton d
  := by
  intro heq
  have hchars := congrArg String.toList heq
  rw [String.toList_ofList, String.toList_singleton] at hchars
  cases hchars
  exact h rfl

/-- Behind a token that is neither a piece of a template nor a brace, the same braces are
open. -/
theorem Spot.pass_token {s : Spot} {kind : TokenKind} {c : Char} {w : List Char}
    (hkind : kind ≠ .template) (hbrace : c ≠ '{' ∧ c ≠ '}') :
  s.pass (s.token kind (c :: w) 0) 0
    = ⟨s.position + (w.length + 1), s.line, s.depth, s.openings, some (s.token kind (c :: w) 0)⟩
  := by
  have hopen : String.ofList (c :: w) ≠ "\x7b" := ofList_ne hbrace.1
  have hclose : String.ofList (c :: w) ≠ "\x7d" := ofList_ne hbrace.2
  simp only [Spot.pass, Spot.depthAfter, Spot.openingsAfter, Spot.token, if_neg hkind,
    if_neg hopen, if_neg hclose, ite_self, List.length_cons, Nat.add_zero]

theorem Spot.Reaches.refl (s : Spot) :
  s.Reaches [] 0 s
  where
  position := rfl
  line := rfl
  depth := rfl
  openings := rfl
  previous := rfl
  within u hu := by cases hu

/-- A spot is reached from in front of a blank character, if it is reached from behind it. -/
theorem Spot.Reaches.skip {s s' : Spot} {us : List Token} {n : Nat}
    (h : (s.skip 1 0).Reaches us n s') :
  s.Reaches us (n + 1) s'
  := by
  obtain ⟨hposition, hline, hdepth, hopen, hprevious, hwithin⟩ := h
  simp only [Spot.skip] at hposition hline hdepth hopen hprevious hwithin
  constructor
  · omega
  · exact hline
  · exact hdepth
  · exact hopen
  · exact hprevious
  · intro u hu
    have h := hwithin u hu
    omega

/-- A spot is reached from in front of a token, if it is reached from behind it. -/
theorem Spot.Reaches.pass {s s' : Spot} {us : List Token} {n : Nat} {kind : TokenKind} {c : Char}
    {w : List Char} (hkind : kind ≠ .template) (hbrace : c ≠ '{' ∧ c ≠ '}')
    (h : (s.pass (s.token kind (c :: w) 0) 0).Reaches us n s') :
  s.Reaches (s.token kind (c :: w) 0 :: us) (w.length + 1 + n) s'
  := by
  obtain ⟨hposition, hline, hdepth, hopen, hprevious, hwithin⟩ := h
  rw [Spot.pass_token hkind hbrace] at hposition hline hdepth hopen hprevious hwithin
  constructor
  · rw [hposition, Nat.add_assoc]
  · exact hline
  · exact hdepth
  · exact hopen
  · rw [hprevious, List.getLast?_cons]
    cases us.getLast? with
    | none => rfl
    | some u => rfl
  · intro u hu
    rw [List.mem_cons] at hu
    obtain rfl | hu := hu
    · simp only [Spot.token, List.length_cons]
      omega
    · have h := hwithin u hu
      simp only at h
      omega

/-- A scan reads the tokens that a text spells, and goes on behind it. -/
theorem Spells.read {cs : List Char} {ws : List (TokenKind × String)} (h : Spells cs ws)
    (s : Spot) :
  ∃ us s', s.Reaches us cs.length s' ∧ us.map Token.lexeme = ws
    ∧ ∀ y ts, Scans s' y ts → Scans s (cs ++ y) (us ++ ts)
  := by
  induction h generalizing s with
  | done => exact ⟨[], s, .refl s, rfl, fun _ _ h => h⟩
  | blank _ ih =>
      obtain ⟨us, s', hs, hus, hread⟩ := ih (s.skip 1 0)
      use us, s', hs.skip, hus
      intro y ts h
      have hblank : Text.isBlank ' ' = true := by decide
      apply Scans.gap (n := 0) (k := 0)
      · apply Begins.blank (by decide) hblank
      · apply hread y ts h
  | lexeme hread hkind hbrace _ ih =>
      rename_i kind c w cs ws _
      obtain ⟨us, s', hs, hus, htail⟩ := ih (s.pass (s.token kind (c :: w) 0) 0)
      use s.token kind (c :: w) 0 :: us, s'
      constructor
      · rw [List.length_cons, List.length_append, Nat.add_right_comm]
        exact hs.pass hkind hbrace
      · constructor
        · rw [List.map_cons, hus]
          rfl
        · intro y ts h
          have htake : (w ++ (cs ++ y)).take w.length = w := List.take_left
          have hdrop : (w ++ (cs ++ y)).drop w.length = cs ++ y := List.drop_left
          have hlexeme := @Scans.lexeme s c _ _ _ _ (us ++ ts) (hread s y)
          rw [htake, hdrop] at hlexeme
          rw [List.cons_append, List.append_assoc]
          apply hlexeme
          apply htail y ts h

/-- Behind a semicolon a slash begins a regular expression. -/
theorem Spot.Reaches.regexAfter {s s' : Spot} {us : List Token} {n : Nat} (h : s.Reaches us n s')
    {ws : List (TokenKind × String)} (hus : us.map Token.lexeme = ws ++ [(.mark, ";")]) :
  regexAfter s'.previous = true
  := by
  obtain ⟨vs, last, rfl, -, hlast⟩ := List.map_eq_append_iff.mp hus
  obtain ⟨u, rfl, hu⟩ := List.map_eq_singleton_iff.mp hlast
  have hkind : u.kind = .mark := congrArg Prod.fst hu
  have htext : u.text = ";" := congrArg Prod.snd hu
  rw [h.previous, List.getLast?_concat, Option.some_or]
  simp [Braced.regexAfter, hkind, htext]

/-! ### Marks of one character -/

/-- A mark of one character, which has no other meaning in its place, is read wherever it
stands. -/
theorem begins_mark {c : Char} {cs : List Char} (hblank : Text.isBlank c = false)
    (hstart : startsIdentifier c = false) (hdigit : c.isDigit = false)
    (hc : c ∉ ['/', '"', '\'', '`', '}'])
    (hdot : c = '.' → cs.head?.any Text.isDigitLike = false) (hlength : markLength (c :: cs) = 1)
    (s : Spot) :
  Begins s c cs (.lexeme .mark 0 0)
  := by
  simp only [List.mem_cons, List.not_mem_nil, or_false, not_or] at hc
  obtain ⟨h1, h2, h3, h4, h5⟩ := hc
  have hmark : Begins s c cs (.lexeme .mark (markLength (c :: cs) - 1) 0) := by
    apply Begins.mark hblank ⟨h2, h3, h4⟩ _ _ hstart hdigit hdot
    · intro h
      cases h5 h
    · intro h
      cases h1 h
  rwa [hlength] at hmark

/-- The marks of hooks that have one character whatever stands behind them. -/
def plainMarks : List Char := [';', '(', ')', '[', ']', ',']

theorem begins_plainMark {c : Char} (hc : c ∈ plainMarks) (s : Spot) (cs : List Char) :
  Begins s c cs (.lexeme .mark 0 0)
  := by
  have hall : (plainMarks.all fun d =>
      !Text.isBlank d && !startsIdentifier d && !d.isDigit) = true := by decide
  have hclasses := List.all_eq_true.mp hall c hc
  simp only [Bool.and_eq_true, Bool.not_eq_true'] at hclasses
  obtain ⟨⟨hblank, hstart⟩, hdigit⟩ := hclasses
  have hlong : ∀ m ∈ longMarks, 2 ≤ m.toList.length
      ∧ m.toList.any plainMarks.contains = false := by decide
  have hlength : markLength (c :: cs) = 1 := by
    apply markLength_eq_one
    intro m hm
    use (hlong m hm).1
    intro heq
    have hmem : c ∈ m.toList.take 2 := by
      rw [heq]
      apply List.mem_cons_self
    apply List.any_eq_false.mp (hlong m hm).2 c (List.mem_of_mem_take hmem)
    rw [List.contains_iff_mem]
    exact hc
  apply begins_mark hblank hstart hdigit _ _ hlength
  · have hall : (plainMarks.any ['/', '"', '\'', '`', '}'].contains) = false := by decide
    intro hmem
    apply List.any_eq_false.mp hall c hc
    rw [List.contains_iff_mem]
    exact hmem
  · rintro rfl
    exact absurd hc (by decide)

/-! ### Inside quotation marks -/

/-- Characters that stand between quotation marks and do not end the text. -/
def IsInner (w : List Char) : Prop :=
  '\n' ∉ w ∧ ∀ y, textLength '"' (w ++ y) = (textLength '"' y).map (· + w.length)

theorem IsInner.append {v w : List Char} (hv : IsInner v) (hw : IsInner w) :
  IsInner (v ++ w)
  := by
  constructor
  · rw [List.mem_append, not_or]
    exact ⟨hv.1, hw.1⟩
  · intro y
    rw [List.append_assoc, hv.2, hw.2, Option.map_map, List.length_append]
    congr 1
    funext n
    simp only [Function.comp]
    omega

theorem isInner_nil :
  IsInner []
  := by
  constructor
  · apply List.not_mem_nil
  · intro y
    cases h : textLength '"' y with
    | none => rw [List.nil_append, h]; rfl
    | some n => rw [List.nil_append, h]; rfl

theorem isInner_of_ne {c : Char} (hquote : c ≠ '"') (hslash : c ≠ '\\') (hline : c ≠ '\n') :
  IsInner [c]
  := by
  constructor
  · rw [List.mem_singleton]
    exact hline.symm
  · intro y
    rw [List.singleton_append, textLength_of_ne hslash, if_neg hquote, if_neg hline]
    rfl

theorem isInner_escape {c : Char} (hline : c ≠ '\n') :
  IsInner ['\\', c]
  := by
  constructor
  · simp only [List.mem_cons, List.not_mem_nil, or_false, not_or]
    exact ⟨by decide, hline.symm⟩
  · intro y
    rfl

theorem isInner_hex (width n : Nat) :
  IsInner (Text.hex width n)
  := by
  induction width generalizing n with
  | zero => apply isInner_nil
  | succ width ih =>
      rw [Text.hex]
      apply (ih (n / 16)).append
      have hall : ∀ d < 16, Text.hexChar d ≠ '"' ∧ Text.hexChar d ≠ '\\' ∧ Text.hexChar d ≠ '\n' := by
        decide
      obtain ⟨h1, h2, h3⟩ := hall (n % 16) (Nat.mod_lt n (by decide))
      apply isInner_of_ne h1 h2 h3

theorem isInner_flatMap {α : Type} {f : α → List Char} (hf : ∀ a, IsInner (f a)) (l : List α) :
  IsInner (l.flatMap f)
  := by
  induction l with
  | nil => apply isInner_nil
  | cons a l ih =>
      rw [List.flatMap_cons]
      apply (hf a).append ih

theorem isInner_escapeChar (c : Char) :
  IsInner (Json.escapeChar c)
  := by
  rw [Json.escapeChar]
  split
  · apply isInner_escape
    decide
  rename_i hquote
  split
  · apply isInner_escape
    decide
  rename_i hslash
  split
  · apply isInner_escape
    decide
  rename_i hline
  split
  · apply isInner_escape
    decide
  split
  · apply isInner_escape
    decide
  split
  · apply isInner_escape
    decide
  split
  · apply isInner_escape
    decide
  split
  · apply isInner_of_ne hquote hslash hline
  · apply isInner_flatMap
    intro u
    apply (isInner_escape (by decide)).append (isInner_hex 4 u)

/-! ### Statements -/

/-- A text that spells tokens of which the last one is a semicolon. -/
def IsStatement (cs : List Char) : Prop := ∃ ws, Spells cs (ws ++ [(.mark, ";")])

namespace IsStatement

variable {cs : List Char}

theorem blank (h : IsStatement cs) :
  IsStatement (' ' :: cs)
  := by
  obtain ⟨ws, h⟩ := h
  use ws
  apply Spells.blank h

theorem lexeme (h : IsStatement cs) {kind : TokenKind} {c : Char} {w : List Char}
    (hread : ∀ s y, Begins s c (w ++ (cs ++ y)) (.lexeme kind w.length 0))
    (hkind : kind ≠ .template) (hbrace : c ≠ '{' ∧ c ≠ '}') :
  IsStatement (c :: (w ++ cs))
  := by
  obtain ⟨ws, h⟩ := h
  use (kind, .ofList (c :: w)) :: ws
  apply Spells.lexeme hread hkind hbrace h

theorem single (h : IsStatement cs) {c : Char}
    (hread : ∀ s y, Begins s c (cs ++ y) (.lexeme .mark 0 0)) (hbrace : c ≠ '{' ∧ c ≠ '}') :
  IsStatement (c :: cs)
  := by
  apply h.lexeme (w := []) hread _ hbrace
  decide

theorem mark (h : IsStatement cs) {c : Char} (hc : c ∈ plainMarks) :
  IsStatement (c :: cs)
  := by
  apply h.single
  · intro s y
    apply begins_plainMark hc
  · constructor
    · rintro rfl
      exact absurd hc (by decide)
    · rintro rfl
      exact absurd hc (by decide)

theorem semicolon :
  IsStatement [';']
  := by
  use []
  apply Spells.lexeme (w := [])
  · intro s y
    apply begins_plainMark
    decide
  · decide
  · decide
  · apply Spells.done

/-- An equals sign with a blank behind it is a mark. -/
theorem equals (h : IsStatement cs) :
  IsStatement ('=' :: ' ' :: cs)
  := by
  have hlong : ∀ m ∈ longMarks, 2 ≤ m.toList.length ∧ m.toList.take 2 ≠ ['=', ' '] := by
    decide
  apply h.blank.single
  · intro s y
    apply begins_mark
    · decide
    · decide
    · decide
    · decide
    · intro h
      cases h
    · exact markLength_eq_one hlong
  · decide

/-- A dot with a letter behind it is a mark. -/
theorem dot (h : IsStatement cs) {d : Char} {w : List Char} (hcs : cs = d :: w)
    (hd : d ∈ ['l', 't', 'v']) :
  IsStatement ('.' :: cs)
  := by
  subst hcs
  have hlong : ∀ m ∈ longMarks, 2 ≤ m.toList.length
      ∧ (['l', 't', 'v'].all fun d => m.toList.take 2 != ['.', d]) = true := by
    decide
  have hall : (['l', 't', 'v'].all fun d => !Text.isDigitLike d) = true := by decide
  have hdigit : Text.isDigitLike d = false := by
    simpa only [Bool.not_eq_true'] using List.all_eq_true.mp hall d hd
  apply h.single
  · intro s y
    apply begins_mark
    · decide
    · decide
    · decide
    · decide
    · intro _
      exact hdigit
    · apply markLength_eq_one
      intro m hm
      obtain ⟨htwo, hdots⟩ := hlong m hm
      exact ⟨htwo, bne_iff_ne.mp (List.all_eq_true.mp hdots d hd)⟩
  · decide

theorem word {w : List Char} (hw : IsWord w) {x : Char} (h : IsStatement (x :: cs))
    (hx : continuesIdentifier x = false) :
  IsStatement (w ++ x :: cs)
  := by
  obtain ⟨c, w, rfl, hblank, hc, hw⟩ := hw
  apply h.lexeme
  · intro s y
    have hword : Begins s c (w ++ x :: (cs ++ y))
        (.lexeme .identifier (runLength continuesIdentifier (w ++ x :: (cs ++ y))) 0) :=
      Begins.identifier hblank hc
    rwa [runLength_eq hw hx] at hword
  · decide
  · constructor
    · rintro rfl
      cases hc
    · rintro rfl
      cases hc

theorem digits (n : Nat) {x : Char} (h : IsStatement (x :: cs)) (hx : continuesNumber x = false) :
  IsStatement ((toString n).toList ++ x :: cs)
  := by
  have hchars : (toString n).toList = Nat.toDigits 10 n := Nat.toList_repr
  have hdigits : ∀ d ∈ (toString n).toList, d.isDigit = true := by
    intro d hd
    rw [hchars] at hd
    apply Nat.isDigit_of_mem_toDigits _ _ hd
    · decide
    · decide
  cases hn : (toString n).toList with
  | nil =>
      rw [hchars] at hn
      cases Nat.toDigits_ne_nil hn
  | cons c w =>
      rw [hn, List.forall_mem_cons] at hdigits
      obtain ⟨hc, hw⟩ := hdigits
      apply h.lexeme
      · intro s y
        have hnumber : Begins s c (w ++ x :: (cs ++ y))
            (.lexeme .number (runLength continuesNumber (w ++ x :: (cs ++ y))) 0) :=
          Begins.number (.inl hc)
        rw [runLength_eq _ hx] at hnumber
        · exact hnumber
        · intro d hd
          have hlt : d.toNat < 128 := Nat.lt_trans (toNat_of_isDigit (hw d hd)).2 (by decide)
          rw [continuesNumber, Text.isAlphanumeric, Text.isDigitLike, if_pos hlt, hw d hd]
          rfl
      · decide
      · constructor
        · rintro rfl
          cases hc
        · rintro rfl
          cases hc

theorem quoted (h : IsStatement cs) (name : String) :
  IsStatement ((quoted name).toList ++ cs)
  := by
  rw [Braced.quoted, String.toList_ofList, Json.quote]
  obtain ⟨hline, hlength⟩ := isInner_flatMap isInner_escapeChar name.toList
  generalize name.toList.flatMap Json.escapeChar = w at hline hlength
  have htext (y : List Char) : textLength '"' ((w ++ ['"']) ++ y) = some (w ++ ['"']).length := by
    rw [List.append_assoc, hlength, List.length_append, Nat.add_comm]
    rfl
  rw [List.cons_append]
  apply h.lexeme
  · intro s y
    have hread := Begins.text (s := s) (.inl rfl) (htext (cs ++ y))
    have hlines : newlines (w ++ ['"']) = 0 := by
      rw [newlines, List.count_eq_zero, List.mem_append, not_or]
      exact ⟨hline, by decide⟩
    rwa [List.take_left, hlines] at hread
  · decide
  · decide

end IsStatement

end SnippetProfiler.Braced
