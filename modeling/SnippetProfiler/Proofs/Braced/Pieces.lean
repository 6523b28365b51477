import SnippetProfiler.Proofs.Braced.Lookahead

/-!
# The pieces of a text

`Begins` says which piece begins at a character, one rule for each sort of piece; it is the graph
of `readPiece`.  The rules show what a piece depends on.

* It depends on the spot only through the braces that are open and, for a slash, through the token
  in front of it.
* It depends on the characters behind its end only through the first of them.  `Begins.append`
  says when a piece stays the same if a hook is written behind it.
-/

namespace SnippetProfiler.Braced

/-! ### Classes of characters -/

/-- The blank characters include the newline. -/
theorem ne_newline_of_isBlank {c : Char} (hc : Text.isBlank c = false) :
  c ≠ '\n'
  := by
  rintro rfl
  have h : Text.isBlank '\n' = true := by decide
  rw [h] at hc
  cases hc

/-- A slash that begins no comment. -/
def isBare (cs : List Char) : Prop := cs.head? ≠ some '/' ∧ cs.head? ≠ some '*'

/-! ### The rules -/

/-- The piece that begins at the character `c` with the characters `cs` behind it. -/
inductive Begins (s : Spot) (c : Char) (cs : List Char) : Piece → Prop
  | newline (hc : c = '\n') : Begins s c cs (.gap 0 1)
  | blank (hc : c ≠ '\n') (hblank : Text.isBlank c = true) : Begins s c cs (.gap 0 0)
  | lineComment (hc : c = '/') (hcs : cs.head? = some '/') :
      Begins s c cs (.gap (runLength (· != '\n') cs) 0)
  | blockComment (hc : c = '/') (hcs : cs.head? = some '*') {n : Nat}
      (hn : commentLength cs.tail = some n) :
      Begins s c cs (.gap (n + 1) (newlines (cs.take (n + 1))))
  | text (hc : c = '"' ∨ c = '\'') {n : Nat} (hn : textLength c cs = some n) :
      Begins s c cs (.lexeme .text n (newlines (cs.take n)))
  | template (hc : c = '`' ∨ (c = '}' ∧ s.openings.head? = some s.depth)) {n k : Nat}
      (hn : templateLength cs = some (n, k)) : Begins s c cs (.lexeme .template n k)
  | regex (hc : c = '/') (hcs : isBare cs) (hprevious : regexAfter s.previous = true) {n : Nat}
      (hn : regexLength false cs = some n) :
      Begins s c cs (.lexeme .regex (n + runLength continuesIdentifier (cs.drop n)) 0)
  | identifier (hblank : Text.isBlank c = false) (hc : startsIdentifier c = true) :
      Begins s c cs (.lexeme .identifier (runLength continuesIdentifier cs) 0)
  | number (hc : c.isDigit = true ∨ (c = '.' ∧ cs.head?.any Text.isDigitLike = true)) :
      Begins s c cs (.lexeme .number (runLength continuesNumber cs) 0)
  | mark (hblank : Text.isBlank c = false) (hquote : c ≠ '"' ∧ c ≠ '\'' ∧ c ≠ '`')
      (hbrace : c = '}' → s.openings.head? ≠ some s.depth)
      (hslash : c = '/' → isBare cs ∧ regexAfter s.previous = false)
      (hstart : startsIdentifier c = false) (hdigit : c.isDigit = false)
      (hdot : c = '.' → cs.head?.any Text.isDigitLike = false) :
      Begins s c cs (.lexeme .mark (markLength (c :: cs) - 1) 0)

theorem exists_of_readTemplate {cs : List Char} {p : Piece} (h : readTemplate cs = .ok p) :
  ∃ n k, templateLength cs = some (n, k) ∧ p = .lexeme .template n k
  := by
  rw [readTemplate] at h
  split at h
  · rename_i n k hn
    cases h
    exact ⟨n, k, hn, rfl⟩
  · cases h

theorem begins_of_readPiece {s : Spot} {c : Char} {cs : List Char} {p : Piece}
    (h : readPiece s c cs = .ok p) :
  Begins s c cs p
  := by
  rw [readPiece] at h
  simp only [Bool.and_eq_true, Bool.or_eq_true, decide_eq_true_eq, beq_iff_eq] at h
  split at h
  · rename_i hc
    cases h
    apply Begins.newline hc
  rename_i hline
  split at h
  · rename_i hblank
    cases h
    apply Begins.blank hline hblank
  rename_i hblank
  rw [Bool.not_eq_true] at hblank
  split at h
  · rename_i hc
    cases h
    apply Begins.lineComment hc.1 hc.2
  rename_i hslash
  split at h
  · rename_i hc
    split at h
    · rename_i n hn
      cases h
      apply Begins.blockComment hc.1 hc.2 hn
    · cases h
  rename_i hstar
  have hbare : c = '/' → isBare cs := fun hc => ⟨fun h => hslash ⟨hc, h⟩, fun h => hstar ⟨hc, h⟩⟩
  split at h
  · rename_i hc
    split at h
    · rename_i n hn
      cases h
      apply Begins.text hc hn
    · cases h
  rename_i hquote
  split at h
  · rename_i hc
    obtain ⟨n, k, hn, rfl⟩ := exists_of_readTemplate h
    apply Begins.template (.inl hc) hn
  rename_i htick
  split at h
  · rename_i hc
    obtain ⟨n, k, hn, rfl⟩ := exists_of_readTemplate h
    apply Begins.template (.inr hc) hn
  rename_i hbrace
  split at h
  · rename_i hc
    split at h
    · rename_i n hn
      cases h
      apply Begins.regex hc.1 (hbare hc.1) hc.2 hn
    · cases h
  rename_i hregex
  split at h
  · rename_i hc
    cases h
    apply Begins.identifier hblank hc
  rename_i hstart
  split at h
  · rename_i hc
    cases h
    apply Begins.number hc
  rename_i hnumber
  cases h
  rw [not_or] at hquote hnumber
  apply Begins.mark hblank ⟨hquote.1, hquote.2, htick⟩ (fun hc h => hbrace ⟨hc, h⟩)
    (fun hc => ⟨hbare hc, Bool.eq_false_iff.mpr fun h => hregex ⟨hc, h⟩⟩)
    (Bool.eq_false_iff.mpr hstart) (Bool.eq_false_iff.mpr hnumber.1)
    (fun hc => Bool.eq_false_iff.mpr fun h => hnumber.2 ⟨hc, h⟩)

/-- Characters with a meaning of their own are neither blank nor part of a word. -/
theorem of_mem_ownMeaning {d : Char} (hd : d ∈ ['/', '"', '\'', '`', '}', '.']) :
  Text.isBlank d = false ∧ startsIdentifier d = false ∧ d.isDigit = false
  := by
  have hall : (['/', '"', '\'', '`', '}', '.'].all fun d =>
      !Text.isBlank d && !startsIdentifier d && !d.isDigit) = true := by decide
  have hclasses := List.all_eq_true.mp hall d hd
  simpa only [Bool.and_eq_true, Bool.not_eq_true', and_assoc] using hclasses

/-- A character of a class is none of those with a meaning of their own. -/
theorem ne_of_class {q : Char → Bool} (hq : ∀ d ∈ ['/', '"', '\'', '`', '}', '.'], q d = false)
    {c : Char} (hc : q c = true) :
  c ≠ '/' ∧ c ≠ '"' ∧ c ≠ '\'' ∧ c ≠ '`' ∧ c ≠ '}' ∧ c ≠ '.'
  := by
  have hne : ∀ d ∈ ['/', '"', '\'', '`', '}', '.'], c ≠ d := by
    rintro d hd rfl
    rw [hq c hd] at hc
    cases hc
  simp only [List.forall_mem_cons] at hne
  obtain ⟨h1, h2, h3, h4, h5, h6, -⟩ := hne
  exact ⟨h1, h2, h3, h4, h5, h6⟩

/-- The digits stand in a row. -/
theorem toNat_of_isDigit {c : Char} (hc : c.isDigit = true) :
  48 ≤ c.toNat ∧ c.toNat < 58
  := by
  rw [Char.isDigit, Bool.and_eq_true, decide_eq_true_eq, decide_eq_true_eq] at hc
  exact ⟨UInt32.le_iff_toNat_le.mp hc.1, Nat.lt_succ_of_le (UInt32.le_iff_toNat_le.mp hc.2)⟩

/-- The digits are no blank characters and begin no identifier. -/
theorem isBlank_of_isDigit {c : Char} (hc : c.isDigit = true) :
  Text.isBlank c = false ∧ startsIdentifier c = false
  := by
  have hall : ∀ n < 58, 48 ≤ n →
      Text.isBlank (Char.ofNat n) = false ∧ startsIdentifier (Char.ofNat n) = false := by
    decide
  obtain ⟨hle, hlt⟩ := toNat_of_isDigit hc
  have h := hall c.toNat hlt hle
  rwa [Char.ofNat_toNat] at h

theorem decide_and_eq_false {q : Prop} [Decidable q] {b : Bool} (h : q → b = false) :
  (decide q && b) = false
  := by
  rw [Bool.and_eq_false_imp, decide_eq_true_eq]
  exact h

/-- A rule gives the piece that is read. -/
theorem Begins.readPiece {s : Spot} {c : Char} {cs : List Char} {p : Piece}
    (h : Begins s c cs p) :
  readPiece s c cs = .ok p
  := by
  have hown : ∀ d ∈ ['/', '"', '\'', '`', '}', '.'], Text.isBlank d = false :=
    fun d hd => (of_mem_ownMeaning hd).1
  simp only [List.forall_mem_cons] at hown
  obtain ⟨h1, h2, h3, h4, h5, h6, -⟩ := hown
  cases h with
  | newline hc => simp [Braced.readPiece, hc]
  | blank hc hblank => simp [Braced.readPiece, hc, hblank]
  | lineComment hc hcs => simp [Braced.readPiece, hc, hcs, h1]
  | blockComment hc hcs hn => simp [Braced.readPiece, hc, hcs, h1, hn]
  | text hc hn =>
      obtain rfl | rfl := hc
      · simp [Braced.readPiece, h2, hn]
      · simp [Braced.readPiece, h3, hn]
  | template hc hn =>
      obtain rfl | ⟨rfl, hc⟩ := hc
      · simp [Braced.readPiece, readTemplate, h4, hn]
      · simp [Braced.readPiece, readTemplate, h5, hn, hc]
  | regex hc hcs hprevious hn =>
      simp [Braced.readPiece, hc, h1, hcs.1, hcs.2, hprevious, hn]
  | identifier hblank hc =>
      obtain ⟨n1, n2, n3, n4, n5, -⟩ := ne_of_class (fun d hd => (of_mem_ownMeaning hd).2.1) hc
      simp [Braced.readPiece, ne_newline_of_isBlank hblank, hblank, n1, n2, n3, n4, n5, hc]
  | number hc =>
      obtain hc | ⟨rfl, hc⟩ := hc
      · obtain ⟨n1, n2, n3, n4, n5, -⟩ := ne_of_class (fun d hd => (of_mem_ownMeaning hd).2.2) hc
        obtain ⟨hblank, hstart⟩ := isBlank_of_isDigit hc
        simp [Braced.readPiece, ne_newline_of_isBlank hblank, hblank, hstart, n1, n2, n3, n4, n5, hc]
      · obtain ⟨hstart, -⟩ := (of_mem_ownMeaning (d := '.') (by decide)).2
        simp [Braced.readPiece, h6, hstart, hc]
  | mark hblank hquote hbrace hslash hstart hdigit hdot =>
      obtain ⟨n1, n2, n3⟩ := hquote
      have n4 := decide_and_eq_false fun hc => beq_false_of_ne (hbrace hc)
      have n5 := decide_and_eq_false fun hc => beq_false_of_ne (hslash hc).1.1
      have n6 := decide_and_eq_false fun hc => beq_false_of_ne (hslash hc).1.2
      have n7 := decide_and_eq_false fun hc => (hslash hc).2
      have n8 := decide_and_eq_false hdot
      simp [Braced.readPiece, ne_newline_of_isBlank hblank, hblank, n1, n2, n3, n4, n5, n6, n7, n8,
        hstart, hdigit]

/-- The piece that begins at a character is the one that is read. -/
theorem readPiece_eq_ok {s : Spot} {c : Char} {cs : List Char} {p : Piece} :
  readPiece s c cs = .ok p ↔ Begins s c cs p
  := ⟨begins_of_readPiece, Begins.readPiece⟩

/-! ### The length of a piece -/

/-- The number of characters of a piece behind its first one. -/
def Piece.extra : Piece → Nat
  | .gap n _ => n
  | .lexeme _ n _ => n

/-- A piece does not reach beyond the end of the text. -/
theorem Begins.extra_le {s : Spot} {c : Char} {cs : List Char} {p : Piece}
    (h : Begins s c cs p) :
  p.extra ≤ cs.length
  := by
  cases h with
  | newline => apply Nat.zero_le
  | blank => apply Nat.zero_le
  | lineComment => apply runLength_le
  | blockComment hc hcs hn =>
      cases cs with
      | nil => cases hcs
      | cons d cs => apply Nat.succ_le_succ (le_length_of_commentLength hn)
  | text hc hn => apply le_length_of_textLength hn
  | template hc hn => apply le_length_of_templateLength hn
  | regex hc hcs hprevious hn =>
      rename_i n
      have hflags := runLength_le continuesIdentifier (cs.drop n)
      have hle := le_length_of_regexLength hn
      rw [List.length_drop] at hflags
      rw [Piece.extra]
      omega
  | identifier => apply runLength_le
  | number => apply runLength_le
  | mark => apply Nat.sub_le_of_le_add (markLength_le c cs)

/-! ### Other spots -/

/-- The same piece begins at two spots with the same braces, unless a slash means something
else. -/
theorem Begins.congr {s s' : Spot} {c : Char} {cs : List Char} {p : Piece}
    (h : Begins s c cs p) (hdepth : s'.depth = s.depth) (hopen : s'.openings = s.openings)
    (hregex : regexAfter s'.previous = regexAfter s.previous ∨ c ≠ '/' ∨ ∃ n k, p = .gap n k) :
  Begins s' c cs p
  := by
  cases h with
  | newline hc => apply Begins.newline hc
  | blank hc hblank => apply Begins.blank hc hblank
  | lineComment hc hcs => apply Begins.lineComment hc hcs
  | blockComment hc hcs hn => apply Begins.blockComment hc hcs hn
  | text hc hn => apply Begins.text hc hn
  | template hc hn =>
      rw [← hdepth, ← hopen] at hc
      apply Begins.template hc hn
  | regex hc hcs hprevious hn =>
      obtain hregex | hne | ⟨n, k, hp⟩ := hregex
      · rw [← hregex] at hprevious
        apply Begins.regex hc hcs hprevious hn
      · cases hne hc
      · cases hp
  | identifier hblank hc => apply Begins.identifier hblank hc
  | number hc => apply Begins.number hc
  | mark hblank hquote hbrace hslash hstart hdigit hdot =>
      rw [← hdepth, ← hopen] at hbrace
      apply Begins.mark hblank hquote hbrace _ hstart hdigit hdot
      intro hc
      obtain hregex | hne | ⟨n, k, hp⟩ := hregex
      · rw [hregex]
        apply hslash hc
      · cases hne hc
      · cases hp

/-! ### Other characters behind a piece -/

/-- Whether a piece with the first character `c` may go on with the first character of a hook. -/
def Piece.goesOn (c : Char) : Piece → Bool
  | .gap _ _ => false
  | .lexeme .text _ _ => false
  | .lexeme .template _ _ => false
  | .lexeme .mark _ _ => c = '.'
  | .lexeme _ _ _ => true

theorem head?_append_cons {a z : List Char} (ha : a ≠ []) (y : List Char) :
  (a ++ y).head? = (a ++ z).head?
  := by
  cases a with
  | nil => cases ha rfl
  | cons b a => rfl

/-- A digit behind a point belongs to the number. -/
theorem any_continuesNumber {d? : Option Char} (h : d?.any Text.isDigitLike = true) :
  d?.any continuesNumber = true
  := by
  cases d? with
  | none => cases h
  | some d =>
      have hd : Text.isDigitLike d = true := h
      simp [continuesNumber, Text.isAlphanumeric, hd]

/-- Nothing with which a hook begins makes a comment of a slash. -/
theorem isBare_append {a z : List Char} (h : isBare (a ++ z)) {x : Char} (hx : opensHook x = true)
    (y : List Char) :
  isBare (a ++ x :: y)
  := by
  cases a with
  | nil =>
      constructor
      · rintro hd
        cases hd
        cases hx
      · rintro hd
        cases hd
        cases hx
  | cons b a => apply h

/-- A comment that ends in the first part of a text is there whatever comes behind that part. -/
theorem commentLength_tail_append {a z : List Char} {n : Nat}
    (hn : commentLength (a ++ z).tail = some n) (h : n + 1 ≤ a.length) (y : List Char) :
  commentLength (a ++ y).tail = some n
  := by
  cases a with
  | nil => cases h
  | cons b a =>
      rw [List.cons_append, List.tail_cons] at hn ⊢
      rw [append_eq_take_append (Nat.le_of_succ_le_succ h)]
      exact commentLength_take hn _

/-- A number begins in the same way when it is over before something else comes. -/
theorem beginsNumber_append {c : Char} {a z : List Char}
    (hc : c.isDigit = true ∨ (c = '.' ∧ (a ++ z).head?.any Text.isDigitLike = true))
    (h : runLength continuesNumber (a ++ z) ≤ a.length) (y : List Char) :
  c.isDigit = true ∨ (c = '.' ∧ (a ++ y).head?.any Text.isDigitLike = true)
  := by
  refine hc.imp_right fun ⟨hpoint, hdigit⟩ => ⟨hpoint, ?_⟩
  have ha : a ≠ [] := by
    rintro rfl
    exact Nat.not_lt.mpr h (runLength_pos (any_continuesNumber hdigit))
  rw [head?_append_cons ha y]
  exact hdigit

/-- Behind a point that is a mark comes no digit when at most a semicolon is written there. -/
theorem not_isDigitLike_append {a z : List Char} (h : (a ++ z).head?.any Text.isDigitLike = false) {x : Char}
    (hx : a = [] → x = ';') (y : List Char) :
  (a ++ x :: y).head?.any Text.isDigitLike = false
  := by
  cases a with
  | nil =>
      rw [hx rfl]
      have hdigits : Text.isDigitLike ';' = false := by decide
      exact hdigits
  | cons b a => exact h

/-- A piece stays the same when a hook is written behind it. -/
theorem Begins.append {s : Spot} {c : Char} {a z : List Char} {p : Piece}
    (h : Begins s c (a ++ z) p) (hp : p.extra ≤ a.length) {x : Char}
    (hx : opensHook x = true)
    (hcomment : p.extra = a.length → ¬ (c = '/' ∧ (a ++ z).head? = some '/'))
    (hend : p.extra = a.length → p.goesOn c = true → x = ';') (y : List Char) :
  Begins s c (a ++ x :: y) p
  := by
  -- A piece that may go on meets a semicolon, and no class of characters that it reads has that.
  have hstop {q : Char → Bool} (hq : q ';' = false) (hgoes : p.goesOn c = true)
      (hlength : p.extra = a.length) : ∀ d ∈ (x :: y).head?, q d = false := by
    rintro _ ⟨⟩
    rw [hend hlength hgoes, hq]
  cases h with
  | newline hc => apply Begins.newline hc
  | blank hc hblank => apply Begins.blank hc hblank
  | lineComment hc hcs =>
      -- The second slash belongs to the comment, so that the hook does not come in between.
      have ha : a ≠ [] := by
        rintro rfl
        exact hcomment (Nat.le_zero.mp hp) ⟨hc, hcs⟩
      rw [← runLength_append hp (y := x :: y) fun h => absurd ⟨hc, hcs⟩ (hcomment h)]
      apply Begins.lineComment hc
      rw [head?_append_cons ha]
      exact hcs
  | blockComment hc hcs hn =>
      have ha : a ≠ [] := List.ne_nil_of_length_pos (Nat.lt_of_lt_of_le (Nat.succ_pos _) hp)
      rw [Piece.extra] at hp
      rw [← take_append_eq hp (x :: y)]
      apply Begins.blockComment hc _ (commentLength_tail_append hn hp _)
      rw [head?_append_cons ha]
      exact hcs
  | text hc hn =>
      rw [Piece.extra] at hp
      rw [← take_append_eq hp (x :: y)]
      apply Begins.text hc
      rw [append_eq_take_append hp]
      apply textLength_take _ hn
      obtain rfl | rfl := hc
      · decide
      · decide
  | template hc hn =>
      rw [Piece.extra] at hp
      apply Begins.template hc
      rw [append_eq_take_append hp]
      apply templateLength_take hn
  | regex hc hcs hprevious hn =>
      rw [Piece.extra] at hp
      have hle := Nat.le_trans (Nat.le_add_right ..) hp
      rw [← runLength_drop_append hle hp (y := x :: y) (hstop rfl rfl)]
      apply Begins.regex hc (isBare_append hcs hx y) hprevious
      rw [append_eq_take_append hle]
      apply regexLength_take hn
  | identifier hblank hc =>
      rw [← runLength_append hp (y := x :: y) (hstop rfl rfl)]
      apply Begins.identifier hblank hc
  | number hc =>
      rw [← runLength_append hp (y := x :: y) (hstop rfl rfl)]
      apply Begins.number (beginsNumber_append hc hp _)
  | mark hblank hquote hbrace hslash hstart hdigit hdot =>
      have hlength : markLength (c :: a ++ z) ≤ (c :: a).length := by
        rw [Piece.extra] at hp
        rw [List.length_cons]
        apply Nat.le_add_of_sub_le hp
      rw [← List.cons_append, ← markLength_append hlength hx y]
      apply Begins.mark hblank hquote hbrace _ hstart hdigit
      · intro hc
        apply not_isDigitLike_append (hdot hc)
        rintro rfl
        apply hend
        · exact Nat.le_zero.mp hp
        · rw [Piece.goesOn, decide_eq_true hc]
      · intro hc
        obtain ⟨hbare, hprevious⟩ := hslash hc
        use isBare_append hbare hx y

end SnippetProfiler.Braced
