import SnippetProfiler.Indented.Token
import SnippetProfiler.Proofs.Indented.Codes
import SnippetProfiler.Text.Quoted

/-!
# Quoted literals are read back

A quoted literal denotes the text that was quoted: reading its inside gives back the codes, and the
first mark behind its opening one that no backslash hides is the last character of the literal.
Whatever ends a line is hidden, so that a literal never leaves its line.

A code has to be that of a character or of half of a surrogate pair.  The half of a pair must not be
printable, as no character shows it.
-/

namespace SnippetProfiler.Indented.Literal

open Text (hex hexChar isPrintableCode)
open Text.Quoted (byCode encodeCodes escape mark)

/-! ### Hexadecimal digits -/

theorem length_hex (width n : Nat) :
  (hex width n).length = width
  := by
  induction width generalizing n with
  | zero => rfl
  | succ width ih => rw [hex, List.length_append, ih, List.length_singleton]

theorem hex?_hexChar :
  ∀ n < 16, hex? (hexChar n) = some n
  := by decide

theorem exists_of_mem_hex {width n : Nat} {c : Char} (h : c ∈ hex width n) :
  ∃ m < 16, c = hexChar m
  := by
  induction width generalizing n with
  | zero => cases h
  | succ width ih =>
      rw [hex, List.mem_append, List.mem_singleton] at h
      obtain h | h := h
      · exact ih h
      · exact ⟨_, Nat.mod_lt _ (by decide), h⟩

theorem foldl_hex {width n : Nat} (h : n < twoTo (4 * width)) (v : Nat) :
  (hex width n).foldl (fun acc c => acc.bind fun v => (hex? c).map (16 * v + ·)) (some v)
    = some (twoTo (4 * width) * v + n)
  := by
  induction width generalizing n with
  | zero =>
      rw [Nat.mul_zero, twoTo_zero] at h ⊢
      rw [Nat.lt_one_iff.mp h, Nat.one_mul]
      rfl
  | succ width ih =>
      rw [twoTo_hex_succ] at h ⊢
      rw [hex, List.foldl_append, ih (by omega), List.foldl_cons, List.foldl_nil, Option.bind_some,
        hex?_hexChar _ (Nat.mod_lt _ (by decide)), Option.map_some, Nat.mul_assoc]
      congr 1
      omega

/-- The digits of a number denote it. -/
theorem hexNumber?_hex {width n : Nat} (h : n < twoTo (4 * width)) (rest : List Char) :
  hexNumber? width (hex width n ++ rest) = some n
  := by
  have htake : (hex width n ++ rest).take width = hex width n := List.take_left' (length_hex width n)
  simp only [hexNumber?, htake, length_hex, if_true]
  rw [foldl_hex h, Nat.mul_zero, Nat.zero_add]

/-! ### Escapes -/

/-- A code that can be quoted: that of a character or of half of a surrogate pair, if it is not
printable without a character. -/
structure IsCode (n : Nat) : Prop where
  lt : n < codeLimit
  toNat_ofNat : isPrintableCode n = true → (Char.ofNat n).toNat = n

/-- The marks that enclose literals. -/
def marks : List Char := ['\'', '"']

/-- A character that can stand in a literal as it is, given the mark that encloses it. -/
structure IsShown (q c : Char) : Prop where
  ne_backslash : c ≠ '\\'
  ne_mark : c ≠ q
  le_toNat : 32 ≤ c.toNat

/-- An escape behind its backslash, which denotes a code. -/
structure IsEscape (q : Char) (n : Nat) (c : Char) (cs : List Char) : Prop where
  le_toNat : 32 ≤ c.toNat
  isShown : ∀ d ∈ cs, IsShown q d
  escape?_append : ∀ rest, escape? false (c :: cs ++ rest) = some ([n], cs.length + 1)

variable {q : Char} {n : Nat} {codes : List Nat}

/-- The code of a character can be quoted. -/
theorem isCode_toNat (c : Char) :
  IsCode c.toNat
  := by
  constructor
  · exact toNat_lt c
  · intro _
    rw [Char.ofNat_toNat]

/-- What is quoted without a null character is made of codes. -/
theorem isCode_of_notMem (hn : n < codeLimit) (h : '\x00' ∉ escape q n) :
  IsCode n
  := by
  refine ⟨hn, fun hprintable => ?_⟩
  have hchar : Char.ofNat n ≠ '\x00' := by
    intro hnull
    apply h
    rw [escape]
    split
    · rw [hnull]
      decide
    · rw [hnull]
      decide
  by_cases hvalid : n.isValidChar
  · rw [Char.ofNat, dif_pos hvalid]
    rfl
  · rw [Char.ofNat, dif_neg hvalid] at hchar
    exact absurd rfl hchar

/-- What holds of both marks, one by one, holds of each. -/
theorem forall_mem_marks {P : Char → Prop} (hsingle : P '\'') (hdouble : P '"') :
  ∀ q ∈ marks, P q
  := List.forall_mem_cons.mpr ⟨hsingle, List.forall_mem_singleton.mpr hdouble⟩

theorem mark_mem_marks (codes : List Nat) :
  mark codes ∈ marks
  := by
  rw [mark]
  split
  · decide
  · decide

theorem isShown_of_mem_hex {width : Nat} (hq : q ∈ marks) :
  ∀ c ∈ hex width n, IsShown q c
  := by
  intro c hc
  obtain ⟨m, hm, rfl⟩ := exists_of_mem_hex hc
  have hall : ∀ m < 16, hexChar m ≠ '\\' ∧ 32 ≤ (hexChar m).toNat := by decide
  have hmark : ∀ q ∈ marks, ∀ m < 16, hexChar m ≠ q := forall_mem_marks (by decide) (by decide)
  exact ⟨(hall m hm).1, hmark q hq m hm, (hall m hm).2⟩

/-- A code is written by its number behind one of three letters. -/
theorem isEscape_byCode (hq : q ∈ marks) (hn : n < codeLimit) :
  ∃ c cs, byCode n = '\\' :: c :: cs ∧ IsEscape q n c cs
  := by
  rw [byCode]
  split
  case isTrue h =>
    refine ⟨'x', hex 2 n, rfl, by decide, isShown_of_mem_hex hq, fun rest => ?_⟩
    have hread (cs : List Char) :
        escape? false ('x' :: cs) = (hexNumber? 2 cs).map fun v => ([v], 3) := rfl
    rw [List.cons_append, hread, hexNumber?_hex h, length_hex]
    rfl
  case isFalse =>
    split
    case isTrue h =>
      refine ⟨'u', hex 4 n, rfl, by decide, isShown_of_mem_hex hq, fun rest => ?_⟩
      have hread (cs : List Char) :
          escape? false ('u' :: cs) = (hexNumber? 4 cs).map fun v => ([v], 5) := rfl
      rw [List.cons_append, hread, hexNumber?_hex h, length_hex]
      rfl
    case isFalse =>
      refine ⟨'U', hex 8 n, rfl, by decide, isShown_of_mem_hex hq, fun rest => ?_⟩
      have hread (cs : List Char) :
          escape? false ('U' :: cs)
            = (hexNumber? 8 cs).bind fun v => if v ≤ 0x10FFFF then some ([v], 9) else none := rfl
      have hlt : n < twoTo (4 * 8) := Nat.lt_trans hn (by decide)
      rw [List.cons_append, hread, hexNumber?_hex hlt, length_hex, Option.bind_some,
        if_pos (Nat.le_of_lt_succ hn)]

/-- A letter that denotes a code behind a backslash escapes it. -/
theorem isEscape_simple {c : Char} (hc : simple? c = some n) (hle : 32 ≤ c.toNat) :
  IsEscape q n c []
  := by
  refine ⟨hle, by simp only [List.not_mem_nil, false_implies, implies_true], fun rest => ?_⟩
  rw [List.cons_append, List.nil_append, escape?.eq_def]
  split
  case h_1 h => cases h
  case h_2 h =>
    cases h
    exact absurd hle (by decide)
  case h_3 h =>
    cases h
    simp only [hc, List.length_nil]

/-- What a backslash stands in front of denotes itself. -/
theorem simple?_of_hidden (hq : q ∈ marks) (h : n = '\\'.toNat ∨ n = q.toNat) :
  simple? (Char.ofNat n) = some n ∧ 32 ≤ (Char.ofNat n).toNat
  := by
  have hall : ∀ q ∈ marks, simple? (Char.ofNat q.toNat) = some q.toNat
      ∧ 32 ≤ (Char.ofNat q.toNat).toNat := forall_mem_marks (by decide) (by decide)
  obtain rfl | rfl := h
  · decide
  · exact hall q hq

theorem le_of_isPrintableCode (h : isPrintableCode n = true) :
  32 ≤ n
  := by
  rw [isPrintableCode] at h
  split at h
  · simp only [Bool.and_eq_true, decide_eq_true_eq] at h
    exact h.1
  · omega

/-- A code is shown as its character or escaped. -/
theorem escape_cases (hq : q ∈ marks) (hn : IsCode n) :
  (∃ c, escape q n = [c] ∧ c.toNat = n ∧ IsShown q c)
    ∨ ∃ c cs, escape q n = '\\' :: c :: cs ∧ IsEscape q n c cs
  := by
  rw [escape]
  split
  case isTrue h =>
    rw [Bool.or_eq_true, decide_eq_true_eq, decide_eq_true_eq] at h
    obtain ⟨hsimple, hle⟩ := simple?_of_hidden hq h
    exact .inr ⟨_, [], rfl, isEscape_simple hsimple hle⟩
  case isFalse h =>
    rw [Bool.or_eq_true, decide_eq_true_eq, decide_eq_true_eq, not_or] at h
    split
    case isTrue hprintable =>
      have htoNat := hn.toNat_ofNat hprintable
      refine .inl ⟨_, rfl, htoNat, ?_, ?_, ?_⟩
      · intro hc
        rw [hc] at htoNat
        exact h.1 htoNat.symm
      · intro hc
        rw [hc] at htoNat
        exact h.2 htoNat.symm
      · rw [htoNat]
        exact le_of_isPrintableCode hprintable
    case isFalse =>
      right
      rw [Text.Quoted.hidden]
      split
      case isTrue h =>
        subst h
        exact ⟨'n', [], rfl, isEscape_simple rfl (by decide)⟩
      case isFalse =>
        split
        case isTrue h =>
          subst h
          exact ⟨'r', [], rfl, isEscape_simple rfl (by decide)⟩
        case isFalse =>
          split
          case isTrue h =>
            subst h
            exact ⟨'t', [], rfl, isEscape_simple rfl (by decide)⟩
          case isFalse => exact isEscape_byCode hq hn.lt

/-! ### The inside of a literal -/

/-- Nothing in a literal ends a line. -/
theorem le_toNat_of_mem_escape (hq : q ∈ marks) (hn : IsCode n) {c : Char} (hc : c ∈ escape q n) :
  32 ≤ c.toNat
  := by
  obtain ⟨d, hescape, -, hshown⟩ | ⟨d, ds, hescape, h⟩ := escape_cases hq hn
  · rw [hescape, List.mem_singleton] at hc
    rw [hc]
    exact hshown.le_toNat
  · rw [hescape, List.mem_cons, List.mem_cons] at hc
    obtain rfl | rfl | hc := hc
    · decide
    · exact h.le_toNat
    · exact (h.isShown c hc).le_toNat

theorem unescape_cons_of_ne {c : Char} (h : c ≠ '\\') (octets : Bool) (fuel : Nat) (cs : List Char) :
  unescape octets (fuel + 1) (c :: cs) = (unescape octets fuel cs).map (c.toNat :: ·)
  := by
  rw [unescape]
  rintro rfl
  exact h rfl

/-- An escaped code is read back. -/
theorem unescape_escape (hq : q ∈ marks) (hn : IsCode n) (fuel : Nat) (rest : List Char) :
  unescape false (fuel + 1) (escape q n ++ rest) = (unescape false fuel rest).map (n :: ·)
  := by
  obtain ⟨c, hescape, hc, hshown⟩ | ⟨c, cs, hescape, h⟩ := escape_cases hq hn
  · rw [hescape, List.singleton_append, unescape_cons_of_ne hshown.ne_backslash, hc]
  · have hdrop : (c :: cs ++ rest).drop (cs.length + 1) = rest := List.drop_left' rfl
    rw [hescape, List.cons_append, unescape, h.escape?_append, Option.bind_eq_bind, Option.bind_some]
    simp only [hdrop, List.singleton_append]

theorem one_le_length_escape (hq : q ∈ marks) (hn : IsCode n) :
  1 ≤ (escape q n).length
  := by
  obtain ⟨c, hescape, -⟩ | ⟨c, cs, hescape, -⟩ := escape_cases hq hn
  · rw [hescape]
    exact Nat.le_refl 1
  · rw [hescape]
    exact Nat.le_add_left 1 _

/-- The codes of a literal are read back. -/
theorem unescape_flatMap_escape (hq : q ∈ marks) (hcodes : ∀ n ∈ codes, IsCode n) {fuel : Nat}
    (hfuel : (codes.flatMap (escape q)).length < fuel) :
  unescape false fuel (codes.flatMap (escape q)) = some codes
  := by
  induction codes generalizing fuel with
  | nil =>
      cases fuel with
      | zero => rfl
      | succ fuel => rfl
  | cons n codes ih =>
      rw [List.forall_mem_cons] at hcodes
      have hlength := one_le_length_escape hq hcodes.1
      rw [List.flatMap_cons, List.length_append] at hfuel
      obtain ⟨fuel, rfl⟩ : ∃ k, fuel = k + 1 := ⟨fuel - 1, by omega⟩
      rw [List.flatMap_cons, unescape_escape hq hcodes.1, ih hcodes.2 (by omega), Option.map_some]

/-- The inside of a literal denotes the codes. -/
theorem text?_flatMap_escape (hq : q ∈ marks) (hcodes : ∀ n ∈ codes, IsCode n) :
  text? false (codes.flatMap (escape q)) = some codes
  := by
  rw [text?, if_neg Bool.false_ne_true]
  exact unescape_flatMap_escape hq hcodes (Nat.lt_succ_self _)

end SnippetProfiler.Indented.Literal

namespace SnippetProfiler.Indented.Token

open Literal (IsCode IsShown IsEscape escape_cases marks mark_mem_marks forall_mem_marks)
open Text.Quoted (encodeCodes escape mark)

variable {q : Char} {codes : List Nat}

/-! ### Where a literal ends -/

theorem shortBody_shown {c : Char} (h : IsShown q c) (cs : List Char) :
  shortBody q (c :: cs) = (shortBody q cs).map fun (b, r) => (c :: b, r)
  := by
  rw [shortBody]
  · rw [if_neg h.ne_mark]
  · rintro rfl
    exact absurd h.le_toNat (by decide)
  · rintro _ _ rfl
    cases h.ne_backslash rfl

theorem shortBody_allShown {cs : List Char} (h : ∀ c ∈ cs, IsShown q c) (rest : List Char) :
  shortBody q (cs ++ rest) = (shortBody q rest).map fun (b, r) => (cs ++ b, r)
  := by
  induction cs with
  | nil =>
      rw [List.nil_append]
      cases shortBody q rest with
      | none => rfl
      | some p => rfl
  | cons c cs ih =>
      rw [List.forall_mem_cons] at h
      rw [List.cons_append, shortBody_shown h.1, ih h.2, Option.map_map]
      rfl

/-- No code ends the literal. -/
theorem shortBody_escape {n : Nat} (hq : q ∈ marks) (hn : IsCode n) (rest : List Char) :
  shortBody q (escape q n ++ rest) = (shortBody q rest).map fun (b, r) => (escape q n ++ b, r)
  := by
  obtain ⟨c, hescape, -, hshown⟩ | ⟨c, cs, hescape, h⟩ := escape_cases hq hn
  · rw [hescape, List.singleton_append, shortBody_shown hshown]
    rfl
  · rw [hescape, List.cons_append, List.cons_append, shortBody, shortBody_allShown h.isShown,
      Option.map_map]
    rfl

/-- A literal ends with the last character that was written. -/
theorem shortBody_flatMap_escape (hq : q ∈ marks) (hcodes : ∀ n ∈ codes, IsCode n)
    (rest : List Char) :
  shortBody q (codes.flatMap (escape q) ++ q :: rest) = some (codes.flatMap (escape q), rest)
  := by
  induction codes with
  | nil =>
      have hall : ∀ q ∈ marks, q ≠ '\n' ∧ q ≠ '\\' := forall_mem_marks (by decide) (by decide)
      rw [List.flatMap_nil, List.nil_append, shortBody, if_pos rfl]
      · exact (hall q hq).1
      · rintro _ _ h
        exact absurd h (hall q hq).2
  | cons n codes ih =>
      rw [List.forall_mem_cons] at hcodes
      rw [List.flatMap_cons, List.append_assoc, shortBody_escape hq hcodes.1, ih hcodes.2]
      rfl

/-- The first character of an escape is not the mark. -/
theorem not_isPrefixOf_escape {n : Nat} (hq : q ∈ marks) (hn : IsCode n) (rest : List Char) :
  [q, q].isPrefixOf (escape q n ++ rest) = false
  := by
  have hall : ∀ q ∈ marks, q ≠ '\\' := forall_mem_marks (by decide) (by decide)
  have hne : ∃ c cs, escape q n = c :: cs ∧ q ≠ c := by
    obtain ⟨c, hescape, -, hshown⟩ | ⟨c, cs, hescape, -⟩ := escape_cases hq hn
    · exact ⟨c, [], hescape, hshown.ne_mark.symm⟩
    · exact ⟨_, _, hescape, hall q hq⟩
  obtain ⟨c, cs, hescape, hne⟩ := hne
  rw [hescape, List.cons_append, List.isPrefixOf_cons_cons, beq_false_of_ne hne, Bool.false_and]

/-- The body of a literal that no mark follows. -/
theorem textBody_flatMap_escape (hq : q ∈ marks) (hcodes : ∀ n ∈ codes, IsCode n) {rest : List Char}
    (hrest : rest.head? ≠ some q) :
  textBody (q :: codes.flatMap (escape q) ++ q :: rest) = some (codes.flatMap (escape q), rest)
  := by
  have hprefix : [q, q].isPrefixOf (codes.flatMap (escape q) ++ q :: rest) = false := by
    cases codes with
    | nil =>
        cases rest with
        | nil =>
            rw [List.flatMap_nil, List.nil_append, List.isPrefixOf_cons_cons, List.isPrefixOf_cons_nil,
              Bool.and_false]
        | cons c rest =>
            have hne : q ≠ c := by
              rintro rfl
              exact hrest rfl
            rw [List.flatMap_nil, List.nil_append, List.isPrefixOf_cons_cons, List.isPrefixOf_cons_cons,
              beq_false_of_ne hne, Bool.false_and, Bool.and_false]
    | cons n codes =>
        rw [List.flatMap_cons, List.append_assoc]
        exact not_isPrefixOf_escape hq (hcodes n List.mem_cons_self) _
  rw [List.cons_append, textBody, hprefix, if_neg Bool.false_ne_true]
  exact shortBody_flatMap_escape hq hcodes rest

/-- A literal is one token. -/
theorem textToken_encodeCodes (hcodes : ∀ n ∈ codes, IsCode n) {rest : List Char}
    (hrest : rest.head? ≠ some (mark codes)) :
  textToken (encodeCodes codes ++ rest)
    = some (some (.text false false false false (codes.flatMap (escape (mark codes))), rest))
  := by
  have hmark := mark_mem_marks codes
  have hbody := textBody_flatMap_escape hmark hcodes hrest
  have hall : ∀ q ∈ marks, q.isAlpha = false ∧ isQuote q = true :=
    forall_mem_marks (by decide) (by decide)
  obtain ⟨hletter, hquote⟩ := hall _ hmark
  have hletters (cs : List Char) : ((mark codes :: cs).take 3).takeWhile Char.isAlpha = [] := by
    rw [List.take_succ_cons, List.takeWhile_cons, hletter, if_neg Bool.false_ne_true]
  have hflags : textFlags [] = some (false, false, false, false) := by decide
  rw [List.cons_append] at hbody
  rw [encodeCodes, List.append_assoc, List.singleton_append, List.cons_append]
  simp only [textToken, hletters, List.length_nil, List.drop_zero, hquote, if_true, hflags, hbody,
    Option.map_some]

/-- Nothing in a literal ends a line. -/
theorem le_toNat_of_mem_encodeCodes (hcodes : ∀ n ∈ codes, IsCode n) {c : Char}
    (hc : c ∈ encodeCodes codes) :
  32 ≤ c.toNat
  := by
  have hmark := mark_mem_marks codes
  have hall : ∀ q ∈ marks, 32 ≤ q.toNat := forall_mem_marks (by decide) (by decide)
  rw [encodeCodes, List.mem_append, List.mem_cons, List.mem_singleton, List.mem_flatMap] at hc
  obtain (rfl | ⟨n, hn, hc⟩) | rfl := hc
  · exact hall _ hmark
  · exact Literal.le_toNat_of_mem_escape hmark (hcodes n hn) hc
  · exact hall _ hmark

end SnippetProfiler.Indented.Token
