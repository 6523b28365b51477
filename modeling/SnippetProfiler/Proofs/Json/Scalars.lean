import Mathlib.Tactic.Common
import SnippetProfiler.Json.Reader
import SnippetProfiler.Json.Writer

/-!
# Texts and integers

What `quote` writes for a text `readString` reads as that text.  Each character is written as it
is, as an escape of two characters, as an escape of one UTF-16 unit, or, outside the basic plane,
as two such escapes; and the reader takes in one step what is written for one character.

The digits of an integer `readNumber` reads as that integer, when what stands behind them
continues neither the digits nor the number.
-/

namespace SnippetProfiler.Json

/-- Behind the first part of a text stands the rest of it. -/
theorem Cursor.skip_append {s rest : List Char} {p n : Nat} (h : s.length = n) :
  Cursor.skip ⟨s ++ rest, p⟩ n = ⟨rest, p + n⟩
  := by rw [Cursor.skip, List.drop_left' h]

/-! ### Units -/

theorem hexValue?_hexChar :
  ∀ n < 16, hexValue? (Text.hexChar n) = some n
  := by decide

/-- The four digits of a unit denote it. -/
theorem fourHex?_hex {n : Nat} (hn : n < 0x10000) (rest : List Char) :
  fourHex? (Text.hex 4 n ++ rest) = some n
  := by
  have hdigit (m : Nat) : hexValue? (Text.hexChar (m % 16)) = some (m % 16) := by
    apply hexValue?_hexChar
    apply Nat.mod_lt _ (by decide)
  simp only [Text.hex, List.nil_append, List.cons_append, fourHex?, hdigit, Option.some.injEq]
  omega

theorem length_hex_four (n : Nat) :
  (Text.hex 4 n).length = 4
  := by rfl

variable {opening fuel p : Nat} {rest made : List Char}

/-- The escape of a unit that is no surrogate is read as its character. -/
theorem readString_unit {n : Nat} (hn : n < 0x10000) (hplain : ¬(0xD800 ≤ n ∧ n ≤ 0xDFFF))
    (hrest : rest ≠ []) :
  readString opening (fuel + 1) ('\\' :: 'u' :: (Text.hex 4 n ++ rest)) p made =
    readString opening fuel rest (p + 6) (Char.ofNat n :: made)
  := by
  have hlength : ¬ (Text.hex 4 n ++ rest).length ≤ 4 := by
    rw [List.length_append, length_hex_four]
    have := List.length_pos_iff.mpr hrest
    omega
  have hdrop : (Text.hex 4 n ++ rest).drop 4 = rest := List.drop_left' (length_hex_four n)
  have hunit : (decide (0xD800 ≤ n) && decide (n ≤ 0xDFFF)) = false := by
    rw [← Bool.decide_and, decide_eq_false_iff_not]
    apply hplain
  have hhigh : (decide (0xD800 ≤ n) && decide (n ≤ 0xDBFF)) = false := by
    rw [← Bool.decide_and, decide_eq_false_iff_not]
    omega
  rw [readString, if_neg hlength]
  simp only [fourHex?_hex hn, hdrop, hunit, hhigh, Bool.false_and, Bool.false_eq_true, if_false]
  split <;> rfl

/-- The escapes of two surrogates that belong together are read as one character. -/
theorem readString_pair {high low : Nat} (hhigh : 0xD800 ≤ high ∧ high ≤ 0xDBFF)
    (hlow : 0xDC00 ≤ low ∧ low ≤ 0xDFFF) (hrest : rest ≠ []) :
  readString opening (fuel + 1)
      ('\\' :: 'u' :: (Text.hex 4 high ++ '\\' :: 'u' :: (Text.hex 4 low ++ rest))) p made =
    readString opening fuel rest (p + 12)
      (Char.ofNat (0x10000 + (high - 0xD800) * 0x400 + (low - 0xDC00)) :: made)
  := by
  have hbehind : 4 < (Text.hex 4 low ++ rest).length := by
    rw [List.length_append, length_hex_four]
    have := List.length_pos_iff.mpr hrest
    omega
  have hlength (s : List Char) : ¬ (Text.hex 4 high ++ '\\' :: s).length ≤ 4 := by
    rw [List.length_append, length_hex_four, List.length_cons]
    omega
  have hdrop (n : Nat) (s : List Char) : (Text.hex 4 n ++ s).drop 4 = s :=
    List.drop_left' (length_hex_four n)
  rw [readString, if_neg (hlength _)]
  simp only [fourHex?_hex (Nat.lt_of_le_of_lt hhigh.2 (by decide)),
    fourHex?_hex (Nat.lt_of_le_of_lt hlow.2 (by decide)), hdrop, hhigh, hlow, hbehind, decide_true,
    Bool.and_self, if_true]

/-! ### Characters -/

theorem units_eq_singleton {c : Char} (h : c.toNat < 0x10000) :
  units c = [c.toNat]
  := if_pos h

/-- The units of a character outside the basic plane are two surrogates that make it up. -/
theorem exists_units_eq_pair {c : Char} (h : ¬ c.toNat < 0x10000) :
  ∃ high low, units c = [high, low] ∧ (0xD800 ≤ high ∧ high ≤ 0xDBFF) ∧
    (0xDC00 ≤ low ∧ low ≤ 0xDFFF) ∧ 0x10000 + (high - 0xD800) * 0x400 + (low - 0xDC00) = c.toNat
  := by
  have hvalid : c.toNat < 0xD800 ∨ 0xDFFF < c.toNat ∧ c.toNat < 0x110000 := c.valid
  use 0xD800 + (c.toNat - 0x10000) / 0x400, 0xDC00 + (c.toNat - 0x10000) % 0x400
  constructor
  · apply if_neg h
  · omega

/-- The code of a character is no surrogate. -/
theorem not_isSurrogate (c : Char) :
  ¬(0xD800 ≤ c.toNat ∧ c.toNat ≤ 0xDFFF)
  := by
  have hvalid : c.toNat < 0xD800 ∨ 0xDFFF < c.toNat ∧ c.toNat < 0x110000 := c.valid
  omega

/-- What is written for a character is read as that character. -/
theorem readString_escapeChar (c : Char) (hrest : rest ≠ []) :
  readString opening (fuel + 1) (escapeChar c ++ rest) p made =
    readString opening fuel rest (p + (escapeChar c).length) (c :: made)
  := by
  fun_cases escapeChar c
  case case1 | case2 | case3 | case4 | case5 | case6 | case7 =>
    subst_vars
    rfl
  case case8 hquote hslash _ _ _ _ _ hascii =>
    rw [Bool.and_eq_true, decide_eq_true_eq, decide_eq_true_eq] at hascii
    rw [List.cons_append, List.nil_append, readString, if_neg (Nat.not_lt.mpr hascii.1)]
    · rfl
    · apply hquote
    · intro h
      cases hslash h
    · intro _ h
      cases hslash h
    · intro _ _ h
      cases hslash h
  case case9 =>
    by_cases hplane : c.toNat < 0x10000
    · rw [units_eq_singleton hplane, List.flatMap_singleton, List.cons_append, List.cons_append,
        readString_unit hplane (not_isSurrogate c) hrest, Char.ofNat_toNat]
      rfl
    · obtain ⟨high, low, hunits, hhigh, hlow, hsum⟩ := exists_units_eq_pair hplane
      rw [hunits, List.flatMap_cons, List.flatMap_singleton, List.append_assoc]
      simp only [List.cons_append]
      rw [readString_pair hhigh hlow hrest, hsum, Char.ofNat_toNat]
      rfl

theorem escapeChar_ne_nil (c : Char) :
  escapeChar c ≠ []
  := by
  fun_cases escapeChar c
  case case9 =>
    by_cases hplane : c.toNat < 0x10000
    · rw [units_eq_singleton hplane]
      apply List.cons_ne_nil
    · obtain ⟨high, low, hunits, _⟩ := exists_units_eq_pair hplane
      rw [hunits]
      apply List.cons_ne_nil
  all_goals apply List.cons_ne_nil

theorem newline_notMem_hex (width n : Nat) :
  '\n' ∉ Text.hex width n
  := by
  induction width generalizing n with
  | zero => apply List.not_mem_nil
  | succ width ih =>
      rw [Text.hex, List.mem_append, List.mem_singleton, not_or]
      use ih _
      apply Ne.symm (Nat.digitChar_ne '\n' (by decide))

/-- A newline is written by its escape. -/
theorem newline_notMem_escapeChar (c : Char) :
  '\n' ∉ escapeChar c
  := by
  fun_cases escapeChar c
  case case8 _ _ hnewline _ _ _ _ _ =>
    rw [List.mem_singleton]
    apply Ne.symm hnewline
  case case9 =>
    rw [List.mem_flatMap]
    rintro ⟨n, _, hn⟩
    rcases List.mem_cons.mp hn with h | h
    · cases h
    · rcases List.mem_cons.mp h with h | h
      · cases h
      · apply newline_notMem_hex 4 n h
  all_goals decide

/-! ### Texts -/

/-- What is written for the characters of a text is read up to the closing mark. -/
theorem readString_escaped (s : List Char) (hfuel : s.length < fuel) :
  readString opening fuel (s.flatMap escapeChar ++ '"' :: rest) p made =
    .ok (.ofList (made.reverse ++ s), ⟨rest, p + (s.flatMap escapeChar).length + 1⟩)
  := by
  induction s generalizing fuel p made with
  | nil =>
      obtain ⟨fuel, rfl⟩ := Nat.exists_eq_succ_of_ne_zero (Nat.ne_of_gt hfuel)
      rw [List.append_nil]
      rfl
  | cons c s ih =>
      obtain ⟨fuel, rfl⟩ := Nat.exists_eq_succ_of_ne_zero (Nat.ne_of_gt (Nat.zero_lt_of_lt hfuel))
      rw [List.flatMap_cons, List.append_assoc, readString_escapeChar, ih, List.reverse_cons,
        List.append_assoc, List.length_append, Nat.add_assoc p]
      · rfl
      · apply Nat.lt_of_succ_lt_succ hfuel
      · simp

theorem length_le_escaped (s : List Char) :
  s.length ≤ (s.flatMap escapeChar).length
  := by
  induction s with
  | nil => apply Nat.le_refl
  | cons c s ih =>
      have := List.length_pos_iff.mpr (escapeChar_ne_nil c)
      rw [List.flatMap_cons, List.length_append, List.length_cons]
      omega

/-- What is written for a text is an opening mark, behind which that text is read. -/
theorem exists_quote_append_eq (s : String) (rest : List Char) :
  ∃ cs, quote s ++ rest = '"' :: cs ∧ ∀ p,
    readString p (cs.length + 1) cs (p + 1) [] = .ok (s, ⟨rest, p + (quote s).length⟩)
  := by
  use s.toList.flatMap escapeChar ++ '"' :: rest
  constructor
  · simp only [quote, List.cons_append, List.append_assoc, List.nil_append]
  · intro p
    rw [readString_escaped, List.reverse_nil, List.nil_append, String.ofList_toList]
    · simp only [quote, List.cons_append, List.length_cons, List.length_append, List.length_nil]
      congr 3
      omega
    · have := length_le_escaped s.toList
      rw [List.length_append]
      omega

theorem newline_notMem_quote (s : String) :
  '\n' ∉ quote s
  := by
  simp only [quote, List.cons_append, List.mem_cons, List.mem_append, List.mem_flatMap,
    List.not_mem_nil, or_false]
  rintro (h | ⟨c, _, hc⟩ | h)
  · cases h
  · apply newline_notMem_escapeChar c hc
  · cases h

/-! ### Integers -/

/-- What may stand behind a value: nothing, a comma, or the end of a list or an object. -/
def EndsValue (rest : List Char) : Prop :=
  ∀ c cs, rest = c :: cs → c = ',' ∨ c = ']' ∨ c = '}'

/-- A number has digits, and the first one is zero only if the number is zero. -/
theorem exists_digits_eq_cons (n : Nat) :
  ∃ d ds, Decimal.digits n = d :: ds ∧ d.isDigit = true ∧ (d = '0' → n = 0)
  := by
  induction n using Nat.strongRecOn with
  | ind n ih =>
      by_cases hn : n < 10
      · use n.digitChar, [], Nat.toDigits_of_lt_base hn
        constructor
        · rw [Nat.isDigit_digitChar, decide_eq_true hn]
        · apply Nat.digitChar_eq_zero.mp
      · obtain ⟨d, ds, hds, hd, hzero⟩ := ih (n / 10) (by omega)
        use d, ds ++ [(n % 10).digitChar]
        constructor
        · rw [← List.cons_append, ← hds]
          apply Nat.toDigits_of_base_le (by decide) (Nat.not_lt.mp hn)
        · use hd
          intro h
          have := hzero h
          omega

theorem isDigit_of_mem_digits {n : Nat} {c : Char} (h : c ∈ Decimal.digits n) :
  c.isDigit = true
  := by
  apply Nat.isDigit_of_mem_toDigits (by decide) (Nat.le_refl 10) h

theorem ne_of_isDigit {c d : Char} (hd : d.isDigit = true) (hc : c.isDigit = false) :
  d ≠ c
  := by
  rintro rfl
  rw [hd] at hc
  cases hc

theorem notMem_of_isDigit {d : Char} {cs : List Char} (hd : d.isDigit = true)
    (hcs : cs.any Char.isDigit = false) :
  d ∉ cs
  := by
  intro hmem
  apply List.any_eq_false.mp hcs d hmem hd

theorem ofDigits_digits (n : Nat) :
  Decimal.ofDigits (Decimal.digits n) = n
  := by
  calc
    Decimal.ofDigits (Decimal.digits n) = Nat.ofDigitChars 10 (Nat.toDigits 10 n) 0 := by
      rw [Nat.ofDigitChars_eq_foldl]
      rfl
    _ = n := Nat.ofDigitChars_ten_toDigits

/-- The integer part of a number is all of its digits. -/
theorem wholePart_digits_append (n : Nat) (hrest : EndsValue rest) :
  wholePart (Decimal.digits n ++ rest) = Decimal.digits n
  := by
  obtain ⟨d, ds, hds, _, hzero⟩ := exists_digits_eq_cons n
  rw [wholePart.eq_def]
  split
  case h_1 cs heq =>
    rw [hds, List.cons_append, List.cons.injEq] at heq
    rw [hzero heq.1]
    rfl
  case h_2 =>
    rw [List.takeWhile_append_of_pos fun c => isDigit_of_mem_digits]
    cases rest with
    | nil => apply List.append_nil
    | cons c cs =>
        rw [List.takeWhile_cons_of_neg, List.append_nil]
        rcases hrest c cs rfl with rfl | rfl | rfl <;> decide

theorem fractionPart_of_endsValue (hrest : EndsValue rest) :
  fractionPart rest = []
  := by
  fun_cases fractionPart rest
  case case1 cs =>
    rcases hrest _ _ rfl with h | h | h <;> cases h
  case case2 => rfl

theorem exponentPart_of_endsValue (hrest : EndsValue rest) :
  (exponentPart rest).digits = []
  := by
  cases rest with
  | nil => rfl
  | cons c cs => rcases hrest c cs rfl with rfl | rfl | rfl <;> rfl

theorem takeMinus_digits_append (n : Nat) (rest : List Char) :
  takeMinus (Decimal.digits n ++ rest) = (false, Decimal.digits n ++ rest)
  := by
  obtain ⟨d, ds, hds, hd, _⟩ := exists_digits_eq_cons n
  rw [takeMinus.eq_def]
  split
  case h_1 cs heq =>
    rw [hds, List.cons_append, List.cons.injEq] at heq
    cases ne_of_isDigit hd rfl heq.1
  case h_2 => rfl

/-- Digits are read as the number that they denote, with the sign that stands in front of them. -/
theorem readNumber_digits {c : Cursor} {negative : Bool} {n : Nat}
    (hc : takeMinus c.rest = (negative, Decimal.digits n ++ rest))
    (hn : (Decimal.digits n).length ≤ digitLimit) (hrest : EndsValue rest) :
  readNumber c = .ok (.int (if negative then -n else n),
    c.skip ((if negative then 1 else 0) + (Decimal.digits n).length))
  := by
  have hdigits : (Decimal.digits n).isEmpty = false := by
    obtain ⟨d, ds, hds, _⟩ := exists_digits_eq_cons n
    rw [hds]
    rfl
  simp only [readNumber, hc, wholePart_digits_append n hrest, hdigits, List.drop_left,
    fractionPart_of_endsValue hrest, List.isEmpty_nil, exponentPart_of_endsValue hrest,
    if_neg (Nat.not_lt.mpr hn), ofDigits_digits, Bool.false_eq_true, if_false, if_true,
    Bool.and_self, Nat.add_zero]

theorem toList_integer_of_neg {n : Int} (h : n < 0) :
  (Decimal.integer n).toList = '-' :: Decimal.digits n.natAbs
  := by rw [Decimal.integer, if_pos h, String.toList_ofList]

theorem toList_integer_of_not_neg {n : Int} (h : ¬ n < 0) :
  (Decimal.integer n).toList = Decimal.digits n.natAbs
  := by rw [Decimal.integer, if_neg h, String.toList_ofList]

/-- An integer is written with a digit in front, or with a minus sign and a digit. -/
theorem exists_integer_eq_cons (n : Int) :
  ∃ d cs, d.isDigit = true ∧
    ((Decimal.integer n).toList = d :: cs ∨ (Decimal.integer n).toList = '-' :: d :: cs)
  := by
  obtain ⟨d, ds, hds, hd, _⟩ := exists_digits_eq_cons n.natAbs
  use d, ds, hd
  by_cases hneg : n < 0
  · right
    rw [toList_integer_of_neg hneg, hds]
  · left
    rw [toList_integer_of_not_neg hneg, hds]

theorem newline_notMem_integer (n : Int) :
  '\n' ∉ (Decimal.integer n).toList
  := by
  have hdigits : '\n' ∉ Decimal.digits n.natAbs := by
    intro h
    cases isDigit_of_mem_digits h
  by_cases hneg : n < 0
  · rw [toList_integer_of_neg hneg, List.mem_cons, not_or]
    exact ⟨by decide, hdigits⟩
  · rw [toList_integer_of_not_neg hneg]
    apply hdigits

/-- What is written for an integer is read as that integer. -/
theorem readNumber_integer {n : Int} (hn : (Decimal.digits n.natAbs).length ≤ digitLimit)
    (hrest : EndsValue rest) :
  readNumber ⟨(Decimal.integer n).toList ++ rest, p⟩ =
    .ok (.int n, ⟨rest, p + (Decimal.integer n).toList.length⟩)
  := by
  by_cases hneg : n < 0
  · have hvalue : -(n.natAbs : Int) = n := by omega
    have hlength : (Decimal.integer n).toList.length = 1 + (Decimal.digits n.natAbs).length := by
      rw [toList_integer_of_neg hneg, List.length_cons, Nat.add_comm]
    rw [readNumber_digits _ hn hrest, if_pos rfl, if_pos rfl, hvalue, Cursor.skip_append hlength,
      hlength]
    rw [toList_integer_of_neg hneg]
    rfl
  · have hvalue : (n.natAbs : Int) = n := by omega
    rw [toList_integer_of_not_neg hneg, readNumber_digits (takeMinus_digits_append _ _) hn hrest,
      hvalue]
    simp only [Bool.false_eq_true, if_false, Nat.zero_add]
    rw [Cursor.skip_append rfl]

end SnippetProfiler.Json
