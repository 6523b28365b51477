import Mathlib
import SnippetProfiler.Decimal.Sum
import SnippetProfiler.Proofs.Quantity.Rounding

/-!
# Nearest floats

The parts of a float are what its bits are unpacked to.  The float nearest to a quotient is finite and
has the sign that is asked for, if it is not too large; it is not zero when the quotient is a whole
number that is not.  So sums of finite floats are finite, and squares are not negative.
-/

namespace SnippetProfiler.Decimal

open Float.Model (UnpackedFloat Format)
open Float.Model.UnpackedFloat (Sign)
open Quantity (IsCanonical unpack_packComponents unpack_pack_finite)

/-! ### Parts -/

/-- The sign of a float. -/
def signOf (negative : Bool) : Sign := if negative then .negative else .positive

/-- The float that parts stand for. -/
def Parts.toUnpacked : Parts → UnpackedFloat
  | .undefined => .notANumber
  | .infinite negative => .infinity (signOf negative)
  | .finite negative m q =>
    if h : m = 0 then .zero (signOf negative) else .finite (signOf negative) m q (Nat.pos_of_ne_zero h)

/-- The parts that bits stand for. -/
def partsOf (bits : ℕ) : Parts :=
  let negative := bits / twoTo 63 == 1
  let e := bits / twoTo 52 % twoTo 11
  let f := bits % twoTo 52
  if e = 2047 then if f = 0 then .infinite negative else .undefined
  else if e = 0 then .finite negative f (-1074)
  else .finite negative (twoTo 52 + f) ((e : ℤ) - 1075)

theorem toNat_packComponents (s : Sign) (exponent : BitVec 11) (mantissa : BitVec 52) :
  (UnpackedFloat.packComponents Format.binary64 s exponent mantissa).toNat
    = (s.toBitVec.toNat * 2 ^ 11 + exponent.toNat) * 2 ^ 52 + mantissa.toNat
  := by
  rw [UnpackedFloat.packComponents, BitVec.toNat_append, ← Nat.shiftLeft_add_eq_or_of_lt mantissa.isLt,
    BitVec.toNat_append, ← Nat.shiftLeft_add_eq_or_of_lt exponent.isLt, Nat.shiftLeft_eq,
    Nat.shiftLeft_eq]

/-- Bits are made of a sign, an exponent and a mantissa. -/
theorem eq_packComponents (b : BitVec 64) :
  b = UnpackedFloat.packComponents Format.binary64 (signOf (b.toNat / 2 ^ 63 == 1))
    (BitVec.ofNat 11 (b.toNat / 2 ^ 52)) (BitVec.ofNat 52 b.toNat)
  := by
  have hlt := b.isLt
  have hsign : (signOf (b.toNat / 2 ^ 63 == 1)).toBitVec.toNat = b.toNat / 2 ^ 63 := by
    rw [signOf]
    split
    · rename_i h
      rw [beq_iff_eq.mp h]
      rfl
    · rename_i h
      rw [beq_iff_eq] at h
      have hzero : b.toNat / 2 ^ 63 = 0 := by omega
      rw [hzero]
      rfl
  apply BitVec.eq_of_toNat_eq
  rw [toNat_packComponents, hsign, BitVec.toNat_ofNat, BitVec.toNat_ofNat]
  omega

/-- Bits are unpacked to what their parts stand for. -/
theorem unpack_eq_toUnpacked (b : BitVec 64) :
  UnpackedFloat.unpack Format.binary64 b = (partsOf b.toNat).toUnpacked
  := by
  have hexponent : (BitVec.ofNat 11 (b.toNat / 2 ^ 52)).toNat = b.toNat / 2 ^ 52 % 2 ^ 11 :=
    BitVec.toNat_ofNat _ _
  have hmantissa : (BitVec.ofNat 52 b.toNat).toNat = b.toNat % 2 ^ 52 := BitVec.toNat_ofNat _ _
  have hunpack := unpack_packComponents (signOf (b.toNat / 2 ^ 63 == 1))
    (BitVec.ofNat 11 (b.toNat / 2 ^ 52)) (BitVec.ofNat 52 b.toNat)
  rw [← eq_packComponents] at hunpack
  have hparts : partsOf b.toNat =
      if b.toNat / 2 ^ 52 % 2 ^ 11 = 2047 then
        if b.toNat % 2 ^ 52 = 0 then .infinite (b.toNat / 2 ^ 63 == 1) else .undefined
      else if b.toNat / 2 ^ 52 % 2 ^ 11 = 0 then
        .finite (b.toNat / 2 ^ 63 == 1) (b.toNat % 2 ^ 52) (-1074)
      else .finite (b.toNat / 2 ^ 63 == 1) (2 ^ 52 + b.toNat % 2 ^ 52)
        ((b.toNat / 2 ^ 52 % 2 ^ 11 : ℕ) - 1075) := rfl
  rw [hunpack, hparts, ← hexponent, ← hmantissa]
  generalize BitVec.ofNat 11 (b.toNat / 2 ^ 52) = exponent
  generalize BitVec.ofNat 52 b.toNat = mantissa
  have hlast : exponent = -1#_ ↔ exponent.toNat = 2047 := BitVec.toNat_inj.symm
  have hleast : exponent = 0#_ ↔ exponent.toNat = 0 := BitVec.toNat_inj.symm
  have hzero : mantissa = 0#_ ↔ mantissa.toNat = 0 := BitVec.toNat_inj.symm
  simp only [hlast, hleast, hzero]
  split
  · split
    · rfl
    · rfl
  · split
    · rename_i hsubnormal
      simp only [hsubnormal, Parts.toUnpacked]
      rfl
    · simp only [Quantity.toNat_one_append, Parts.toUnpacked]
      rw [dif_neg (by omega)]

/-- A float is what its parts stand for. -/
theorem unpack_eq_decompose (x : Float) :
  x.toModel.unpack = (decompose x).toUnpacked
  := unpack_eq_toUnpacked x.toModel.toBits.toBitVec

/-! ### Quotients -/


theorem roundDiv_le {num den bound : ℕ} (hden : 0 < den) (h : num ≤ bound * den) :
  roundDiv num den ≤ bound
  := by
  have hquotient : num / den ≤ bound := Nat.div_le_of_le_mul (by rwa [Nat.mul_comm])
  have hsplit := Nat.div_add_mod num den
  rw [roundDiv]
  rcases hquotient.lt_or_eq with hlt | heq
  · split
    · omega
    · split
      · omega
      · omega
  · -- the quotient is exact
    have hexact : num % den = 0 := by
      rw [heq, Nat.mul_comm] at hsplit
      omega
    rw [hexact, if_pos (by omega)]
    exact heq.le

theorem le_roundDiv {num den bound : ℕ} (hden : 0 < den) (h : bound * den ≤ num) :
  bound ≤ roundDiv num den
  := by
  have hquotient : bound ≤ num / den := (Nat.le_div_iff_mul_le hden).mpr h
  rw [roundDiv]
  split
  · exact hquotient
  · split
    · omega
    · omega

/-- A quotient in multiples of a power of two. -/
def scaled (num den : ℕ) (q : ℤ) : ℕ :=
  if q < 0 then roundDiv (num * twoTo (-q).toNat) den else roundDiv num (den * twoTo q.toNat)

theorem nearest?_eq (negative : Bool) {num : ℕ} (hnum : num ≠ 0) (den : ℕ) :
  nearest? negative num den
    = let q := max ((log2 num : ℤ) - (log2 den : ℤ) - 53) (-1074)
      if twoTo 53 < scaled num den q then assemble? negative (scaled num den (q + 1)) (q + 1)
      else assemble? negative (scaled num den q) q
  := by
  rw [nearest?, if_neg hnum]
  rfl

/-- A quotient has 53 bits at most in multiples of a power that is large enough. -/
theorem scaled_le {num den : ℕ} (hden : 0 < den) {q : ℤ}
    (hq : (log2 num : ℤ) - log2 den - 52 ≤ q) :
  scaled num den q ≤ 2 ^ 53
  := by
  have hnum : num ≤ 2 ^ (log2 num + 1) := Nat.lt_log2_self.le
  have hden' : 2 ^ log2 den ≤ den := Nat.log2_self_le (Nat.ne_of_gt hden)
  rw [scaled]
  split
  · apply roundDiv_le hden
    calc num * twoTo (-q).toNat
      _ ≤ 2 ^ (log2 num + 1) * 2 ^ (-q).toNat := Nat.mul_le_mul_right _ hnum
      _ = 2 ^ (log2 num + 1 + (-q).toNat) := (Nat.pow_add _ _ _).symm
      _ ≤ 2 ^ (53 + log2 den) := Nat.pow_le_pow_right (by decide) (by omega)
      _ = 2 ^ 53 * 2 ^ log2 den := Nat.pow_add _ _ _
      _ ≤ 2 ^ 53 * den := Nat.mul_le_mul_left _ hden'
  · apply roundDiv_le (Nat.mul_pos hden (twoTo_pos _))
    calc num
      _ ≤ 2 ^ (log2 num + 1) := hnum
      _ ≤ 2 ^ (53 + log2 den + q.toNat) := Nat.pow_le_pow_right (by decide) (by omega)
      _ = 2 ^ 53 * (2 ^ log2 den * 2 ^ q.toNat) := by rw [Nat.pow_add, Nat.pow_add, Nat.mul_assoc]
      _ ≤ 2 ^ 53 * (den * 2 ^ q.toNat) := Nat.mul_le_mul_left _ (Nat.mul_le_mul_right _ hden')

/-- A whole number is not lost in multiples of a power that it reaches. -/
theorem scaled_one_pos {num : ℕ} (hnum : num ≠ 0) {q : ℤ} (hq : q ≤ log2 num) :
  0 < scaled num 1 q
  := by
  rw [scaled]
  split
  · apply le_roundDiv Nat.one_pos
    exact Nat.mul_pos (Nat.pos_of_ne_zero hnum) (twoTo_pos _)
  · apply le_roundDiv (Nat.mul_pos Nat.one_pos (twoTo_pos _))
    rw [Nat.one_mul, Nat.one_mul]
    calc 2 ^ q.toNat
      _ ≤ 2 ^ log2 num := Nat.pow_le_pow_right (by decide) (by omega)
      _ ≤ num := Nat.log2_self_le hnum

/-! ### Assembled floats -/

/-- A finite float with some sign. -/
structure IsFinite (negative : Bool) (x : Float) (isZero : Prop) : Prop where
  zero : isZero → x.toModel.unpack = .zero (signOf negative)
  proper : ¬ isZero → ∃ m e hm, x.toModel.unpack = .finite (signOf negative) m e hm

theorem partsOf_eq (negative : Bool) {e f : ℕ} (he : e < 2047) (hf : f < 2 ^ 52) :
  partsOf ((if negative then 2 ^ 63 else 0) + e * 2 ^ 52 + f)
    = if e = 0 then .finite negative f (-1074) else .finite negative (2 ^ 52 + f) ((e : ℤ) - 1075)
  := by
  generalize hn : (if negative then 2 ^ 63 else 0) + e * 2 ^ 52 + f = n
  have hsign : (n / 2 ^ 63 == 1) = negative := by
    cases negative with
    | true =>
        rw [if_pos rfl] at hn
        rw [beq_iff_eq]
        omega
    | false =>
        rw [if_neg Bool.false_ne_true] at hn
        rw [beq_eq_false_iff_ne]
        omega
  have hexponent : n / 2 ^ 52 % 2 ^ 11 = e := by
    split at hn
    · omega
    · omega
  have hmantissa : n % 2 ^ 52 = f := by
    split at hn
    · omega
    · omega
  have hparts : partsOf n =
      if n / 2 ^ 52 % 2 ^ 11 = 2047 then
        if n % 2 ^ 52 = 0 then .infinite (n / 2 ^ 63 == 1) else .undefined
      else if n / 2 ^ 52 % 2 ^ 11 = 0 then .finite (n / 2 ^ 63 == 1) (n % 2 ^ 52) (-1074)
      else .finite (n / 2 ^ 63 == 1) (2 ^ 52 + n % 2 ^ 52) ((n / 2 ^ 52 % 2 ^ 11 : ℕ) - 1075) := rfl
  rw [hparts, hexponent, hsign, hmantissa, if_neg (Nat.ne_of_lt he)]

/-- Finite parts that a float has are those of the float that is made of their bits. -/
theorem unpack_pack_toUnpacked (negative : Bool) {m : ℕ} {q : ℤ} (h : IsCanonical m q) (hq : q < 972) :
  (Float.Model.pack (Parts.finite negative m q).toUnpacked).unpack
    = (Parts.finite negative m q).toUnpacked
  := by
  rw [Parts.toUnpacked]
  split
  · cases negative with
    | _ => rfl
  · rename_i hm
    rw [unpack_pack_finite _ (Nat.pos_of_ne_zero hm) h, if_neg (by omega)]

theorem unpack_ofBits (bits : UInt64) :
  (Float.ofBits bits).toModel.unpack
    = (Float.Model.pack (partsOf bits.toBitVec.toNat).toUnpacked).unpack
  := by
  rw [← unpack_eq_toUnpacked]
  rfl

/-- The bits of an exponent that is not the last one stand for a finite float. -/
theorem isFinite_ofBits (negative : Bool) {e f : ℕ} (he : e < 2047) (hf : f < 2 ^ 52) :
  IsFinite negative
    (.ofBits (UInt64.ofNat ((if negative then 2 ^ 63 else 0) + e * 2 ^ 52 + f)))
    (e = 0 ∧ f = 0)
  := by
  have hparts := partsOf_eq negative he hf
  generalize hn : (if negative then 2 ^ 63 else 0) + e * 2 ^ 52 + f = n at hparts
  have hlt : n < 2 ^ 64 := by
    split at hn
    · omega
    · omega
  have hunpack := unpack_ofBits (UInt64.ofNat n)
  rw [UInt64.toNat_toBitVec, UInt64.toNat_ofNat_of_lt' hlt, hparts] at hunpack
  split at hunpack
  · rename_i hsubnormal
    rw [unpack_pack_toUnpacked negative ⟨by omega, by omega, .inr rfl⟩ (by omega)] at hunpack
    constructor
    · rintro ⟨-, rfl⟩
      exact hunpack
    · intro hne
      rw [Parts.toUnpacked, dif_neg fun h => hne ⟨hsubnormal, h⟩] at hunpack
      exact ⟨_, _, _, hunpack⟩
  · rw [unpack_pack_toUnpacked negative ⟨by omega, by omega, .inl (by omega)⟩ (by omega),
      Parts.toUnpacked, dif_neg (by omega)] at hunpack
    constructor
    · rintro ⟨rfl, -⟩
      contradiction
    · intro
      exact ⟨_, _, _, hunpack⟩

theorem assemble?_of_lt (negative : Bool) {m : ℕ} (hm : m < 2 ^ 53) (q : ℤ) :
  assemble? negative m q
    = if m < 2 ^ 52 then some (.ofBits (UInt64.ofNat ((if negative then 2 ^ 63 else 0) + m)))
      else if 2047 ≤ (q + 1075).toNat then none
      else some (.ofBits (UInt64.ofNat ((if negative then 2 ^ 63 else 0)
        + (q + 1075).toNat * 2 ^ 52 + (m - 2 ^ 52))))
  := by
  have hsmall : ¬ twoTo 53 ≤ m := Nat.not_le_of_lt hm
  rw [assemble?, if_neg hsmall]
  rfl

/-- The smallest mantissa with too many bits is a power of two. -/
theorem assemble?_two_pow (negative : Bool) (q : ℤ) :
  assemble? negative (2 ^ 53) q = assemble? negative (2 ^ 52) (q + 1)
  := by
  have hlarge : twoTo 53 ≤ 2 ^ 53 := Nat.le_refl _
  rw [assemble?_of_lt negative (m := 2 ^ 52) (by decide), assemble?, if_pos hlarge]
  rfl

theorem isFinite_assemble?_of_lt {negative : Bool} {m : ℕ} {q : ℤ} (hm : m < 2 ^ 53)
    (hq : -1074 ≤ q) {x : Float} (h : assemble? negative m q = some x) :
  IsFinite negative x (m = 0)
  := by
  rw [assemble?_of_lt negative hm] at h
  split at h
  · have hfinite := isFinite_ofBits negative (e := 0) (f := m) (by decide) ‹_›
    rw [Nat.zero_mul, Nat.add_zero, Option.some_inj.mp h] at hfinite
    simpa using hfinite
  · split at h
    · cases h
    · have hfinite := isFinite_ofBits negative (e := (q + 1075).toNat) (f := m - 2 ^ 52) (by omega)
        (by omega)
      rw [Option.some_inj.mp h] at hfinite
      constructor
      · omega
      · intro
        apply hfinite.proper
        omega

theorem isFinite_assemble? {negative : Bool} {m : ℕ} {q : ℤ} (hm : m ≤ 2 ^ 53) (hq : -1074 ≤ q)
    {x : Float} (h : assemble? negative m q = some x) :
  IsFinite negative x (m = 0)
  := by
  rcases hm.lt_or_eq with hlt | rfl
  · exact isFinite_assemble?_of_lt hlt hq h
  · rw [assemble?_two_pow] at h
    simpa using isFinite_assemble?_of_lt (m := 2 ^ 52) (by decide) (by omega) h

/-- The float nearest to a quotient is finite and has the sign that is asked for.  A whole number that
is not zero has a float that is not zero. -/
theorem exists_isFinite_nearest? {negative : Bool} {num den : ℕ} (hden : 0 < den) {x : Float}
    (h : nearest? negative num den = some x) :
  ∃ isZero, IsFinite negative x isZero ∧ (num ≠ 0 → den = 1 → ¬ isZero)
  := by
  by_cases hnum : num = 0
  · rw [nearest?, if_pos hnum] at h
    exact ⟨0 = 0, isFinite_assemble? (by decide) (by decide) h, fun hne => absurd hnum hne⟩
  · rw [nearest?_eq negative hnum] at h
    generalize hq : max ((log2 num : ℤ) - (log2 den : ℤ) - 53) (-1074) = q at h
    have hone : den = 1 → log2 den = 0 := by
      rintro rfl
      rfl
    simp only at h
    split at h
    · -- the mantissa would have 54 bits
      refine ⟨_, isFinite_assemble? (scaled_le hden (by omega)) (by omega) h, ?_⟩
      rintro - rfl
      apply Nat.ne_of_gt
      apply scaled_one_pos hnum
      have := hone rfl
      omega
    · rename_i hbits
      refine ⟨_, isFinite_assemble? (Nat.le_of_not_lt hbits) (by omega) h, ?_⟩
      rintro - rfl
      apply Nat.ne_of_gt
      apply scaled_one_pos hnum
      have := hone rfl
      omega

/-! ### Sums and squares -/

variable {x : Float}

theorem IsFinite.isFinite {negative : Bool} {isZero : Prop} (h : IsFinite negative x isZero) :
  x.isFinite = true
  := by
  rw [Float.isFinite, Float.Model.isFinite]
  by_cases hzero : isZero
  · rw [h.zero hzero]
    rfl
  · obtain ⟨m, e, hm, hproper⟩ := h.proper hzero
    rw [hproper]
    rfl

theorem IsFinite.nonneg {isZero : Prop} (h : IsFinite false x isZero) :
  0 ≤ x
  := by
  rw [Quantity.le_iff]
  refine ⟨rfl, Quantity.isNaN_of_isFinite h.isFinite, ?_⟩
  rw [Quantity.rank, Quantity.rank, Quantity.unpack_zero, ← not_lt]
  by_cases hzero : isZero
  · rw [h.zero hzero, Quantity.Rank.ofUnpacked, Quantity.Rank.ofUnpacked]
    exact lt_irrefl _
  · obtain ⟨m, e, hm, hproper⟩ := h.proper hzero
    rw [hproper, signOf, if_neg Bool.false_ne_true, Quantity.Rank.ofUnpacked,
      Quantity.Rank.ofUnpacked, Quantity.Rank.of_lt_of]
    omega

theorem decompose_of_isFinite (h : x.isFinite = true) :
  ∃ negative m q, decompose x = .finite negative m q
  := by
  rw [Float.isFinite, Float.Model.isFinite, unpack_eq_decompose] at h
  cases hparts : decompose x with
  | undefined =>
      rw [hparts] at h
      cases h
  | infinite negative =>
      rw [hparts] at h
      cases h
  | finite negative m q => exact ⟨negative, m, q, rfl⟩

theorem fraction_pos (m : ℕ) (q : ℤ) :
  0 < (fraction m q).2
  := by
  rw [fraction]
  split
  · apply twoTo_pos
  · exact Nat.one_pos

/-- A square is not negative, unless it is that of something that is not a number. -/
theorem nonneg_power? {y : Float} (h : power? x 2 = some y) :
  x.isNaN = true ∧ y = x ∨ 0 ≤ y
  := by
  rw [power?] at h
  split at h
  · rename_i hparts
    cases h
    left
    rw [Float.isNaN, Float.Model.isNaN, unpack_eq_decompose, hparts]
    exact ⟨rfl, rfl⟩
  · rename_i negative _
    cases h
    right
    cases negative with
    | _ => decide
  · rename_i negative m q _
    right
    have hsign : (negative && decide (2 % 2 = 1)) = false := Bool.and_false negative
    rw [hsign] at h
    obtain ⟨isZero, hfinite, -⟩ := exists_isFinite_nearest? (fraction_pos _ _) h
    exact hfinite.nonneg

theorem special_addAll {xs : List Float} (hxs : ∀ x ∈ xs, x.isFinite = true) {s t : PartialSum}
    (h : s.addAll xs = .ok t) :
  t.special = s.special
  := by
  induction xs generalizing s with
  | nil =>
      cases h
      rfl
  | cons x xs ih =>
      obtain ⟨negative, m, q, hparts⟩ := decompose_of_isFinite (hxs x List.mem_cons_self)
      rw [PartialSum.addAll, PartialSum.add, hparts] at h
      simp only at h
      split at h
      · cases h
      · rename_i next hnext
        rw [ih (fun y hy => hxs y (List.mem_cons_of_mem _ hy)) h]
        split at hnext
        · cases hnext
          rfl
        · cases hnext

/-- An exact sum of finite floats is finite. -/
theorem isFinite_sum {xs : List Float} (hxs : ∀ x ∈ xs, x.isFinite = true) (h : sum xs = .ok x) :
  x.isFinite = true
  := by
  rw [sum] at h
  split at h
  · cases h
  · rename_i s hs
    have hspecial : (s.special == 0) = true := by
      rw [special_addAll hxs hs]
      rfl
    rw [if_pos hspecial] at h
    split at h
    · rename_i y hy
      cases h
      obtain ⟨isZero, hfinite, -⟩ := exists_isFinite_nearest? (twoTo_pos _) hy
      exact hfinite.isFinite
    · cases h

/-- A number that is not zero is a float that is not zero. -/
theorem ofInt_ne_zero {n : ℕ} (hn : n ≠ 0) :
  (ofInt n).isNaN = false ∧ ∀ s, (ofInt n).toModel.unpack ≠ .zero s
  := by
  rw [ofInt, nearest]
  cases h : nearest? (decide ((n : ℤ) < 0)) (n : ℤ).natAbs 1 with
  | none =>
      have hsign : decide ((n : ℤ) < 0) = false := by simp
      rw [hsign]
      constructor
      · decide
      · rintro s ⟨⟩
  | some x =>
      obtain ⟨isZero, hfinite, hne⟩ := exists_isFinite_nearest? Nat.one_pos h
      obtain ⟨m, e, hm, hproper⟩ := hfinite.proper (hne (by omega) rfl)
      constructor
      · exact Quantity.isNaN_of_isFinite hfinite.isFinite
      · intro s hzero
        cases hproper.symm.trans hzero

end SnippetProfiler.Decimal
