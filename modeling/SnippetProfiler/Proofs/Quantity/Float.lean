import Mathlib
import SnippetProfiler.Quantity

/-!
# The order of floats

The floats that are numbers are linearly ordered up to the sign of zero: `rank` takes them to
a linear order, and one of them is less than another exactly when its rank is.  The
difference of two finite floats is a number, and so is the product of a number with a finite
float that is not zero.
-/

namespace SnippetProfiler.Quantity

open Float.Model (UnpackedFloat Format)
open Float.Model.UnpackedFloat (Sign)

/-! ### Ranks -/

/-- Ranks of numbers: first by sign and infinity, then by exponent, then by mantissa. -/
abbrev Rank : Type := ℤ ×ₗ ℤ ×ₗ ℤ

namespace Rank

/-- The rank with some parts. -/
def of (a b c : ℤ) : Rank := toLex (a, toLex (b, c))

@[simp]
theorem of_lt_of {a b c a' b' c' : ℤ} :
  of a b c < of a' b' c' ↔ a < a' ∨ a = a' ∧ (b < b' ∨ b = b' ∧ c < c')
  := by
  simp only [of, Prod.Lex.toLex_lt_toLex]

/-- The rank of an unpacked float; it means nothing for what is not a number. -/
def ofUnpacked : UnpackedFloat → Rank
  | .infinity .negative => of (-2) 0 0
  | .finite .negative m e _ => of (-1) (-e) (-m)
  | .zero _ => of 0 0 0
  | .finite .positive m e _ => of 1 e m
  | .infinity .positive => of 2 0 0
  | .notANumber => of 0 0 0

end Rank

@[simp]
theorem compare_then_eq_lt {e f : ℤ} {m n : ℕ} :
  (compare e f).then (compare m n) = .lt ↔ e < f ∨ e = f ∧ (m : ℤ) < n
  := by
  rw [Ordering.then_eq_lt, Int.compare_eq_lt, Int.compare_eq_eq, Nat.compare_eq_lt,
    Int.ofNat_lt]

@[simp]
theorem compare_then_eq_gt {e f : ℤ} {m n : ℕ} :
  (compare e f).then (compare m n) = .gt ↔ f < e ∨ e = f ∧ (n : ℤ) < m
  := by
  rw [Ordering.then_eq_gt, Int.compare_eq_gt, Int.compare_eq_eq, Nat.compare_eq_gt,
    Int.ofNat_lt]

/-- One number is less than another when its rank is. -/
theorem unpacked_lt_iff {x y : UnpackedFloat} (hx : x.isNaN = false) (hy : y.isNaN = false) :
  x.lt y = true ↔ Rank.ofUnpacked x < Rank.ofUnpacked y
  := by
  rw [UnpackedFloat.lt, beq_iff_eq]
  cases x with
  | notANumber => cases hx
  | infinity s =>
      cases y with
      | notANumber => cases hy
      | infinity t => cases s <;> cases t <;> simp [UnpackedFloat.compare, compare, Rank.ofUnpacked]
      | zero t => cases s <;> simp [UnpackedFloat.compare, Rank.ofUnpacked]
      | finite t n f hn => cases s <;> cases t <;> simp [UnpackedFloat.compare, Rank.ofUnpacked]
  | zero s =>
      cases y with
      | notANumber => cases hy
      | infinity t => cases t <;> simp [UnpackedFloat.compare, Rank.ofUnpacked]
      | zero t => simp [UnpackedFloat.compare, Rank.ofUnpacked]
      | finite t n f hn => cases t <;> simp [UnpackedFloat.compare, Rank.ofUnpacked]
  | finite s m e hm =>
      cases y with
      | notANumber => cases hy
      | infinity t => cases s <;> cases t <;> simp [UnpackedFloat.compare, Rank.ofUnpacked]
      | zero t => cases s <;> simp [UnpackedFloat.compare, Rank.ofUnpacked]
      | finite t n f hn => cases s <;> cases t <;> simp [UnpackedFloat.compare, Rank.ofUnpacked]

/-! ### Numbers -/

/-- A packed float is unpacked as a number unless its exponent is the largest one and its
mantissa is not zero. -/
theorem isNaN_unpack {b : BitVec Format.binary64.numBits}
    (h : UnpackedFloat.unpackExponent b = -1#_ → UnpackedFloat.unpackMantissa b = 0#_) :
  (UnpackedFloat.unpack Format.binary64 b).isNaN = false
  := by
  simp only [UnpackedFloat.unpack]
  split
  · rename_i he
    rw [if_pos (h he)]
    rfl
  · split
    · split
      · rfl
      · rfl
    · rfl

theorem unpack_pack (f : UnpackedFloat) :
  (Float.Model.pack f).unpack
    = UnpackedFloat.unpack Format.binary64 (UnpackedFloat.pack Format.binary64 f)
  := by
  simp only [Float.Model.unpack, Float.Model.pack]

theorem exponent_ne {n : ℕ} (h : ¬ 2 ^ Format.binary64.exponentBits ≤ n + 1) :
  (BitVec.ofNat Format.binary64.exponentBits n) ≠ -1#_
  := by
  intro he
  have hn := congrArg BitVec.toNat he
  simp at hn h
  omega

/-- A float that is packed is a number when it was one. -/
theorem isNaN_pack {f : UnpackedFloat} (h : f.isNaN = false) :
  (Float.Model.pack f).isNaN = false
  := by
  rw [Float.Model.isNaN, unpack_pack]
  apply isNaN_unpack
  intro he
  cases f with
  | notANumber => cases h
  | infinity s =>
      rw [UnpackedFloat.pack, UnpackedFloat.packedInfinity,
        UnpackedFloat.unpackMantissa_packComponents]
      rfl
  | zero s =>
      rw [UnpackedFloat.pack, UnpackedFloat.packedZero,
        UnpackedFloat.unpackExponent_packComponents] at he
      cases he
  | finite s m e hm =>
      simp only [UnpackedFloat.pack] at he ⊢
      split
      · rw [UnpackedFloat.packedInfinity, UnpackedFloat.unpackMantissa_packComponents]
        rfl
      · rename_i hlarge
        rw [if_neg hlarge] at he
        split at he
        · rw [UnpackedFloat.unpackExponent_packComponents] at he
          cases exponent_ne hlarge he
        · rw [UnpackedFloat.unpackExponent_packComponents] at he
          cases he

theorem isNaN_roundWithAccuracy (s : Sign) (m : ℕ) (e : ℤ) (a : UnpackedFloat.Accuracy) :
  (UnpackedFloat.roundWithAccuracy Format.binary64 s m e a).isNaN = false
  := by
  simp only [UnpackedFloat.roundWithAccuracy]
  split
  · rfl
  · rfl

theorem isNaN_normalize (m : ℤ) (e : ℤ) (s : Sign) :
  (UnpackedFloat.normalize Format.binary64 m e s).isNaN = false
  := by
  rw [UnpackedFloat.normalize]
  split
  · apply isNaN_roundWithAccuracy
  · rfl
  · apply isNaN_roundWithAccuracy

theorem isNaN_of_isFinite {x : Float} (h : x.isFinite = true) :
  x.isNaN = false
  := by
  rw [Float.isFinite, Float.Model.isFinite] at h
  rw [Float.isNaN, Float.Model.isNaN]
  cases hu : x.toModel.unpack with
  | notANumber => rw [hu] at h; cases h
  | _ => rfl

/-- The difference of a finite float and a number is a number. -/
theorem isNaN_finite_sub {x y : Float} (hx : x.isFinite = true) (hy : y.isNaN = false) :
  (x - y).isNaN = false
  := by
  apply isNaN_pack
  rw [Float.isFinite, Float.Model.isFinite] at hx
  rw [Float.isNaN, Float.Model.isNaN] at hy
  cases hu : x.toModel.unpack with
  | notANumber => rw [hu] at hx; cases hx
  | infinity s => rw [hu] at hx; cases hx
  | zero s =>
      cases hv : y.toModel.unpack with
      | notANumber => rw [hv] at hy; cases hy
      | infinity t => rfl
      | zero t => cases s <;> cases t <;> rfl
      | finite t n f hn => rfl
  | finite s m e hm =>
      cases hv : y.toModel.unpack with
      | notANumber => rw [hv] at hy; cases hy
      | infinity t => rfl
      | zero t => rfl
      | finite t n f hn => apply isNaN_normalize

/-- The difference of finite floats is a number. -/
theorem isNaN_sub {x y : Float} (hx : x.isFinite = true) (hy : y.isFinite = true) :
  (sub x y).isNaN = false
  := isNaN_finite_sub hx (isNaN_of_isFinite hy)

/-- The quotient of a finite float and a number that is not zero is a number. -/
theorem isNaN_finite_div {x y : Float} (hx : x.isFinite = true) (hy : y.isNaN = false)
    (hzero : ∀ s, y.toModel.unpack ≠ .zero s) :
  (x / y).isNaN = false
  := by
  apply isNaN_pack
  rw [Float.isFinite, Float.Model.isFinite] at hx
  rw [Float.isNaN, Float.Model.isNaN] at hy
  cases hv : y.toModel.unpack with
  | notANumber => rw [hv] at hy; cases hy
  | zero t => cases hzero t hv
  | infinity t =>
      cases hu : x.toModel.unpack with
      | notANumber => rw [hu] at hx; cases hx
      | infinity s => rw [hu] at hx; cases hx
      | zero s => rfl
      | finite s m e hm => rfl
  | finite t n f hn =>
      cases hu : x.toModel.unpack with
      | notANumber => rw [hu] at hx; cases hx
      | infinity s => rw [hu] at hx; cases hx
      | zero s => rfl
      | finite s m e hm => apply isNaN_roundWithAccuracy

/-- A float that is neither zero nor infinite. -/
def IsProper (x : Float) : Prop := ∃ s m e hm, x.toModel.unpack = .finite s m e hm

/-- The product of a number and a proper float is a number. -/
theorem isNaN_mul {x y : Float} (hx : x.isNaN = false) (hy : IsProper y) :
  (mul x y).isNaN = false
  := by
  obtain ⟨t, n, f, hn, hy⟩ := hy
  apply isNaN_pack
  rw [Float.isNaN, Float.Model.isNaN] at hx
  rw [hy]
  cases hu : x.toModel.unpack with
  | notANumber => rw [hu] at hx; cases hx
  | infinity s => rfl
  | zero s => rfl
  | finite s m e hm => apply isNaN_roundWithAccuracy

/-! ### The order -/

/-- The rank of a float. -/
def rank (x : Float) : Rank := Rank.ofUnpacked x.toModel.unpack

/-- One number is less than another when its rank is. -/
theorem lt_iff_rank {x y : Float} (hx : x.isNaN = false) (hy : y.isNaN = false) :
  lt x y = true ↔ rank x < rank y
  := by
  rw [rank, rank, ← unpacked_lt_iff hx hy]
  simp only [lt, decide_eq_true_eq]
  exact decide_eq_true_iff

/-- Two floats compare the other way round when they change places. -/
theorem unpacked_compare_swap (x y : UnpackedFloat) :
  y.compare x = (x.compare y).map Ordering.swap
  := by
  cases x with
  | notANumber => cases y <;> rfl
  | infinity s =>
      cases y with
      | infinity t => cases s <;> cases t <;> rfl
      | _ => cases s <;> rfl
  | zero s =>
      cases y with
      | infinity t => cases t <;> rfl
      | finite t n f hn => cases t <;> rfl
      | _ => rfl
  | finite s m e hm =>
      cases y with
      | infinity t => cases s <;> cases t <;> rfl
      | finite t n f hn =>
          cases s <;> cases t <;>
            simp [UnpackedFloat.compare, Ordering.swap_then, Int.compare_swap, Nat.compare_swap]
      | _ => cases s <;> rfl

/-- Floats compare exactly when they are numbers. -/
theorem unpacked_compare_ne_none_iff {x y : UnpackedFloat} :
  x.compare y ≠ none ↔ x.isNaN = false ∧ y.isNaN = false
  := by
  cases x with
  | notANumber => simp [UnpackedFloat.compare, UnpackedFloat.isNaN]
  | _ s =>
      cases y with
      | notANumber => simp [UnpackedFloat.compare, UnpackedFloat.isNaN]
      | _ t => cases s <;> cases t <;> simp [UnpackedFloat.compare, UnpackedFloat.isNaN]

/-- Floats are ordered exactly when they are numbers whose ranks are. -/
theorem le_iff {x y : Float} :
  x ≤ y ↔ x.isNaN = false ∧ y.isNaN = false ∧ rank x ≤ rank y
  := by
  have hle : x ≤ y ↔ x.toModel.unpack.le y.toModel.unpack = true := decide_eq_true_iff
  rw [hle, UnpackedFloat.le]
  cases ho : x.toModel.unpack.compare y.toModel.unpack with
  | none =>
      simp only [Option.any_none, Bool.false_eq_true, false_iff]
      rintro ⟨hx, hy, -⟩
      apply unpacked_compare_ne_none_iff.mpr ⟨hx, hy⟩ ho
  | some o =>
      obtain ⟨hx, hy⟩ := unpacked_compare_ne_none_iff.mp (by rw [ho]; exact Option.some_ne_none o)
      have hlt := unpacked_lt_iff hy hx
      rw [UnpackedFloat.lt, unpacked_compare_swap, ho] at hlt
      have hnumbers : x.isNaN = false ∧ y.isNaN = false := ⟨hx, hy⟩
      rw [Option.any_some, ← and_assoc, and_iff_right hnumbers, ← not_lt, rank, rank, ← hlt]
      cases o with
      | _ => decide

/-- Floats are equal exactly when they are numbers of one rank. -/
theorem beq_iff {x y : Float} :
  (x == y) = true ↔ x.isNaN = false ∧ y.isNaN = false ∧ rank x = rank y
  := by
  have hbeq : (x == y) = (x.toModel.unpack.compare y.toModel.unpack == some .eq) := rfl
  rw [hbeq, beq_iff_eq]
  cases ho : x.toModel.unpack.compare y.toModel.unpack with
  | none =>
      simp only [reduceCtorEq, false_iff]
      rintro ⟨hx, hy, -⟩
      apply unpacked_compare_ne_none_iff.mpr ⟨hx, hy⟩ ho
  | some o =>
      obtain ⟨hx, hy⟩ := unpacked_compare_ne_none_iff.mp (by rw [ho]; exact Option.some_ne_none o)
      have hlt := unpacked_lt_iff hx hy
      have hgt := unpacked_lt_iff hy hx
      rw [UnpackedFloat.lt, ho] at hlt
      rw [UnpackedFloat.lt, unpacked_compare_swap, ho] at hgt
      have hnumbers : x.isNaN = false ∧ y.isNaN = false := ⟨hx, hy⟩
      rw [← and_assoc, and_iff_right hnumbers, rank, rank,
        le_antisymm_iff (a := Rank.ofUnpacked x.toModel.unpack), ← not_lt, ← not_lt, ← hlt, ← hgt]
      cases o with
      | _ => decide

theorem le_self {x : Float} (h : x.isNaN = false) :
  x ≤ x
  := le_iff.mpr ⟨h, h, le_rfl⟩

theorem le_of_le_of_le {x y z : Float} (hxy : x ≤ y) (hyz : y ≤ z) :
  x ≤ z
  := by
  obtain ⟨hx, -, hxy⟩ := le_iff.mp hxy
  obtain ⟨-, hz, hyz⟩ := le_iff.mp hyz
  apply le_iff.mpr
  exact ⟨hx, hz, le_trans hxy hyz⟩

/-- What is less than something, or more, is a number. -/
theorem isNaN_of_lt {x y : Float} (h : lt x y = true) :
  x.isNaN = false ∧ y.isNaN = false
  := by
  have hlt : x.toModel.unpack.lt y.toModel.unpack = true := by
    simp only [lt, decide_eq_true_eq] at h
    exact of_decide_eq_true h
  rw [UnpackedFloat.lt, beq_iff_eq] at hlt
  rw [Float.isNaN, Float.isNaN, Float.Model.isNaN, Float.Model.isNaN]
  cases hx : x.toModel.unpack with
  | notANumber =>
      rw [hx] at hlt
      cases hlt
  | _ =>
      cases hy : y.toModel.unpack with
      | notANumber =>
          rw [hx, hy] at hlt
          cases hlt
      | _ =>
          constructor
          · rfl
          · rfl

/-- One float is less than another exactly when they are numbers whose ranks are so. -/
theorem lt_iff {x y : Float} :
  x < y ↔ x.isNaN = false ∧ y.isNaN = false ∧ rank x < rank y
  := by
  constructor
  · intro h
    obtain ⟨hx, hy⟩ := isNaN_of_lt (decide_eq_true h)
    refine ⟨hx, hy, (lt_iff_rank hx hy).mp (decide_eq_true h)⟩
  · rintro ⟨hx, hy, h⟩
    exact of_decide_eq_true ((lt_iff_rank hx hy).mpr h)

theorem le_of_lt {x y : Float} (h : x < y) :
  x ≤ y
  := by
  obtain ⟨hx, hy, hlt⟩ := lt_iff.mp h
  exact le_iff.mpr ⟨hx, hy, hlt.le⟩

/-- One number is no more than another exactly when the other one is not less. -/
theorem not_lt_iff_le {x y : Float} (hx : x.isNaN = false) (hy : y.isNaN = false) :
  ¬ x < y ↔ y ≤ x
  := by
  rw [lt_iff, le_iff, and_iff_right hx, and_iff_right hy, and_iff_right hy, and_iff_right hx, not_lt]

instance (x : Float) : Decidable (IsProper x) :=
  match h : x.toModel.unpack with
  | .finite s m e hm => isTrue ⟨s, m, e, hm, h⟩
  | .notANumber | .infinity _ | .zero _ =>
    isFalse fun ⟨s, m, e, hm, hfinite⟩ => by
      rw [h] at hfinite
      cases hfinite

/-- A thousand is proper. -/
theorem isProper_thousand :
  IsProper (ofInt 1000)
  := by decide

theorem isProper_one :
  IsProper (ofInt 1)
  := by decide

theorem isNaN_zero :
  (zero : Float).isNaN = false
  := by decide

end SnippetProfiler.Quantity
