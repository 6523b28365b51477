import Mathlib
import SnippetProfiler.Proofs.Quantity.Float

/-!
# Rounding of floats

A float that is neither zero nor infinite has one mantissa and one exponent: the mantissa has 53 bits,
or fewer and then the exponent is the least one.  An exact result is rounded to such a pair, and
where it is not below a float, the rounded one is not below it either.  So a sum of floats that are
not negative is not below the first of them, nor is a product with a factor of at least one.
-/

namespace SnippetProfiler.Quantity

open Float.Model (UnpackedFloat Format)
open Float.Model.UnpackedFloat (Sign ExtendedMantissa Accuracy)

/-! ### Mantissas and exponents -/

/-- A mantissa and an exponent as a float has them. -/
structure IsCanonical (m : ℕ) (e : ℤ) : Prop where
  bits : m < 2 ^ 53
  least : -1074 ≤ e
  normal : 2 ^ 52 ≤ m ∨ e = -1074

theorem ofBitVec_unpackSign (s : Sign) (exponent : BitVec 11) (mantissa : BitVec 52) :
  Sign.ofBitVec (@UnpackedFloat.unpackSign Format.binary64
    (UnpackedFloat.packComponents Format.binary64 s exponent mantissa)) = s
  := by
  have hsign : @UnpackedFloat.unpackSign Format.binary64
      (UnpackedFloat.packComponents Format.binary64 s exponent mantissa) = s.toBitVec := by
    ext i hi
    obtain rfl : i = 0 := by omega
    have hbit : (s.toBitVec ++ exponent ++ mantissa).getLsbD 63 = s.toBitVec[0] := by
      rw [BitVec.getLsbD_append, if_neg (by decide), BitVec.getLsbD_append, if_neg (by decide)]
      exact BitVec.getLsbD_eq_getElem hi
    rw [← hbit]
    simp only [UnpackedFloat.unpackSign, UnpackedFloat.packComponents, BitVec.cast_eq,
      BitVec.getElem_extract, Nat.reduceAdd, add_zero]
  rw [hsign]
  cases s with
  | positive => rfl
  | negative => rfl

/-- The mantissa of a normal float has a leading one. -/
theorem toNat_one_append (mantissa : BitVec 52) :
  (1#1 ++ mantissa).toNat = 2 ^ 52 + mantissa.toNat
  := by
  rw [BitVec.toNat_append, ← Nat.shiftLeft_add_eq_or_of_lt mantissa.isLt]
  rfl

/-- What the components of a float stand for. -/
theorem unpack_packComponents (s : Sign) (exponent : BitVec 11) (mantissa : BitVec 52) :
  UnpackedFloat.unpack Format.binary64
      (UnpackedFloat.packComponents Format.binary64 s exponent mantissa)
    = if exponent = -1#_ then
        if mantissa = 0#_ then .infinity s else .notANumber
      else if exponent = 0#_ then
        if h : mantissa = 0#_ then .zero s
        else .finite s mantissa.toNat (exponent.toNat - 1075 + 1)
          (Nat.pos_of_ne_zero fun h0 => h (BitVec.eq_of_toNat_eq h0))
      else .finite s (1#1 ++ mantissa).toNat (exponent.toNat - 1075)
        (by rw [toNat_one_append]; omega)
  := by
  simp only [UnpackedFloat.unpack, ofBitVec_unpackSign,
    UnpackedFloat.unpackExponent_packComponents, UnpackedFloat.unpackMantissa_packComponents]
  rfl

theorem biased_exponent (e : ℤ) :
  e + (Format.binary64.exponentBias : ℤ) + (52 : ℕ) = e + 1075
  := by
  simp only [Format.exponentBias]
  norm_num
  omega

/-- A mantissa of 53 bits is packed without its leading one. -/
theorem unpack_pack_of_normal (s : Sign) {m : ℕ} {e : ℤ} (hm : 0 < m) (hbits : m < 2 ^ 53)
    (hnormal : 2 ^ 52 ≤ m) (hleast : -1074 ≤ e) (hsmall : e < 972) :
  UnpackedFloat.unpack Format.binary64 (UnpackedFloat.pack Format.binary64 (.finite s m e hm))
    = .finite s m e hm
  := by
  have hlog : m.log2 = 52 := by
    have hlt := (Nat.log2_lt (Nat.ne_of_gt hm)).mpr hbits
    have hge := (Nat.le_log2 (Nat.ne_of_gt hm)).mpr hnormal
    omega
  have hexponent : (BitVec.ofNat 11 (e + 1075).toNat).toNat = (e + 1075).toNat := by
    rw [BitVec.toNat_ofNat]
    omega
  have hmantissa : 2 ^ 52 + (BitVec.ofNat 52 m).toNat = m := by
    rw [BitVec.toNat_ofNat]
    omega
  simp only [UnpackedFloat.pack, biased_exponent]
  rw [if_neg (by omega), if_pos (by rw [hlog]; rfl), unpack_packComponents, if_neg, if_neg]
  · simp only [toNat_one_append, hexponent, hmantissa]
    congr 1
    omega
  · intro hzero
    have := congrArg BitVec.toNat hzero
    rw [hexponent] at this
    simp at this
    omega
  · apply exponent_ne
    simp
    omega

/-- A mantissa of fewer bits is packed as it is. -/
theorem unpack_pack_of_subnormal (s : Sign) {m : ℕ} (hm : 0 < m) (hsubnormal : m < 2 ^ 52) :
  UnpackedFloat.unpack Format.binary64 (UnpackedFloat.pack Format.binary64 (.finite s m (-1074) hm))
    = .finite s m (-1074) hm
  := by
  have hlog := (Nat.log2_lt (Nat.ne_of_gt hm)).mpr hsubnormal
  have hmantissa : (BitVec.ofNat 52 m).toNat = m := by
    rw [BitVec.toNat_ofNat]
    omega
  have hne : BitVec.ofNat 52 m ≠ 0#_ := by
    intro hzero
    rw [hzero] at hmantissa
    simp at hmantissa
    omega
  have hbits : m.log2 + 1 ≠ Format.binary64.mantissaBits := by
    simp only [Format.mantissaBits]
    omega
  simp only [UnpackedFloat.pack, biased_exponent]
  rw [if_neg (by omega), if_neg hbits, unpack_packComponents, if_neg (by decide), if_pos rfl, dif_neg hne]
  simp only [hmantissa]
  rfl

/-- A float that is packed is unpacked as it was, unless it is too large. -/
theorem unpack_pack_finite (s : Sign) {m : ℕ} {e : ℤ} (hm : 0 < m) (h : IsCanonical m e) :
  (Float.Model.pack (.finite s m e hm)).unpack
    = if 972 ≤ e then .infinity s else .finite s m e hm
  := by
  rw [unpack_pack]
  split
  · rename_i hlarge
    simp only [UnpackedFloat.pack, biased_exponent]
    rw [if_pos (by omega), UnpackedFloat.packedInfinity, unpack_packComponents]
    rfl
  · rename_i hsmall
    by_cases hnormal : 2 ^ 52 ≤ m
    · exact unpack_pack_of_normal s hm h.bits hnormal h.least (Int.not_le.mp hsmall)
    · obtain rfl := h.normal.resolve_left hnormal
      exact unpack_pack_of_subnormal s hm (Nat.lt_of_not_le hnormal)

/-- The mantissa and the exponent of a float are as they should be. -/
theorem isCanonical_of_unpack {x : Float} {s : Sign} {m : ℕ} {e : ℤ} {hm : 0 < m}
    (h : x.toModel.unpack = .finite s m e hm) :
  IsCanonical m e
  := by
  rw [Float.Model.unpack, UnpackedFloat.unpack] at h
  simp only at h
  split at h
  · split at h
    · cases h
    · cases h
  · rename_i hinfinite
    split at h
    · split at h
      · cases h
      · rename_i hzero _
        cases h
        rw [hzero]
        refine ⟨Nat.lt_trans (BitVec.isLt _) (by decide), ?_, .inr ?_⟩
        · decide
        · decide
    · rename_i hzero
      cases h
      generalize @UnpackedFloat.unpackExponent Format.binary64 x.toModel.toBits.toBitVec
        = exponent at *
      generalize @UnpackedFloat.unpackMantissa Format.binary64 x.toModel.toBits.toBitVec
        = mantissa at *
      have hpos : exponent.toNat ≠ 0 := fun h => hzero (BitVec.eq_of_toNat_eq h)
      have hbias : (Format.binary64.exponentBias : ℤ) + (52 : ℕ) = 1075 := by decide
      have hlt : mantissa.toNat < 2 ^ 52 := mantissa.isLt
      rw [hbias, toNat_one_append]
      exact ⟨by omega, by omega, .inl (by omega)⟩

/-! ### Rounding -/

theorem mantissa_shiftRight (em : ExtendedMantissa) (k : ℕ) :
  (em >>> k).mantissa = em.mantissa / 2 ^ k
  := by
  induction k with
  | zero => exact (Nat.div_one _).symm
  | succ k ih =>
      have hstep : (em >>> (k + 1)).mantissa = (em >>> k).mantissa / 2 := rfl
      rw [hstep, ih, Nat.div_div_eq_div_mul, Nat.pow_succ]

theorem le_roundedMantissa (em : ExtendedMantissa) :
  em.mantissa ≤ em.roundedMantissa
  := by
  rcases em with ⟨m, round, sticky⟩
  cases round with
  | false => cases sticky <;> exact Nat.le_refl m
  | true =>
      cases sticky with
      | false => exact Nat.le_add_right m _
      | true => exact Nat.le_add_right m 1

/-- The exponent to which an exact number is rounded. -/
def grid (m : ℕ) (e : ℤ) : ℤ := max (m.log2 + e - 52) (-1074)

theorem targetExponent_eq (m : ℕ) (e : ℤ) :
  Format.binary64.targetExponent (Float.Model.totalExponent m e) = grid m e
  := by
  simp only [Format.targetExponent, Float.Model.totalExponent, Format.mantissaBits,
    Format.minExponent, grid]
  norm_num
  omega

/-- A mantissa with the bits behind the leading 53 ones dropped. -/
def leading (r : ℕ) : ℕ := r / 2 ^ (r.log2 - 52)

/-- How a number is rounded whose exponent is not too large. -/
theorem exists_roundWithAccuracy (s : Sign) {m : ℕ} {e : ℤ} (he : e ≤ grid m e) :
  ∃ r, m / 2 ^ (grid m e - e).toNat ≤ r ∧
    UnpackedFloat.roundWithAccuracy Format.binary64 s m e .exact
      = if h : leading r = 0 then .zero s
        else .finite s (leading r) (grid m e + (r.log2 - 52 : ℕ)) (Nat.pos_of_ne_zero h)
  := by
  let first : ExtendedMantissa := ExtendedMantissa.mk m false false >>> (grid m e - e).toNat
  use first.roundedMantissa
  constructor
  · rw [← mantissa_shiftRight (ExtendedMantissa.mk m false false)]
    apply le_roundedMantissa
  · have hfirst : UnpackedFloat.shiftToTargetExponent Format.binary64 m e .exact
        = (first, grid m e) := by
      rw [UnpackedFloat.shiftToTargetExponent, UnpackedFloat.shiftToExponent, targetExponent_eq]
      have hexponent : e + ((grid m e - e).toNat : ℤ) = grid m e := by omega
      rw [hexponent]
      rfl
    have hsecond : ∀ r, UnpackedFloat.shiftToTargetExponent Format.binary64 r (grid m e) .exact
        = (ExtendedMantissa.mk r false false >>> (r.log2 - 52), grid m e + (r.log2 - 52 : ℕ)) := by
      intro r
      have hshift : (grid r (grid m e) - grid m e).toNat = r.log2 - 52 := by
        simp only [grid]
        omega
      rw [UnpackedFloat.shiftToTargetExponent, UnpackedFloat.shiftToExponent, targetExponent_eq,
        hshift]
      rfl
    rw [UnpackedFloat.roundWithAccuracy, hfirst]
    simp only [hsecond, mantissa_shiftRight]
    rfl

theorem leading_of_log2_le {r : ℕ} (h : r.log2 ≤ 52) :
  leading r = r
  := by
  rw [leading, Nat.sub_eq_zero_of_le h, Nat.pow_zero, Nat.div_one]

theorem leading_bounds {r : ℕ} (h : 52 ≤ r.log2) :
  2 ^ 52 ≤ leading r ∧ leading r < 2 ^ 53
  := by
  have hr : r ≠ 0 := by
    rintro rfl
    simp at h
  have hsplit : r.log2 = 52 + (r.log2 - 52) := by omega
  constructor
  · rw [leading, Nat.le_div_iff_mul_le (Nat.two_pow_pos _), ← Nat.pow_add, ← hsplit]
    apply Nat.log2_self_le hr
  · rw [leading, Nat.div_lt_iff_lt_mul (Nat.two_pow_pos _), ← Nat.pow_add]
    apply Nat.lt_of_lt_of_le Nat.lt_log2_self
    apply Nat.pow_le_pow_right (by decide)
    omega

theorem le_log2_of_le {k n : ℕ} (h : 2 ^ k ≤ n) :
  k ≤ n.log2
  := by
  rw [Nat.le_log2]
  · exact h
  · rintro rfl
    have := Nat.two_pow_pos k
    omega

/-- Where an exact number is not below a float, the float to which it is rounded is not either. -/
theorem exists_round_ge (s : Sign) {m : ℕ} {e : ℤ} (hm : 0 < m) (h : IsCanonical m e) {n : ℕ} {f : ℤ}
    (hf : f ≤ e) (hle : m * 2 ^ (e - f).toNat ≤ n) :
  ∃ m' e' hm', UnpackedFloat.roundWithAccuracy Format.binary64 s n f .exact = .finite s m' e' hm' ∧
    IsCanonical m' e' ∧ (e < e' ∨ e = e' ∧ m ≤ m')
  := by
  have hleast := h.least
  have hgrid : e ≤ grid n f := by
    rcases h.normal with hnormal | hsubnormal
    · have hlog : 52 + (e - f).toNat ≤ n.log2 := by
        apply le_log2_of_le
        rw [Nat.pow_add]
        exact Nat.le_trans (Nat.mul_le_mul_right _ hnormal) hle
      simp only [grid]
      omega
    · simp only [grid]
      omega
  obtain ⟨r, hr, hround⟩ := exists_roundWithAccuracy s (hf.trans hgrid)
  -- a rounded number of 53 bits that has an exponent above that of the float
  have habove : 52 ≤ r.log2 → e < grid n f + (r.log2 - 52 : ℕ) →
      ∃ m' e' hm', UnpackedFloat.roundWithAccuracy Format.binary64 s n f .exact
          = .finite s m' e' hm' ∧ IsCanonical m' e' ∧ (e < e' ∨ e = e' ∧ m ≤ m') := by
    intro hlog hexponent
    obtain ⟨hlow, hhigh⟩ := leading_bounds hlog
    rw [dif_neg (by omega)] at hround
    exact ⟨_, _, _, hround, ⟨hhigh, by omega, .inl hlow⟩, .inl hexponent⟩
  rcases hgrid.lt_or_eq with hlt | heq
  · apply habove _ (by omega)
    apply le_log2_of_le
    -- the exponent is not the least one, so that the mantissa has 53 bits
    have hshift : n.log2 = 52 + (grid n f - f).toNat := by
      simp only [grid] at hlt ⊢
      omega
    apply Nat.le_trans _ hr
    rw [Nat.le_div_iff_mul_le (Nat.two_pow_pos _), ← Nat.pow_add, ← hshift]
    apply Nat.log2_self_le
    rintro rfl
    simp at hshift
    omega
  · rw [← heq] at hr hround habove
    have hmr : m ≤ r := ((Nat.le_div_iff_mul_le (Nat.two_pow_pos _)).mpr hle).trans hr
    by_cases hlog : r.log2 ≤ 52
    · have hsame := leading_of_log2_le hlog
      have hexponent : e + ((r.log2 - 52 : ℕ) : ℤ) = e := by omega
      have hbits : r < 2 ^ 53 := (Nat.log2_lt (by omega)).mp (by omega)
      rw [dif_neg (by omega)] at hround
      simp only [hsame, hexponent] at hround
      refine ⟨r, e, _, hround, ⟨hbits, hleast, ?_⟩, .inr ⟨rfl, hmr⟩⟩
      exact h.normal.imp_left fun hnormal => hnormal.trans hmr
    · apply habove (by omega) (by omega)

/-! ### Amounts -/

/-- What a float that is not negative stands for. -/
inductive IsAmount : UnpackedFloat → Prop where
  | zero (s : Sign) : IsAmount (.zero s)
  | finite (m : ℕ) (e : ℤ) (hm : 0 < m) (h : IsCanonical m e) : IsAmount (.finite .positive m e hm)
  | infinity : IsAmount (.infinity .positive)

theorem unpack_zero :
  (0 : Float).toModel.unpack = .zero .positive
  := rfl

theorem isAmount_of_nonneg {x : Float} (h : 0 ≤ x) :
  IsAmount x.toModel.unpack
  := by
  obtain ⟨-, hnumber, hrank⟩ := le_iff.mp h
  rw [rank, rank, unpack_zero] at hrank
  rw [Float.isNaN, Float.Model.isNaN] at hnumber
  cases hu : x.toModel.unpack with
  | notANumber =>
      rw [hu] at hnumber
      cases hnumber
  | zero s => apply IsAmount.zero
  | infinity s =>
      cases s with
      | positive => apply IsAmount.infinity
      | negative =>
          rw [hu, ← not_lt, Rank.ofUnpacked, Rank.ofUnpacked, Rank.of_lt_of] at hrank
          omega
  | finite s m e hm =>
      cases s with
      | positive => exact .finite m e hm (isCanonical_of_unpack hu)
      | negative =>
          rw [hu, ← not_lt, Rank.ofUnpacked, Rank.ofUnpacked, Rank.of_lt_of] at hrank
          omega

variable {u v : UnpackedFloat}

theorem IsAmount.isNaN (h : IsAmount u) :
  u.isNaN = false
  := by
  cases h with
  | _ => rfl

theorem IsAmount.zero_le (h : IsAmount u) (s : Sign) :
  Rank.ofUnpacked (.zero s) ≤ Rank.ofUnpacked u
  := by
  cases h with
  | zero t => exact le_refl _
  | finite m e hm _ =>
      rw [← not_lt, Rank.ofUnpacked, Rank.ofUnpacked, Rank.of_lt_of]
      omega
  | infinity =>
      rw [← not_lt, Rank.ofUnpacked, Rank.ofUnpacked, Rank.of_lt_of]
      omega

theorem IsAmount.le_infinity (h : IsAmount u) :
  Rank.ofUnpacked u ≤ Rank.ofUnpacked (.infinity .positive)
  := by
  cases h with
  | zero s => exact IsAmount.infinity.zero_le s
  | finite m e hm _ =>
      rw [← not_lt, Rank.ofUnpacked, Rank.ofUnpacked, Rank.of_lt_of]
      omega
  | infinity => exact le_refl _

/-- An amount that is packed does not become less; one that is too large becomes infinite. -/
theorem IsAmount.le_pack (h : IsAmount u) {x : Float} (hx : x.isNaN = false)
    (hle : Rank.ofUnpacked x.toModel.unpack ≤ Rank.ofUnpacked u) :
  x ≤ .ofModel (Float.Model.pack u)
  := by
  rw [le_iff]
  refine ⟨hx, isNaN_pack h.isNaN, hle.trans ?_⟩
  rw [rank]
  cases h with
  | zero s =>
      cases s with
      | _ => decide
  | finite m e hm hcanonical =>
      simp only [unpack_pack_finite _ hm hcanonical]
      split
      · exact (IsAmount.finite m e hm hcanonical).le_infinity
      · exact le_refl _
  | infinity => decide

/-- An exact amount is rounded to one that is no less than a float that it is no less than. -/
theorem isAmount_round {m : ℕ} {e : ℤ} (hm : 0 < m) (h : IsCanonical m e) {n : ℕ} {f : ℤ}
    (hf : f ≤ e) (hle : m * 2 ^ (e - f).toNat ≤ n)
    (hu : u = UnpackedFloat.roundWithAccuracy Format.binary64 .positive n f .exact) :
  IsAmount u ∧ Rank.ofUnpacked (.finite .positive m e hm) ≤ Rank.ofUnpacked u
  := by
  obtain ⟨m', e', hm', hround, hcanonical, hge⟩ := exists_round_ge .positive hm h hf hle
  rw [hu, hround]
  refine ⟨.finite m' e' hm' hcanonical, ?_⟩
  rw [← not_lt, Rank.ofUnpacked, Rank.ofUnpacked, Rank.of_lt_of]
  omega

/-- A positive number is shifted before it is rounded. -/
theorem exists_normalize {n : ℕ} (hn : 0 < n) (e : ℤ) (s : Sign) :
  ∃ k : ℕ, UnpackedFloat.normalize Format.binary64 n e s
    = UnpackedFloat.roundWithAccuracy Format.binary64 .positive (n * 2 ^ k) (e - k) .exact
  := by
  have hpositive : compare (n : ℤ) 0 = .gt := by
    rw [Int.compare_eq_gt]
    omega
  use (e - Format.binary64.targetExponent (Float.Model.totalExponent n e)).toNat
  rw [UnpackedFloat.normalize, hpositive]
  simp only [UnpackedFloat.round, UnpackedFloat.decreaseExponent, Int.toNat_natCast,
    Nat.shiftLeft_eq]

/-- A sum of amounts is an amount, and no less than the first of them. -/
theorem IsAmount.add (hu : IsAmount u) (hv : IsAmount v) :
  IsAmount (UnpackedFloat.add Format.binary64 u v) ∧
    Rank.ofUnpacked u ≤ Rank.ofUnpacked (UnpackedFloat.add Format.binary64 u v)
  := by
  cases hu with
  | zero s =>
      have hsum : IsAmount (UnpackedFloat.add Format.binary64 (.zero s) v) := by
        cases hv with
        | zero t =>
            rw [UnpackedFloat.add]
            split
            · apply IsAmount.zero
            · apply IsAmount.zero
        | finite n f hn h => exact .finite n f hn h
        | infinity => exact .infinity
      exact ⟨hsum, hsum.zero_le s⟩
  | infinity =>
      cases hv with
      | zero t => exact ⟨.infinity, le_refl _⟩
      | finite n f hn h => exact ⟨.infinity, le_refl _⟩
      | infinity => exact ⟨.infinity, le_refl _⟩
  | finite m e hm hcanonical =>
      cases hv with
      | zero t => exact ⟨.finite m e hm hcanonical, le_refl _⟩
      | infinity => exact ⟨.infinity, (IsAmount.finite m e hm hcanonical).le_infinity⟩
      | finite n f hn h =>
          let shifted := m * 2 ^ (e - min e f).toNat
          have hpos : 0 < shifted := Nat.mul_pos hm (Nat.two_pow_pos _)
          obtain ⟨k, hsum⟩ := exists_normalize (n := shifted + n * 2 ^ (f - min e f).toNat)
            (Nat.add_pos_left hpos _) (min e f) .positive
          apply isAmount_round (n := (shifted + n * 2 ^ (f - min e f).toNat) * 2 ^ k)
            (f := min e f - k) hm hcanonical (by omega)
          · -- the mantissa is shifted twice
            have hshift : (e - (min e f - k)).toNat = (e - min e f).toNat + k := by omega
            rw [hshift, Nat.pow_add, ← Nat.mul_assoc]
            exact Nat.mul_le_mul_right _ (Nat.le_add_right _ _)
          · rw [← hsum]
            simp only [UnpackedFloat.add, UnpackedFloat.decreaseExponent, Nat.shiftLeft_eq,
              Sign.apply, shifted]
            norm_cast

/-- A product of an amount and a factor of at least one is an amount, and no less. -/
theorem IsAmount.mul (hu : IsAmount u) {n : ℕ} {f : ℤ} (hn : 0 < n) (hf : f ≤ 0)
    (hone : 2 ^ (-f).toNat ≤ n) :
  IsAmount (UnpackedFloat.mul Format.binary64 u (.finite .positive n f hn)) ∧
    Rank.ofUnpacked u
      ≤ Rank.ofUnpacked (UnpackedFloat.mul Format.binary64 u (.finite .positive n f hn))
  := by
  cases hu with
  | zero s => exact ⟨.zero _, le_refl _⟩
  | infinity => exact ⟨.infinity, le_refl _⟩
  | finite m e hm hcanonical =>
      apply isAmount_round (n := m * n) (f := e + f) hm hcanonical (by omega)
      · have hshift : (e - (e + f)).toNat = (-f).toNat := by omega
        rw [hshift]
        exact Nat.mul_le_mul_left _ hone
      · rfl

/-! ### Floats -/

variable {x y : Float}

/-- A sum of floats that are not negative is no less than the first of them. -/
theorem le_add (hx : 0 ≤ x) (hy : 0 ≤ y) :
  x ≤ x + y
  := by
  obtain ⟨hsum, hle⟩ := (isAmount_of_nonneg hx).add (isAmount_of_nonneg hy)
  exact hsum.le_pack (le_iff.mp hx).2.1 hle

/-- A product of a float that is not negative and a factor of at least one is no less. -/
theorem le_mul (hx : 0 ≤ x) {n : ℕ} {f : ℤ} {hn : 0 < n} (hy : y.toModel.unpack = .finite .positive n f hn)
    (hf : f ≤ 0) (hone : 2 ^ (-f).toNat ≤ n) :
  x ≤ x * y
  := by
  obtain ⟨hproduct, hle⟩ := (isAmount_of_nonneg hx).mul hn hf hone
  have hmul : x * y = .ofModel (Float.Model.pack
      (UnpackedFloat.mul Format.binary64 x.toModel.unpack y.toModel.unpack)) := rfl
  rw [hmul, hy]
  exact hproduct.le_pack (le_iff.mp hx).2.1 hle

theorem unpack_of_isNaN (h : x.isNaN = true) :
  x.toModel.unpack = .notANumber
  := by
  rw [Float.isNaN, Float.Model.isNaN] at h
  cases hu : x.toModel.unpack with
  | notANumber => rfl
  | _ =>
      rw [hu] at h
      cases h

/-- A sum with something that is not a number is not a number. -/
theorem isNaN_add (h : x.isNaN = true ∨ y.isNaN = true) :
  (x + y).isNaN = true
  := by
  have hadd : x + y = .ofModel (Float.Model.pack
      (UnpackedFloat.add Format.binary64 x.toModel.unpack y.toModel.unpack)) := rfl
  have hundefined : UnpackedFloat.add Format.binary64 x.toModel.unpack y.toModel.unpack
      = .notANumber := by
    rcases h with hx | hy
    · rw [unpack_of_isNaN hx]
      rfl
    · rw [unpack_of_isNaN hy]
      cases x.toModel.unpack with
      | _ => rfl
  rw [hadd, hundefined]
  decide

end SnippetProfiler.Quantity
