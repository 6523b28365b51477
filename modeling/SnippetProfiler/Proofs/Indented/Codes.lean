import SnippetProfiler.Indented.Literal
import SnippetProfiler.Powers

/-!
# Literals denote codes

All codes that a literal of text denotes are below the first number that is no code.  They are codes of
characters, or have few digits: three octal ones, at most four hexadecimal ones, or eight whose number is
looked at.
-/

namespace SnippetProfiler.Indented.Literal

/-- The first number that is no code. -/
def codeLimit : Nat := 0x110000

variable {c : Char} {n v : Nat} {cs ds : List Char} {codes : List Nat}

theorem toNat_lt (c : Char) :
  c.toNat < codeLimit
  := by
  obtain h | ⟨-, h⟩ := c.valid
  · exact Nat.lt_trans h (by decide)
  · exact h

/-! ### Digits -/

theorem lt_of_hex? (h : hex? c = some n) :
  n < 16
  := by
  rw [hex?] at h
  split at h
  case isTrue hdigit =>
    have hle : c.toNat ≤ 57 := (Char.isDigit_iff_toNat.mp hdigit).2
    have hzero : '0'.toNat = 48 := rfl
    rw [Option.some_inj] at h
    omega
  case isFalse =>
    split at h
    case isTrue hletter =>
      simp only [Bool.and_eq_true, decide_eq_true_eq] at hletter
      have hle : c.toNat ≤ 102 := hletter.2
      have ha : 'a'.toNat = 97 := rfl
      rw [Option.some_inj] at h
      omega
    case isFalse =>
      split at h
      case isTrue hletter =>
        simp only [Bool.and_eq_true, decide_eq_true_eq] at hletter
        have hle : c.toNat ≤ 70 := hletter.2
        have ha : 'A'.toNat = 65 := rfl
        rw [Option.some_inj] at h
        omega
      case isFalse => cases h

theorem le_of_octal? (h : (octal? c).isSome = true) :
  c.toNat - '0'.toNat < 8
  := by
  rw [octal?] at h
  split at h
  case isTrue hdigit =>
    simp only [Bool.and_eq_true, decide_eq_true_eq] at hdigit
    have hle : c.toNat ≤ 55 := hdigit.2
    have hzero : '0'.toNat = 48 := rfl
    omega
  case isFalse => cases h

/-- A hexadecimal digit has four bits. -/
theorem twoTo_hex_succ (width : Nat) :
  twoTo (4 * (width + 1)) = 16 * twoTo (4 * width)
  := by
  rw [Nat.mul_add, Nat.mul_one, twoTo_succ, twoTo_succ, twoTo_succ, twoTo_succ]
  omega

/-- What is no digit stays none. -/
theorem foldl_hex_none (ds : List Char) :
  ds.foldl (fun acc c => acc.bind fun v => (hex? c).map (16 * v + ·)) none = none
  := by
  induction ds with
  | nil => rfl
  | cons c ds ih => exact ih

/-- Each hexadecimal digit makes a number sixteen times as large at most. -/
theorem lt_of_foldl_hex
    (h : ds.foldl (fun acc c => acc.bind fun v => (hex? c).map (16 * v + ·)) (some v) = some n) :
  n < (v + 1) * twoTo (4 * ds.length)
  := by
  induction ds generalizing v with
  | nil =>
      cases h
      rw [List.length_nil, twoTo_zero]
      omega
  | cons c ds ih =>
      rw [List.foldl_cons, Option.bind_some] at h
      cases hdigit : hex? c with
      | none =>
          rw [hdigit, Option.map_none, foldl_hex_none] at h
          cases h
      | some d =>
          rw [hdigit, Option.map_some] at h
          have hlt := ih h
          have hd := lt_of_hex? hdigit
          rw [List.length_cons, twoTo_hex_succ, ← Nat.mul_assoc]
          refine Nat.lt_of_lt_of_le hlt (Nat.mul_le_mul_right _ ?_)
          omega

/-- Each octal digit makes a number eight times as large at most. -/
theorem foldl_octal_lt (h : ∀ c ∈ ds, (octal? c).isSome = true) :
  ds.foldl (fun v c => 8 * v + (c.toNat - '0'.toNat)) v < (v + 1) * twoTo (3 * ds.length)
  := by
  induction ds generalizing v with
  | nil =>
      rw [List.length_nil, twoTo_zero, List.foldl_nil]
      omega
  | cons c ds ih =>
      have hpower : twoTo (3 * (ds.length + 1)) = 8 * twoTo (3 * ds.length) := by
        rw [Nat.mul_add, Nat.mul_one, twoTo_succ, twoTo_succ, twoTo_succ]
        omega
      rw [List.forall_mem_cons] at h
      have hd := le_of_octal? h.1
      rw [List.foldl_cons, List.length_cons, hpower, ← Nat.mul_assoc]
      refine Nat.lt_of_lt_of_le (ih h.2) (Nat.mul_le_mul_right _ ?_)
      omega

theorem lt_of_hexNumber? {width : Nat} (h : hexNumber? width cs = some n) :
  n < twoTo (4 * width)
  := by
  rw [hexNumber?] at h
  split at h
  case isTrue hlength =>
    have hlt := lt_of_foldl_hex h
    rwa [hlength, Nat.zero_add, Nat.one_mul] at hlt
  case isFalse => cases h

theorem octalNumber_lt (cs : List Char) :
  (octalNumber cs).1 < codeLimit
  := by
  have hall : ∀ c ∈ (cs.take 3).takeWhile fun c => (octal? c).isSome, (octal? c).isSome = true :=
    fun c hc => List.all_eq_true.mp List.all_takeWhile c hc
  have hlength : ((cs.take 3).takeWhile fun c => (octal? c).isSome).length ≤ 3 :=
    Nat.le_trans (List.takeWhile_prefix _).length_le (List.length_take_le 3 cs)
  have hle : ∀ k ≤ 3, (0 + 1) * twoTo (3 * k) ≤ codeLimit := by decide
  exact Nat.lt_of_lt_of_le (foldl_octal_lt hall) (hle _ hlength)

theorem lt_of_simple? (h : simple? c = some n) :
  n < codeLimit
  := by
  rw [simple?.eq_def] at h
  split at h
  all_goals cases h
  all_goals decide

/-! ### Escapes -/

theorem forall_mem_singleton (h : n < codeLimit) :
  ∀ m ∈ [n], m < codeLimit
  := by
  rw [List.forall_mem_singleton]
  exact h

/-- A number of few digits is a code. -/
theorem lt_of_mem_map_hexNumber? {width k : Nat} (hwidth : twoTo (4 * width) ≤ codeLimit)
    (h : (hexNumber? width cs).map (fun v => ([v], k)) = some (codes, n)) :
  ∀ m ∈ codes, m < codeLimit
  := by
  obtain ⟨v, hnumber, h⟩ := Option.map_eq_some_iff.mp h
  cases h
  exact forall_mem_singleton (Nat.lt_of_lt_of_le (lt_of_hexNumber? hnumber) hwidth)

theorem lt_of_mem_escape? (h : escape? false cs = some (codes, n)) :
  ∀ m ∈ codes, m < codeLimit
  := by
  rw [escape?.eq_def] at h
  split at h
  case h_1 =>
    cases h
    decide
  case h_2 =>
    cases h
    decide
  case h_3 c rest _ =>
    split at h
    case h_1 code hsimple =>
      cases h
      exact forall_mem_singleton (lt_of_simple? hsimple)
    case h_2 =>
      split at h
      · cases h
        exact forall_mem_singleton (octalNumber_lt _)
      · split at h
        · exact lt_of_mem_map_hexNumber? (by decide) h
        · rw [if_neg Bool.false_ne_true] at h
          split at h
          · exact lt_of_mem_map_hexNumber? (by decide) h
          · split at h
            · obtain ⟨v, -, h⟩ := Option.bind_eq_some_iff.mp h
              split at h
              case isTrue hle =>
                cases h
                exact forall_mem_singleton (Nat.lt_succ_of_le hle)
              case isFalse => cases h
            · split at h
              · split at h
                · dsimp only at h
                  split at h
                  · obtain ⟨d, -, h⟩ := Option.map_eq_some_iff.mp h
                    cases h
                    exact forall_mem_singleton (toNat_lt d)
                  · cases h
                · cases h
              · cases h
                rw [List.forall_mem_cons]
                exact ⟨by decide, forall_mem_singleton (toNat_lt c)⟩

theorem lt_of_mem_unescape {fuel : Nat} (h : unescape false fuel cs = some codes) :
  ∀ m ∈ codes, m < codeLimit
  := by
  induction fuel generalizing cs codes with
  | zero =>
      cases h
      exact fun _ => nofun
  | succ fuel ih =>
      rw [unescape.eq_def] at h
      split at h
      case h_1 hfuel => cases hfuel
      case h_2 =>
        cases h
        exact fun _ => nofun
      case h_3 hfuel =>
        cases hfuel
        obtain ⟨⟨first, n⟩, hescape, h⟩ := Option.bind_eq_some_iff.mp h
        obtain ⟨further, hfurther, rfl⟩ := Option.map_eq_some_iff.mp h
        rw [List.forall_mem_append]
        exact ⟨lt_of_mem_escape? hescape, ih hfurther⟩
      case h_4 hfuel =>
        cases hfuel
        obtain ⟨further, hfurther, rfl⟩ := Option.map_eq_some_iff.mp h
        rw [List.forall_mem_cons]
        exact ⟨toNat_lt _, ih hfurther⟩

/-- What a literal of text denotes is made of codes. -/
theorem lt_of_mem_text? {raw : Bool} (h : text? raw cs = some codes) :
  ∀ m ∈ codes, m < codeLimit
  := by
  rw [text?] at h
  split at h
  · cases h
    rw [List.forall_mem_map]
    exact fun c _ => toNat_lt c
  · exact lt_of_mem_unescape h

end SnippetProfiler.Indented.Literal
