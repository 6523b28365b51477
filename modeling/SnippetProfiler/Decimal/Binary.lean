import SnippetProfiler.Powers

/-!
# Floats as exact numbers

A finite float is `± m · 2 ^ q` for a natural number `m` and an integer `q`.
`decompose` reads the three parts from the bits, `nearest` rounds a positive
quotient of natural numbers to the closest float, a tie going to the even one, and
`sum` adds a list of floats exactly and rounds once.
-/

namespace SnippetProfiler.Decimal

/-- A float taken apart: not a number, an infinity, or `± mantissa · 2 ^ exponent`. -/
inductive Parts where
  | undefined
  | infinite (negative : Bool)
  | finite (negative : Bool) (mantissa : Nat) (exponent : Int)
  deriving DecidableEq, Repr

/-- The parts of a float. -/
def decompose (x : Float) : Parts :=
  let bits : Nat := x.toBits.toNat
  let negative := bits / twoTo 63 == 1
  let e : Nat := bits / twoTo 52 % twoTo 11
  let f : Nat := bits % twoTo 52
  if e = 2047 then if f = 0 then .infinite negative else .undefined
  else if e = 0 then .finite negative f (-1074)
  else .finite negative (twoTo 52 + f) ((e : Int) - 1075)

/-- The numerator and denominator of `m · 2 ^ q`. -/
def fraction (m : Nat) (q : Int) : Nat × Nat :=
  if q < 0 then (m, twoTo (-q).toNat) else (m * twoTo q.toNat, 1)

/-- The quotient of two natural numbers rounded to the nearest one, a tie to the
even one. -/
def roundDiv (num den : Nat) : Nat :=
  let q := num / den
  let r := num % den
  if 2 * r < den then q else if den < 2 * r then q + 1 else q + q % 2

/-- The largest `k ≥ 0` with `2 ^ k ≤ n`, and 0 for 0. -/
def log2 (n : Nat) : Nat := Nat.log2 n

/-- The float of `m · 2 ^ q` for an `m` of at most 53 bits that needs no rounding;
`none` when it is too large. -/
def assemble? (negative : Bool) (m : Nat) (q : Int) : Option Float :=
  let sign := if negative then twoTo 63 else 0
  let (m, q) := if twoTo 53 ≤ m then (m / 2, q + 1) else (m, q)
  if m < twoTo 52 then some (.ofBits (UInt64.ofNat (sign + m)))
  else
    let e := (q + 1075).toNat
    if 2047 ≤ e then none
    else some (.ofBits (UInt64.ofNat (sign + e * twoTo 52 + (m - twoTo 52))))

/-- The float nearest to `± num / den`, a tie going to the even mantissa; `none`
when the quotient rounds beyond the largest float. -/
def nearest? (negative : Bool) (num den : Nat) : Option Float :=
  if num = 0 then assemble? negative 0 (-1074)
  else
    -- `2 ^ (k - 1) < num / den < 2 ^ (k + 1)`
    let k : Int := (log2 num : Int) - (log2 den : Int)
    let q := max (k - 53) (-1074)
    let scaled (q : Int) : Nat :=
      if q < 0 then roundDiv (num * twoTo (-q).toNat) den else roundDiv num (den * twoTo q.toNat)
    let m := scaled q
    -- a mantissa of 54 bits is rounded again from the quotient with one bit less
    if twoTo 53 < m then
      assemble? negative (scaled (q + 1)) (q + 1)
    else assemble? negative m q

/-- Positive infinity. -/
def infinity : Float := .ofBits 0x7FF0000000000000

/-- The value that is no number. -/
def undefinedValue : Float := .ofBits 0x7FF8000000000000

/-- The float nearest to `± num / den`, an infinity when that is too large. -/
def nearest (negative : Bool) (num den : Nat) : Float :=
  (nearest? negative num den).getD (if negative then -infinity else infinity)

/-- The float nearest to an integer, `none` when that is too large. -/
def ofInt? (n : Int) : Option Float := nearest? (n < 0) n.natAbs 1

/-- The float nearest to an integer. -/
def ofInt (n : Int) : Float := nearest (n < 0) n.natAbs 1

/-- The integer that a float is, if it is one. -/
def toInt? (x : Float) : Option Int :=
  match decompose x with
  | .finite negative m q =>
    let (num, den) := fraction m q
    if num % den = 0 then some (if negative then -(num / den : Nat) else (num / den : Nat)) else none
  | _ => none

/-- The largest integer that is not above a float; none if the float is not finite. -/
def floor? (x : Float) : Option Int :=
  match decompose x with
  | .finite negative m q =>
    let (num, den) := fraction m q
    some ((if negative then -(num : Int) else num) / (den : Int))
  | _ => none

/-- Whether a float is neither infinite nor undefined. -/
def isFinite (x : Float) : Bool :=
  match decompose x with
  | .finite .. => true
  | _ => false

/-- The signed integer `± m · 2 ^ (q - low)` of a finite float, for `low ≤ q`. -/
def scaledInt (low : Int) (negative : Bool) (m : Nat) (q : Int) : Int :=
  let n : Nat := m * twoTo (q - low).toNat
  if negative then -(n : Int) else n

/-- The exact sum of finite floats as a multiple of `2 ^ (-1074)`; `none` when one
of them is not finite. -/
def exactSum : List Float → Option Int
  | [] => some 0
  | x :: xs =>
    match decompose x, exactSum xs with
    | .finite negative m q, some total => some (scaledInt (-1074) negative m q + total)
    | _, _ => none

end SnippetProfiler.Decimal
