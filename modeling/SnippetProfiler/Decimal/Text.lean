import SnippetProfiler.Decimal.Binary

/-!
# Decimal text of floats

`shortest` finds the fewest decimal digits that round back to a float, and among
those the digits nearest to it.  A `Notation` lays digits out: between which
exponents they are written positionally, and how the exponent is written
otherwise.  `fixed` rounds to a number of places and `significant` to a number of
digits, both from the exact value of the float, a tie going to the even digit.
-/

namespace SnippetProfiler.Decimal

/-- The digits of a natural number. -/
def digits (n : Nat) : List Char := Nat.toDigits 10 n

/-- The digits of an integer. -/
def integer (n : Int) : String :=
  if n < 0 then .ofList ('-' :: digits n.natAbs) else .ofList (digits n.natAbs)

/-- The exponent `e` with `10 ^ (e - 1) ≤ num / den < 10 ^ e`, for positive `num`. -/
def magnitude (num den : Nat) : Int :=
  -- a first guess from the number of digits, off by at most one
  let guess : Int := ((digits num).length : Int) - (digits den).length
  let below (e : Int) : Bool :=
    if e < 0 then num * tenTo (-e).toNat < den else num < den * tenTo e.toNat
  if below guess then guess else guess + 1

/-- The quotient `num / den` in units of `10 ^ e`, as a quotient. -/
def inUnits (num den : Nat) (e : Int) : Nat × Nat :=
  if e < 0 then (num * tenTo (-e).toNat, den) else (num, den * tenTo e.toNat)

/-- Significant digits `n` with the exponent `e` of the position behind the last
of them: the number is `n · 10 ^ e`. -/
structure Scaled where
  digits : Nat
  exponent : Int
  deriving DecidableEq, Repr

/-- Searches the grids of `count, count + 1, …` digits for a point strictly between
`low` and `high`, or equal to one of them when `closed` holds; all bounds are in
quarters of the last binary place, over the denominator `den`. -/
def shortestFrom (value low high den : Nat) (closed : Bool) (top : Int) :
    (fuel count : Nat) → Scaled
  | 0, _ => ⟨0, 0⟩
  | fuel + 1, count =>
    let e := top - count
    let (v, d) := inUnits value den e
    let (lo, _) := inUnits low den e
    let (hi, _) := inUnits high den e
    let inside (n : Nat) : Bool :=
      if closed then lo ≤ n * d && n * d ≤ hi else lo < n * d && n * d < hi
    let down := v / d
    let up := down + 1
    match inside down && down != 0, inside up with
    | true, true =>
      let r := v % d
      if 2 * r < d then ⟨down, e⟩
      else if d < 2 * r then ⟨up, e⟩
      else if down % 2 = 0 then ⟨down, e⟩ else ⟨up, e⟩
    | true, false => ⟨down, e⟩
    | false, true => ⟨up, e⟩
    | false, false => shortestFrom value low high den closed top fuel (count + 1)

/-- The fewest digits that read back as `m · 2 ^ q`, for positive `m`. -/
def shortest (m : Nat) (q : Int) : Scaled :=
  let narrow := m = twoTo 52 && -1074 < q
  let value := 4 * m
  let low := if narrow then 4 * m - 1 else 4 * m - 2
  let high := 4 * m + 2
  let (unit, den) := fraction 1 (q - 2)
  let top := magnitude (value * unit) den
  shortestFrom (value * unit) (low * unit) (high * unit) den (m % 2 = 0) top 18 1

/-- Takes zeros off the end of the digits. -/
def Scaled.trim : (fuel : Nat) → Scaled → Scaled
  | 0, s => s
  | fuel + 1, s =>
    if s.digits ≠ 0 && s.digits % 10 = 0 then trim fuel ⟨s.digits / 10, s.exponent + 1⟩ else s

/-- How the digits of a float are laid out. -/
structure Layout where
  /-- The least decimal exponent of a number that is written positionally. -/
  least : Int
  /-- The greatest decimal exponent of a number that is written positionally. -/
  greatest : Int
  /-- Whether an integral number keeps a fraction of one zero. -/
  keepsFraction : Bool
  /-- The least number of digits of an exponent. -/
  exponentWidth : Nat
  /-- Whether a negative zero keeps its sign. -/
  signsZero : Bool
  /-- The text of positive infinity. -/
  infinite : String
  /-- The text of the undefined value. -/
  undefined : String

/-- Digits with a point after the first `place` of them. -/
def positional (ds : List Char) (place : Int) (keepsFraction : Bool) : List Char :=
  if place ≤ 0 then '0' :: '.' :: List.replicate (-place).toNat '0' ++ ds
  else
    let n := place.toNat
    if n < ds.length then ds.take n ++ '.' :: ds.drop n
    else ds ++ List.replicate (n - ds.length) '0' ++ (if keepsFraction then ['.', '0'] else [])

/-- Digits with a point after the first of them and an exponent. -/
def scientific (ds : List Char) (e : Int) (width : Nat) : List Char :=
  let es := digits e.natAbs
  ds.take 1 ++ (if ds.length ≤ 1 then [] else '.' :: ds.drop 1)
    ++ 'e' :: (if e < 0 then '-' else '+') :: List.replicate (width - es.length) '0' ++ es

/-- Lays out positive digits. -/
def Layout.place (layout : Layout) (s : Scaled) : List Char :=
  let ds := digits s.digits
  let e := s.exponent + ds.length - 1
  if layout.least ≤ e && e ≤ layout.greatest then positional ds (e + 1) layout.keepsFraction
  else scientific ds e layout.exponentWidth

/-- A sign in front of a text. -/
def signed (negative : Bool) (s : List Char) : List Char := if negative then '-' :: s else s

/-- The text of a float in a layout. -/
def Layout.write (layout : Layout) (x : Float) : String :=
  match decompose x with
  | .undefined => layout.undefined
  | .infinite negative => if negative then "-" ++ layout.infinite else layout.infinite
  | .finite negative 0 _ =>
    .ofList (signed (negative && layout.signsZero) (if layout.keepsFraction then ['0', '.', '0'] else ['0']))
  | .finite negative m q => .ofList (signed negative (layout.place ((shortest m q).trim 20)))

/-- A nonnegative quotient with a fixed number of places. -/
def fixedQuotient (places num den : Nat) : List Char :=
  let n := roundDiv (num * tenTo places) den
  let ds := digits n
  let ds := List.replicate (places + 1 - ds.length) '0' ++ ds
  let whole := ds.take (ds.length - places)
  if places = 0 then whole else whole ++ '.' :: ds.drop (ds.length - places)

/-- A float with a fixed number of places, rounded from its exact value. -/
def fixed (places : Nat) (x : Float) : String :=
  match decompose x with
  | .undefined => "nan"
  | .infinite negative => if negative then "-inf" else "inf"
  | .finite negative m q =>
    let (num, den) := fraction m q
    .ofList (signed negative (fixedQuotient places num den))

/-- The float nearest to a float rounded to a number of places. -/
def roundPlaces (places : Nat) (x : Float) : Float :=
  match decompose x with
  | .finite negative m q =>
    let (num, den) := fraction m q
    nearest negative (roundDiv (num * tenTo places) den) (tenTo places)
  | _ => x

/-- The number `num / den > 0` rounded to `count` significant digits. -/
def toSignificant (count num den : Nat) : Scaled :=
  let top := magnitude num den
  let (v, d) := inUnits num den (top - count)
  ⟨roundDiv v d, top - count⟩

/-- A float with at most `count` significant digits and no closing zeros. -/
def significant (count : Nat) (x : Float) : String :=
  match decompose x with
  | .undefined => "nan"
  | .infinite negative => if negative then "-inf" else "inf"
  | .finite negative 0 _ => .ofList (signed negative ['0'])
  | .finite negative m q =>
    let (num, den) := fraction m q
    let layout : Layout := ⟨-4, (count : Int) - 1, false, 2, true, "inf", "nan"⟩
    .ofList (signed negative (layout.place ((toSignificant count num den).trim count)))

/-- Floats in data and in answers: positional from `1e-4` up to `1e16`. -/
def dataLayout : Layout := ⟨-4, 15, true, 2, true, "inf", "nan"⟩

/-- Numbers of a script: positional from `1e-6` up to `1e21`, no fraction when
integral. -/
def scriptLayout : Layout := ⟨-6, 20, false, 1, false, "Infinity", "NaN"⟩

end SnippetProfiler.Decimal
