import SnippetProfiler.Decimal.Binary

/-!
# Exact sums and powers

`sum` adds floats exactly and rounds once, at the end.  It fails if a partial sum is too
large for a float, and if infinities of both signs are added.  `power?` is a power rounded
once, and fails if that is too large.
-/

namespace SnippetProfiler.Decimal

/-- Why floats cannot be added. -/
inductive SumError where
  | overflow
  | opposedInfinities
  deriving DecidableEq, Repr

/-- The wording of an error. -/
def SumError.message : SumError → String
  | .overflow => "intermediate overflow in fsum"
  | .opposedInfinities => "-inf + inf in fsum"

/-- A sum on its way: the finite part in multiples of `2 ^ (-1074)`, the sum of what is not
finite, and the sum of the infinities. -/
structure PartialSum where
  finite : Int := 0
  special : Float := 0
  infinite : Float := 0

/-- The float nearest to a multiple of `2 ^ (-1074)`, unless that is too large. -/
def ofUnits? (n : Int) : Option Float := nearest? (n < 0) n.natAbs (twoTo 1074)

/-- Adds a float. -/
def PartialSum.add (s : PartialSum) (x : Float) : Except SumError PartialSum :=
  match decompose x with
  | .finite negative m q =>
    let total := s.finite + scaledInt (-1074) negative m q
    if (ofUnits? total).isSome then .ok { s with finite := total } else .error .overflow
  | .infinite _ => .ok ⟨0, s.special + x, s.infinite + x⟩
  | .undefined => .ok ⟨0, s.special + x, s.infinite⟩

/-- Adds floats one after another. -/
def PartialSum.addAll (s : PartialSum) : List Float → Except SumError PartialSum
  | [] => .ok s
  | x :: xs =>
    match s.add x with
    | .error e => .error e
    | .ok t => t.addAll xs

/-- The sum of floats, rounded once. -/
def sum (xs : List Float) : Except SumError Float :=
  match ({} : PartialSum).addAll xs with
  | .error e => .error e
  | .ok s =>
    if s.special == 0 then
      match ofUnits? s.finite with
      | some x => .ok x
      | none => .error .overflow
    else if s.infinite.isNaN then .error .opposedInfinities
    else .ok s.special

/-- The power `x ^ n` for `0 < n`, rounded once. -/
def power? (x : Float) (n : Nat) : Option Float :=
  match decompose x with
  | .undefined => some x
  | .infinite negative => some (if negative && n % 2 = 1 then -infinity else infinity)
  | .finite negative m q =>
    let (num, den) := fraction (Nat.pow m n) (q * n)
    nearest? (negative && n % 2 = 1) num den

end SnippetProfiler.Decimal
