import SnippetProfiler.Decimal.Binary

/-!
# Quantities

Times, durations and what is computed from them.  A run measures floats.  The rules that
sum, compare and order measurements hold for every type with these operations, such as
the rational numbers, where they are exact.
-/

namespace SnippetProfiler

/-- Numbers that can measure time. -/
class Quantity (τ : Type) where
  ofInt : Int → τ
  add : τ → τ → τ
  sub : τ → τ → τ
  mul : τ → τ → τ
  div : τ → τ → τ
  lt : τ → τ → Bool
  /-- Whether a quantity is a number, and so has a place in the order. -/
  isNumber : τ → Bool

namespace Quantity

instance : Quantity Float where
  ofInt := Decimal.ofInt
  add := (· + ·)
  sub := (· - ·)
  mul := (· * ·)
  div := (· / ·)
  lt x y := x < y
  isNumber x := !x.isNaN

instance : Quantity Rat where
  ofInt n := n
  add := (· + ·)
  sub := (· - ·)
  mul := (· * ·)
  div := (· / ·)
  lt x y := x < y
  isNumber _ := true

variable {τ : Type} [Quantity τ]

/-- The quantity zero. -/
def zero : τ := ofInt 0

/-- The later of two times; the first one when neither is later. -/
def later (x y : τ) : τ := if lt x y then y else x

/-- The sum of quantities, added up from left to right. -/
def sum (xs : List τ) : τ := xs.foldl add zero

/-- The sign of a quantity: 1, -1 or 0. -/
def sign (x : τ) : Int := if lt zero x then 1 else if lt x zero then -1 else 0

end Quantity

end SnippetProfiler
