import SnippetProfiler.Text.Utf8

/-!
# Texts in units of two and four octets

`decode16?` and `decode32?` read octets as UTF-16 and UTF-32.  A unit has its high octets first
or last.  Octets that do not fill a unit are refused, and so is a unit beyond the last
character; half of a surrogate pair on its own gives a replacement character.
-/

namespace SnippetProfiler.Text.Wide

/-- The order of the octets of a unit. -/
inductive Order where
  | highFirst
  | lowFirst
  deriving DecidableEq, Repr

/-- The number that two octets denote. -/
def Order.join : Order → (first second : Nat) → Nat
  | highFirst, a, b => 256 * a + b
  | lowFirst, a, b => 256 * b + a

/-- The units of two octets; none when an octet is left over. -/
def units16? (order : Order) : List Nat → Option (List Nat)
  | [] => some []
  | [_] => none
  | a :: b :: rest => (units16? order rest).map (order.join a b :: ·)

/-- The units of four octets; none when octets are left over. -/
def units32? (order : Order) : List Nat → Option (List Nat)
  | [] => some []
  | a :: b :: c :: d :: rest =>
    let first := order.join a b
    let second := order.join c d
    let unit := match order with
      | .highFirst => 65536 * first + second
      | .lowFirst => 65536 * second + first
    (units32? order rest).map (unit :: ·)
  | _ => none

/-- Whether a number is the first half of a surrogate pair. -/
def isHigh (u : Nat) : Bool := 0xD800 ≤ u && u ≤ 0xDBFF

/-- Whether a number is the second half of a surrogate pair. -/
def isLow (u : Nat) : Bool := 0xDC00 ≤ u && u ≤ 0xDFFF

/-- The character of a unit. -/
def single (u : Nat) : Char := if isHigh u || isLow u then Utf8.replacement else Char.ofNat u

/-- Joins surrogate pairs. -/
def joinPairs : List Nat → List Char
  | [] => []
  | [u] => [single u]
  | u :: v :: rest =>
    if isHigh u && isLow v then
      Char.ofNat (0x10000 + (u - 0xD800) * 0x400 + (v - 0xDC00)) :: joinPairs rest
    else single u :: joinPairs (v :: rest)

/-- Reads octets as UTF-16. -/
def decode16? (order : Order) (octets : List Nat) : Option (List Char) :=
  (units16? order octets).map joinPairs

/-- Reads octets as UTF-32. -/
def decode32? (order : Order) (octets : List Nat) : Option (List Char) :=
  (units32? order octets).bind fun units =>
    if units.all (· < 0x110000) then some (units.map single) else none

end SnippetProfiler.Text.Wide
