/-!
# Reading octets as text

`decode` reads octets as UTF-8.  Where they are not well formed, each longest
run of octets that begins a character, or else a single octet, gives one
replacement character.
-/

namespace SnippetProfiler.Text.Utf8

/-- How many octets must follow a first octet, and the range of the second.
`none` when no character starts with the octet. -/
def following (b : Nat) : Option (Nat × Nat × Nat) :=
  if b < 0x80 then some (0, 0x80, 0xBF)
  else if b < 0xC2 then none
  else if b ≤ 0xDF then some (1, 0x80, 0xBF)
  else if b = 0xE0 then some (2, 0xA0, 0xBF)
  else if b = 0xED then some (2, 0x80, 0x9F)
  else if b ≤ 0xEF then some (2, 0x80, 0xBF)
  else if b = 0xF0 then some (3, 0x90, 0xBF)
  else if b ≤ 0xF3 then some (3, 0x80, 0xBF)
  else if b = 0xF4 then some (3, 0x80, 0x8F)
  else none

/-- The bits of the code point that a first octet holds. -/
def firstBits (b : Nat) : Nat :=
  if b < 0x80 then b else if b < 0xE0 then b % 32 else if b < 0xF0 then b % 16 else b % 8

/-- The character that stands for octets that are not well formed. -/
def replacement : Char := '\uFFFD'

/-- Reads octets with `owed` octets of the current character outstanding, the
next of them between `low` and `high`, and its bits so far in `bits`. -/
def decodeFrom : List Nat → (owed low high bits : Nat) → List Char
  | [], owed, _, _, _ => if owed = 0 then [] else [replacement]
  | b :: bs, owed, low, high, bits =>
    let start (emitted : List Char) : List Char :=
      match following b with
      | none => emitted ++ replacement :: decodeFrom bs 0 0x80 0xBF 0
      | some (0, _, _) => emitted ++ Char.ofNat b :: decodeFrom bs 0 0x80 0xBF 0
      | some (n + 1, lo, hi) => emitted ++ decodeFrom bs (n + 1) lo hi (firstBits b)
    match owed with
    | 0 => start []
    | n + 1 =>
      if low ≤ b && b ≤ high then
        let whole := 64 * bits + b % 64
        match n with
        | 0 => Char.ofNat whole :: decodeFrom bs 0 0x80 0xBF 0
        | m + 1 => decodeFrom bs (m + 1) 0x80 0xBF whole
      else start [replacement]

/-- The text of a list of octets. -/
def decode (octets : List Nat) : List Char := decodeFrom octets 0 0x80 0xBF 0

/-- The octets of a string. -/
def encode (s : String) : List Nat := s.toUTF8.toList.map UInt8.toNat

/-- How many octets a character takes. -/
def size (c : Char) : Nat := c.utf8Size

end SnippetProfiler.Text.Utf8
