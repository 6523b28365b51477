import SnippetProfiler.Text.Names

/-!
# The insides of literals

What a literal denotes, given the characters between its marks.  A raw literal
denotes these characters.  In any other literal a backslash and what follows it
stand for one character, or for nothing in front of a line break; a backslash that
starts no escape stands for itself.
-/

namespace SnippetProfiler.Indented.Literal

/-- The digit of an octal character. -/
def octal? (c : Char) : Option Nat :=
  if '0' ≤ c && c ≤ '7' then some (c.toNat - '0'.toNat) else none

/-- The digit of a hexadecimal character. -/
def hex? (c : Char) : Option Nat :=
  if c.isDigit then some (c.toNat - '0'.toNat)
  else if 'a' ≤ c && c ≤ 'f' then some (c.toNat - 'a'.toNat + 10)
  else if 'A' ≤ c && c ≤ 'F' then some (c.toNat - 'A'.toNat + 10)
  else none

/-- The number that the first `n` characters denote in hexadecimal, all of which must
be digits. -/
def hexNumber? (n : Nat) (cs : List Char) : Option Nat :=
  let ds := cs.take n
  if ds.length = n then
    ds.foldl (fun acc c => acc.bind fun v => (hex? c).map (16 * v + ·)) (some 0)
  else none

/-- The code of a character that one letter denotes behind a backslash. -/
def simple? : Char → Option Nat
  | '\\' => some 0x5C
  | '\'' => some 0x27
  | '"' => some 0x22
  | 'a' => some 7
  | 'b' => some 8
  | 'f' => some 12
  | 'n' => some 10
  | 'r' => some 13
  | 't' => some 9
  | 'v' => some 11
  | _ => none

/-- The number that up to three octal digits denote. -/
def octalNumber (cs : List Char) : Nat × Nat :=
  let ds := (cs.take 3).takeWhile fun c => (octal? c).isSome
  (ds.foldl (fun v c => 8 * v + (c.toNat - '0'.toNat)) 0, ds.length)

/-- What an escape denotes, given the characters behind the backslash: the codes, and
how many of the characters belong to the escape. -/
def escape? (octets : Bool) (cs : List Char) : Option (List Nat × Nat) :=
  match cs with
  | [] => some ([0x5C], 0)
  | '\n' :: _ => some ([], 1)
  | c :: rest =>
    if let some code := simple? c then some ([code], 1)
    else if (octal? c).isSome then
      let (v, n) := octalNumber cs
      some ([if octets then v % 256 else v], n)
    else if c = 'x' then (hexNumber? 2 rest).map fun v => ([v], 3)
    else if octets then some ([0x5C, c.toNat], 1)
    else if c = 'u' then (hexNumber? 4 rest).map fun v => ([v], 5)
    else if c = 'U' then
      (hexNumber? 8 rest).bind fun v => if v ≤ 0x10FFFF then some ([v], 9) else none
    else if c = 'N' then
      match rest with
      | '{' :: r =>
        let name := r.takeWhile (· != '}')
        if name.length < r.length then
          (Text.named? name).map fun c => ([c.toNat], name.length + 3)
        else none
      | _ => none
    else some ([0x5C, c.toNat], 1)

/-- The codes that characters denote when escapes are read. -/
def unescape (octets : Bool) : (fuel : Nat) → List Char → Option (List Nat)
  | 0, _ => some []
  | _ + 1, [] => some []
  | fuel + 1, '\\' :: cs => do
    let (codes, n) ← escape? octets cs
    (unescape octets fuel (cs.drop n)).map (codes ++ ·)
  | fuel + 1, c :: cs => (unescape octets fuel cs).map (c.toNat :: ·)

/-- The codes of a text between its marks. -/
def text? (raw : Bool) (body : List Char) : Option (List Nat) :=
  if raw then some (body.map Char.toNat) else unescape false (body.length + 1) body

/-- The octets of a literal of octets between its marks, which must be ASCII. -/
def octets? (raw : Bool) (body : List Char) : Option (List Nat) :=
  if body.all (fun c => c.toNat < 128) then
    if raw then some (body.map Char.toNat) else unescape true (body.length + 1) body
  else none

end SnippetProfiler.Indented.Literal
