import SnippetProfiler.Decimal.Text

/-!
# Reading decimals

`ofDecimal` is the float nearest to a decimal given by its digits and exponent.
`readFloat?` reads a float: a sign, digits with a fraction and an exponent, or one of the words
for infinity and the undefined value.  `joinDigits?` allows for low lines between digits.
-/

namespace SnippetProfiler.Decimal

/-- The number that decimal digits denote. -/
def ofDigits (ds : List Char) : Nat :=
  ds.foldl (fun n c => 10 * n + (c.toNat - '0'.toNat)) 0

/-- The float nearest to `± n · 10 ^ e`. -/
def ofDecimal (negative : Bool) (n : Nat) (e : Int) : Float :=
  let size : Int := (digits n).length + e
  if n = 0 || size < -400 then nearest negative 0 1
  else if 400 < size then nearest negative (twoTo 2000) 1
  else if e < 0 then nearest negative n (tenTo (-e).toNat)
  else nearest negative (n * tenTo e.toNat) 1

/-- Splits a sign off a text; no sign is a plus. -/
def takeSign : List Char → Bool × List Char
  | '-' :: cs => (true, cs)
  | '+' :: cs => (false, cs)
  | cs => (false, cs)

/-- Removes the low lines of a number: each must stand between two digits. -/
def joinDigits? : (afterDigit : Bool) → List Char → Option (List Char)
  | _, [] => some []
  | afterDigit, '_' :: cs =>
    match cs with
    | d :: _ => if afterDigit && d.isDigit then joinDigits? false cs else none
    | [] => none
  | _, c :: cs => (joinDigits? c.isDigit cs).map (c :: ·)

/-- Reads the exponent of a number, `e` and digits with an optional sign. -/
def readExponent? : List Char → Option Int
  | [] => some 0
  | c :: cs =>
    if c = 'e' || c = 'E' then
      let (negative, ds) := takeSign cs
      if ds.isEmpty || !ds.all Char.isDigit then none
      else some (if negative then -(ofDigits ds : Int) else ofDigits ds)
    else none

/-- Reads digits with an optional fraction and exponent. -/
def readUnsigned? (negative : Bool) (cs : List Char) : Option Float :=
  let whole := cs.takeWhile Char.isDigit
  let rest := cs.dropWhile Char.isDigit
  let (fraction, rest) := match rest with
    | '.' :: rs => (rs.takeWhile Char.isDigit, rs.dropWhile Char.isDigit)
    | rs => ([], rs)
  if whole.isEmpty && fraction.isEmpty then none
  else (readExponent? rest).map fun e =>
    ofDecimal negative (ofDigits (whole ++ fraction)) (e - fraction.length)

/-- The float that a text without blanks and low lines denotes. -/
def readFloat? (cs : List Char) : Option Float :=
  let (negative, body) := takeSign cs
  let word := String.ofList (body.map Char.toLower)
  if word = "inf" || word = "infinity" then some (if negative then -infinity else infinity)
  else if word = "nan" then some undefinedValue
  else readUnsigned? negative body

/-- The float that a text without blanks denotes, in which single low lines may stand between
digits. -/
def readSpacedFloat? (cs : List Char) : Option Float := (joinDigits? false cs).bind readFloat?

end SnippetProfiler.Decimal
