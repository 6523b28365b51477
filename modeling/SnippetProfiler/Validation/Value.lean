import SnippetProfiler.Decimal.Read
import SnippetProfiler.Json.Basic
import SnippetProfiler.Validation.Fault

/-!
# Reading single values

How a data value is taken for a float, an integer, a truth value, a text, a list or one of
some words.  The rules are liberal: a number may be given as a text or a truth value, and
a truth value as a number or one of a few words.  Texts and lists have to be texts and
lists.
-/

namespace SnippetProfiler.Validation

/-! ### Faults as data -/

/-- A step of a path as data. -/
def Step.toJson : Step → Json
  | .key name => .str name
  | .index n => .int n

/-- Faults as data. -/
def faultsJson (faults : List Fault) : Json :=
  Json.list (fun f : Fault =>
    .obj [("loc", Json.list Step.toJson f.path), ("type", .str f.reason.word)]) faults

/-! ### Spaces -/

/-- Whether a character counts as space around a number. -/
def isSpace (c : Char) : Bool :=
  let n := c.toNat
  (0x09 ≤ n && n ≤ 0x0D) || n == 0x20 || n == 0x85 || n == 0xA0 || n == 0x1680
    || (0x2000 ≤ n && n ≤ 0x200A) || n == 0x2028 || n == 0x2029 || n == 0x202F || n == 0x205F
    || n == 0x3000

/-- A text without spaces at its ends. -/
def trim (s : List Char) : List Char :=
  ((s.dropWhile isSpace).reverse.dropWhile isSpace).reverse

/-! ### Low lines -/

/-- Whether a text has two low lines in a row. -/
def hasDoubleLowLine : List Char → Bool
  | '_' :: '_' :: _ => true
  | _ :: cs => hasDoubleLowLine cs
  | [] => false

/-- A text without its low lines.  None of them may be at an end or next to another. -/
def withoutLowLines? (s : List Char) : Option (List Char) :=
  if s.head? = some '_' || s.getLast? = some '_' || hasDoubleLowLine s then none
  else some (s.filter (· ≠ '_'))

/-! ### Floats -/

/-- The float that a text denotes: there may be spaces around it, or low lines in it, but not
both. -/
def readFloat? (s : List Char) : Option Float :=
  (Decimal.readFloat? (trim s)).or ((withoutLowLines? s).bind Decimal.readFloat?)

/-- A float. -/
def float : Json → Checked Float
  | .float x => .valid x
  | .int n => match Decimal.ofInt? n with
    | some x => .valid x
    | none => .fault .floatType
  | .bool b => .valid (if b then 1 else 0)
  | .str s => match readFloat? s.toList with
    | some x => .valid x
    | none => .fault .floatUnreadable
  | _ => .fault .floatType

/-- A float greater than zero. -/
def positive (v : Json) : Checked Float :=
  (float v).andThen fun x => if 0 < x then .valid x else .fault .notGreater

/-! ### Integers -/

/-- An integer that follows leading zeros and low lines, from its minus sign or first digit other
than zero on.  Zeros alone are the last one of them, and a point keeps the character before
it. -/
def afterZeros? (previous : Char) : List Char → Option (List Char)
  | [] => some [previous]
  | c :: cs =>
    if c = '0' || c = '_' then afterZeros? c cs
    else if c = '-' || ('1' ≤ c && c ≤ '9') then some (c :: cs)
    else if c = '.' then some (previous :: c :: cs)
    else none

/-- An unsigned integer without its leading zeros. -/
def withoutZeros? : List Char → Option (List Char)
  | '0' :: cs => afterZeros? '0' cs
  | c :: cs => if '1' ≤ c && c ≤ '9' then some (c :: cs) else none
  | [] => none

/-- A number without its fraction, if that is all zeros. -/
def withoutZeroFraction (s : List Char) : List Char :=
  let fraction := (s.dropWhile (· ≠ '.')).drop 1
  if fraction ≠ [] && fraction.all (· = '0') then s.takeWhile (· ≠ '.') else s

/-- An integer as it is written plainly, with a minus sign if it is negative: without spaces around
it, a plus sign, leading zeros, a fraction of zeros and low lines. -/
def plainInteger? (s : List Char) : Option (List Char) :=
  let (negative, body) := Decimal.takeSign (trim s)
  (withoutZeros? body).map fun digits =>
    let digits := withoutZeroFraction digits
    let digits := (withoutLowLines? digits).getD digits
    if negative then '-' :: digits else digits

/-- The most characters of a plain integer that are read. -/
def lengthLimit : Nat := 4300

/-- The integer that digits after a sign denote; there may be no zero in front of others. -/
def readDigits (sign digits : List Char) : Checked Int :=
  let leading := digits.takeWhile Char.isDigit
  if leading.head? ≠ some '0' && lengthLimit < sign.length + leading.length then
    .fault .intTooLong
  else if digits.isEmpty || leading ≠ digits || (digits.head? = some '0' && digits.length ≠ 1) then
    .fault .intUnreadable
  else
    let n : Int := Decimal.ofDigits digits
    .valid (if sign.isEmpty then n else -n)

/-- The integer that a text denotes. -/
def readInteger (s : List Char) : Checked Int :=
  match plainInteger? s with
  | some ('-' :: digits) => readDigits ['-'] digits
  | some digits => readDigits [] digits
  | none => .fault .intUnreadable

/-- The integer that a float is; it has to lie strictly between the bounds of 64 bits. -/
def wholeFloat (x : Float) : Checked Int :=
  if !Decimal.isFinite x then .fault .intNotFinite
  else match Decimal.toInt? x with
    | none => .fault .intHasFraction
    | some n => if n.natAbs < twoTo 63 then .valid n else .fault .intTooLong

/-- An integer. -/
def int : Json → Checked Int
  | .int n => .valid n
  | .bool b => .valid (if b then 1 else 0)
  | .float x => wholeFloat x
  | .str s => readInteger s.toList
  | _ => .fault .intType

/-! ### Truth values and texts -/

/-- The words for false. -/
def falseWords : List String := ["0", "off", "f", "false", "n", "no"]

/-- The words for true. -/
def trueWords : List String := ["1", "on", "t", "true", "y", "yes"]

/-- The truth value that an integer stands for. -/
def truthOf (n : Int) : Checked Bool :=
  if n = 0 then .valid false else if n = 1 then .valid true else .fault .boolUnreadable

/-- A truth value.  A number must be an integer of 64 bits to be considered. -/
def bool : Json → Checked Bool
  | .bool b => .valid b
  | .int n => if -(twoTo 63 : Int) ≤ n && n < (twoTo 63 : Int) then truthOf n else .fault .boolType
  | .float x => match wholeFloat x with
    | .valid n => truthOf n
    | .faulty _ => .fault .boolType
  | .str s =>
    let word := String.ofList (s.toList.map Char.toLower)
    if falseWords.contains word then .valid false
    else if trueWords.contains word then .valid true
    else .fault .boolUnreadable
  | _ => .fault .boolType

/-- A text. -/
def string : Json → Checked String
  | .str s => .valid s
  | _ => .fault .stringType

/-- The text `word`. -/
def literal (word : String) : Json → Checked Unit
  | .str s => if s = word then .valid () else .fault .notTheLiteral
  | _ => .fault .notTheLiteral

/-! ### Lists and alternatives -/

/-- The items of a list from an index on. -/
def items {α : Type} (read : Json → Checked α) (index : Nat) : List Json → Checked (List α)
  | [] => .valid []
  | v :: vs => ((read v).under (.index index)).map List.cons |>.apply (items read (index + 1) vs)

/-- A list. -/
def list {α : Type} (read : Json → Checked α) : Json → Checked (List α)
  | .arr vs => items read 0 vs
  | _ => .fault .listType

/-- A value or null. -/
def nullable {α : Type} (read : Json → Checked α) : Json → Checked (Option α)
  | .null => .valid none
  | v => (read v).map some

end SnippetProfiler.Validation
