import SnippetProfiler.Json.Basic
import SnippetProfiler.Decimal.Read

/-!
# Reading data values

`Json.parse` reads a text that holds one value, with the three words for numbers
that are not finite, and refuses any other text with the first cause met from left
to right and the place of that cause.  Of two equal keys of an object the later
one counts.
-/

namespace SnippetProfiler.Json

/-- Why a text is not a value. -/
inductive Fault where
  | value
  | propertyName
  | colon
  | comma
  | extraData
  | unterminatedString
  | controlCharacter
  | escape
  | codeEscape
  | byteOrderMark
  deriving DecidableEq, Repr

/-- A fault and its place in the text, an integer with too many digits, or lists and objects
that are nested too deeply. -/
inductive ReadError where
  | fault (cause : Fault) (position : Nat)
  | tooManyDigits (count : Nat)
  | tooDeep (kind : String)
  deriving DecidableEq, Repr

/-- The words for a fault. -/
def Fault.message : Fault → String
  | .value => "Expecting value"
  | .propertyName => "Expecting property name enclosed in double quotes"
  | .colon => "Expecting ':' delimiter"
  | .comma => "Expecting ',' delimiter"
  | .extraData => "Extra data"
  | .unterminatedString => "Unterminated string starting at"
  | .controlCharacter => "Invalid control character at"
  | .escape => "Invalid \\escape"
  | .codeEscape => "Invalid \\uXXXX escape"
  | .byteOrderMark => "Unexpected UTF-8 BOM (decode using utf-8-sig)"

/-- The line of a position, from 1. -/
def lineOf (text : List Char) (position : Nat) : Nat := (text.take position).count '\n' + 1

/-- The column of a position within its line, from 1. -/
def columnOf (text : List Char) (position : Nat) : Nat :=
  ((text.take position).reverse.takeWhile (· != '\n')).length + 1

/-- The words for a failure to read `text`. -/
def ReadError.message (text : List Char) : ReadError → String
  | .fault cause position =>
    cause.message ++ ": line " ++ Decimal.integer (lineOf text position) ++ " column "
      ++ Decimal.integer (columnOf text position) ++ " (char " ++ Decimal.integer position ++ ")"
  | .tooManyDigits count =>
    "Exceeds the limit (4300 digits) for integer string conversion: value has "
      ++ Decimal.integer count
      ++ " digits; use sys.set_int_max_str_digits() to increase the limit"
  | .tooDeep kind =>
    "maximum recursion depth exceeded while decoding a JSON " ++ kind ++ " from a unicode string"

/-- What is left of a text, and how many characters stand before it. -/
structure Cursor where
  rest : List Char
  position : Nat

namespace Cursor

/-- Fails at a position. -/
def fail {α : Type} (cause : Fault) (position : Nat) : Except ReadError α :=
  .error (.fault cause position)

/-- Moves behind the first `n` characters. -/
def skip (c : Cursor) (n : Nat) : Cursor := ⟨c.rest.drop n, c.position + n⟩

/-- Whether a character may stand between the parts of a value. -/
def isSpace (c : Char) : Bool := c = ' ' || c = '\t' || c = '\n' || c = '\r'

/-- Moves behind white space. -/
def spaces (c : Cursor) : Cursor := c.skip (c.rest.takeWhile isSpace).length

/-- Whether a text stands next. -/
def looksAt (c : Cursor) (text : String) : Bool := text.toList.isPrefixOf c.rest

end Cursor

/-- The digit of a hexadecimal character. -/
def hexValue? (c : Char) : Option Nat :=
  if c.isDigit then some (c.toNat - '0'.toNat)
  else if 'a' ≤ c && c ≤ 'f' then some (c.toNat - 'a'.toNat + 10)
  else if 'A' ≤ c && c ≤ 'F' then some (c.toNat - 'A'.toNat + 10)
  else none

/-- The number of four hexadecimal digits. -/
def fourHex? : List Char → Option Nat
  | a :: b :: c :: d :: _ =>
    match hexValue? a, hexValue? b, hexValue? c, hexValue? d with
    | some a, some b, some c, some d => some (4096 * a + 256 * b + 16 * c + d)
    | _, _, _, _ => none
  | _ => none

/-- The character that a letter after a backslash stands for. -/
def simpleEscape? : Char → Option Char
  | '"' => some '"'
  | '\\' => some '\\'
  | '/' => some '/'
  | 'b' => some '\x08'
  | 'f' => some '\x0c'
  | 'n' => some '\n'
  | 'r' => some '\r'
  | 't' => some '\t'
  | _ => none

/-- Reads a text up to its closing mark; `opening` is the place of the opening
mark, and `made` holds the characters read so far in reverse. -/
def readString (opening : Nat) : (fuel : Nat) → List Char → (position : Nat) → List Char →
    Except ReadError (String × Cursor)
  | 0, _, _, _ => Cursor.fail .unterminatedString opening
  | _ + 1, [], _, _ => Cursor.fail .unterminatedString opening
  | _ + 1, '"' :: cs, p, made => .ok (.ofList made.reverse, ⟨cs, p + 1⟩)
  | _ + 1, ['\\'], _, _ => Cursor.fail .unterminatedString opening
  | fuel + 1, '\\' :: 'u' :: cs, p, made =>
    -- four digits and at least one character behind them
    if cs.length ≤ 4 then Cursor.fail .codeEscape (p + 1)
    else match fourHex? cs with
      | none => Cursor.fail .codeEscape (p + 1)
      | some high =>
        let behind := cs.drop 4
        match behind with
        | '\\' :: 'u' :: ds =>
          if 0xD800 ≤ high && high ≤ 0xDBFF && 4 < ds.length then
            match fourHex? ds with
            | none => Cursor.fail .codeEscape (p + 7)
            | some low =>
              if 0xDC00 ≤ low && low ≤ 0xDFFF then
                readString opening fuel (ds.drop 4) (p + 12)
                  (Char.ofNat (0x10000 + (high - 0xD800) * 0x400 + (low - 0xDC00)) :: made)
              else readString opening fuel behind (p + 6) ('\uFFFD' :: made)
          else readString opening fuel behind (p + 6)
            ((if 0xD800 ≤ high && high ≤ 0xDFFF then '\uFFFD' else Char.ofNat high) :: made)
        | _ => readString opening fuel behind (p + 6)
            ((if 0xD800 ≤ high && high ≤ 0xDFFF then '\uFFFD' else Char.ofNat high) :: made)
  | fuel + 1, '\\' :: c :: cs, p, made =>
    match simpleEscape? c with
    | some d => readString opening fuel cs (p + 2) (d :: made)
    | none => Cursor.fail .escape p
  | fuel + 1, c :: cs, p, made =>
    if c.toNat < 32 then Cursor.fail .controlCharacter p
    else readString opening fuel cs (p + 1) (c :: made)

/-- The most digits of an integer. -/
def digitLimit : Nat := 4300

/-- Whether a text begins with a minus sign, and what stands behind the sign. -/
def takeMinus : List Char → Bool × List Char
  | '-' :: cs => (true, cs)
  | cs => (false, cs)

/-- The digits of an integer part; a zero in front stands alone. -/
def wholePart : List Char → List Char
  | '0' :: _ => ['0']
  | cs => cs.takeWhile Char.isDigit

/-- The digits of a fraction. -/
def fractionPart : List Char → List Char
  | '.' :: cs => cs.takeWhile Char.isDigit
  | _ => []

/-- An exponent: whether it is negative, its digits, and how many characters stand in front of
them. -/
structure Exponent where
  negative : Bool
  digits : List Char
  mark : Nat

/-- The exponent at the beginning of a text; it has no digits when there is none. -/
def exponentPart : List Char → Exponent
  | e :: cs =>
    if e = 'e' || e = 'E' then
      match cs with
      | '-' :: ds => ⟨true, ds.takeWhile Char.isDigit, 2⟩
      | '+' :: ds => ⟨false, ds.takeWhile Char.isDigit, 2⟩
      | ds => ⟨false, ds.takeWhile Char.isDigit, 1⟩
    else ⟨false, [], 0⟩
  | [] => ⟨false, [], 0⟩

/-- Reads a number: a sign, an integer part without leading zeros, and where digits
follow them a fraction and an exponent. -/
def readNumber (c : Cursor) : Except ReadError (Json × Cursor) :=
  let (negative, body) := takeMinus c.rest
  let whole := wholePart body
  if whole.isEmpty then Cursor.fail .value c.position
  else
    let rest := body.drop whole.length
    let fraction := fractionPart rest
    let exponent := exponentPart
      (if fraction.isEmpty then rest else rest.drop (fraction.length + 1))
    let length := (if negative then 1 else 0) + whole.length
      + (if fraction.isEmpty then 0 else fraction.length + 1)
      + (if exponent.digits.isEmpty then 0 else exponent.mark + exponent.digits.length)
    if fraction.isEmpty && exponent.digits.isEmpty then
      if digitLimit < whole.length then .error (.tooManyDigits whole.length)
      else
        let n := Decimal.ofDigits whole
        .ok (.int (if negative then -(n : Int) else n), c.skip length)
    else
      let e : Int := Decimal.ofDigits exponent.digits
      let e := if exponent.negative then -e else e
      .ok (.float (Decimal.ofDecimal negative (Decimal.ofDigits (whole ++ fraction))
        (e - fraction.length)), c.skip length)

/-- How deeply lists and objects may be nested. -/
def depthLimit : Nat := 985

mutual

/-- Reads a value in which lists and objects may be nested `depth` times. -/
def readValue : (fuel : Nat) → (depth : Nat) → Cursor → Except ReadError (Json × Cursor)
  | 0, _, c => Cursor.fail .value c.position
  | fuel + 1, depth, c =>
    match c.rest with
    | '"' :: cs =>
      (readString c.position (cs.length + 1) cs (c.position + 1) []).map fun (s, c) => (.str s, c)
    | '{' :: _ =>
      if depth = 0 then .error (.tooDeep "object")
      else
        let inner := (c.skip 1).spaces
        match inner.rest with
        | '}' :: _ => .ok (.obj [], inner.skip 1)
        | _ => readFields fuel (depth - 1) inner []
    | '[' :: _ =>
      if depth = 0 then .error (.tooDeep "array")
      else
        let inner := (c.skip 1).spaces
        match inner.rest with
        | ']' :: _ => .ok (.arr [], inner.skip 1)
        | _ => readItems fuel (depth - 1) inner []
    | _ =>
      if c.looksAt "null" then .ok (.null, c.skip 4)
      else if c.looksAt "true" then .ok (.bool true, c.skip 4)
      else if c.looksAt "false" then .ok (.bool false, c.skip 5)
      else if c.looksAt "NaN" then .ok (.float Decimal.undefinedValue, c.skip 3)
      else if c.looksAt "Infinity" then .ok (.float Decimal.infinity, c.skip 8)
      else if c.looksAt "-Infinity" then .ok (.float (-Decimal.infinity), c.skip 9)
      else readNumber c
  termination_by structural fuel => fuel

/-- Reads the fields of an object up to its closing brace. -/
def readFields : (fuel : Nat) → (depth : Nat) → Cursor → List (String × Json) →
    Except ReadError (Json × Cursor)
  | 0, _, c, _ => Cursor.fail .value c.position
  | fuel + 1, depth, c, fields =>
    match c.rest with
    | '"' :: cs => do
      let (key, c) ← readString c.position (cs.length + 1) cs (c.position + 1) []
      let c := c.spaces
      match c.rest with
      | ':' :: _ =>
        let (value, c) ← readValue fuel depth (c.skip 1).spaces
        let c := c.spaces
        let fields := put fields key value
        match c.rest with
        | '}' :: _ => .ok (.obj fields, c.skip 1)
        | ',' :: _ => readFields fuel depth (c.skip 1).spaces fields
        | _ => Cursor.fail .comma c.position
      | _ => Cursor.fail .colon c.position
    | _ => Cursor.fail .propertyName c.position
  termination_by structural fuel => fuel

/-- Reads the items of a list up to its closing bracket, those read so far in
reverse. -/
def readItems : (fuel : Nat) → (depth : Nat) → Cursor → List Json →
    Except ReadError (Json × Cursor)
  | 0, _, c, _ => Cursor.fail .value c.position
  | fuel + 1, depth, c, items => do
    let (item, c) ← readValue fuel depth c
    let c := c.spaces
    match c.rest with
    | ']' :: _ => .ok (.arr (item :: items).reverse, c.skip 1)
    | ',' :: _ => readItems fuel depth (c.skip 1).spaces (item :: items)
    | _ => Cursor.fail .comma c.position
  termination_by structural fuel => fuel

end

/-- The value that a text holds. -/
def parse (text : List Char) : Except ReadError Json :=
  if text.head? = some '\uFEFF' then Cursor.fail .byteOrderMark 0
  else do
    let (value, c) ← readValue (text.length + 1) depthLimit (Cursor.spaces ⟨text, 0⟩)
    let c := c.spaces
    if c.rest.isEmpty then pure value else Cursor.fail .extraData c.position

end SnippetProfiler.Json
