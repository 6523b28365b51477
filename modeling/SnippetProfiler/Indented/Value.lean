import SnippetProfiler.Decimal.Read
import SnippetProfiler.Indented.Places
import SnippetProfiler.Json.Basic
import SnippetProfiler.Text.Clip
import SnippetProfiler.Text.Quoted
import SnippetProfiler.Text.Utf8

/-!
# Values of Python snippets

The values that a snippet holds, as far as summaries show them: `literal?` is the text of a
value, if it has one, and `typeName` the name of its type.

A value can be written as data: an object with the key `$` stands for a value that data have no
form for.
-/

namespace SnippetProfiler.Indented

/-- A value. -/
inductive Value where
  | none
  | bool (b : Bool)
  | int (n : Int)
  | float (x : Float)
  | complex (real imaginary : Float)
  | text (s : String)
  | octets (bs : List Nat)
  | list (items : List Value)
  | tuple (items : List Value)
  | set (frozen : Bool) (items : List Value)
  | table (entries : List (Value × Value))
  | ellipsis
  | range (count : Int)
  /-- A list that contains itself. -/
  | circular
  /-- An object of a class of the snippet, with the text that its class gives it, if that can be
  had. -/
  | object (className : String) (text : Option String)
  deriving Inhabited, Repr

namespace Value

/-- The name of the type of a value. -/
def typeName : Value → String
  | none => "NoneType"
  | bool _ => "bool"
  | int _ => "int"
  | float _ => "float"
  | complex .. => "complex"
  | text _ => "str"
  | octets _ => "bytes"
  | list _ | circular => "list"
  | tuple _ => "tuple"
  | set frozen _ => if frozen then "frozenset" else "set"
  | table _ => "dict"
  | ellipsis => "ellipsis"
  | range _ => "range"
  | object className _ => className

/-! ### Texts -/

/-- The layout of the parts of a complex number. -/
def partLayout : Decimal.Layout := ⟨-4, 15, false, 2, true, "inf", "nan"⟩

/-- The text of a complex number; a real part that is zero, and not a negative one, is left
out. -/
def complexText (real imaginary : Float) : String :=
  let im := partLayout.write imaginary
  if real == 0 && Decimal.dataLayout.write real = "0.0" then im ++ "j"
  else
    "(" ++ partLayout.write real ++ (if im.startsWith "-" then "" else "+") ++ im ++ "j)"

/-- Texts with commas between them, in brackets. -/
def bracketed (opening : String) (texts : List String) (closing : String) : String :=
  opening ++ String.intercalate ", " texts ++ closing

/-- The text of a tuple with the given texts of its items. -/
def tupleText : List String → String
  | [item] => "(" ++ item ++ ",)"
  | items => bracketed "(" items ")"

/-- The text of a set with the given texts of its items. -/
def setText (frozen : Bool) (items : List String) : String :=
  match frozen, items with
  | true, [] => "frozenset()"
  | false, [] => "set()"
  | true, items => bracketed "frozenset(\x7b" items "\x7d)"
  | false, items => bracketed "\x7b" items "\x7d"

mutual

/-- The text of a value, if it can be had. -/
def literal? : Value → Option String
  | none => some "None"
  | bool b => some (if b then "True" else "False")
  | int n => some (Decimal.integer n)
  | float x => some (Decimal.dataLayout.write x)
  | complex re im => some (complexText re im)
  | text s => some (Text.Quoted.literal s)
  | octets bs => some (.ofList (Text.Quoted.encodeOctets bs))
  | list items => (literals? items).map (bracketed "[" · "]")
  | tuple items => (literals? items).map tupleText
  | set frozen items => (literals? items).map (setText frozen)
  | table entries => (entryLiterals? entries).map (bracketed "\x7b" · "\x7d")
  | ellipsis => some "Ellipsis"
  | range count => some ("range(0, " ++ Decimal.integer count ++ ")")
  | circular => some "[[...]]"
  | object _ shown => shown

/-- The texts of values. -/
def literals? : List Value → Option (List String)
  | [] => some []
  | v :: vs =>
    match literal? v, literals? vs with
    | some t, some ts => some (t :: ts)
    | _, _ => Option.none

/-- The texts of the entries of a table. -/
def entryLiterals? : List (Value × Value) → Option (List String)
  | [] => some []
  | (k, v) :: entries =>
    match literal? k, literal? v, entryLiterals? entries with
    | some k, some v, some ts => some ((k ++ ": " ++ v) :: ts)
    | _, _, _ => Option.none

end

/-- The text for a value that has none. -/
def unprintableText : String := "<unrepresentable>"

/-- The text of a value. -/
def literal (v : Value) : String := (literal? v).getD unprintableText

/-- The summary of a value: its text, clipped. -/
def summary (v : Value) : String :=
  match literal? v with
  | some t => Text.summary t
  | Option.none => unprintableText

/-- What a value reads as: a text itself, and the text of any other value. -/
def plainText : Value → String
  | text s => s
  | v => literal v

/-- A simple value as data. -/
def toJson : Value → Json
  | bool b => .bool b
  | int n => .int n
  | float x => .float x
  | text s => .str s
  | none => .null
  | v => .str (literal v)

/-- Whether a value counts as false. -/
def isFalse : Value → Bool
  | none => true
  | bool b => !b
  | int n => n = 0
  | float x => x == 0
  | complex re im => re == 0 && im == 0
  | text s => s.isEmpty
  | octets bs => bs.isEmpty
  | list items | tuple items | set _ items => items.isEmpty
  | table entries => entries.isEmpty
  | range count => count ≤ 0
  | _ => false

/-- Whether a value is a number that is zero. -/
def isZero : Value → Bool
  | bool b => !b
  | int n => n = 0
  | float x => x == 0
  | complex re im => re == 0 && im == 0
  | _ => false

/-! ### Keys -/

/-- A number as a key: equal numbers of different types are one key. -/
def numberKey (x : Float) : String :=
  match Decimal.toInt? x with
  | some n => Decimal.integer n
  | Option.none => Decimal.dataLayout.write x

mutual

/-- What a value is as a key of a table, if it equals any other value at all. -/
def key? : Value → Option String
  | bool b => some (if b then "1" else "0")
  | int n => some (Decimal.integer n)
  | float x => if x == x then some (numberKey x) else Option.none
  | complex re im =>
    if re == re && im == im then
      some (if im == 0 then numberKey re else numberKey re ++ " " ++ numberKey im)
    else Option.none
  | tuple items => (keys? items).map tupleText
  | set _ items => (keys? items).map fun ks => setText true (ks.mergeSort fun a b => decide (a ≤ b))
  | object .. | circular | list _ | table _ => Option.none
  | none => some "None"
  | text s => some (Text.Quoted.literal s)
  | octets bs => some (.ofList (Text.Quoted.encodeOctets bs))
  | ellipsis => some "Ellipsis"
  | range count => some ("range(0, " ++ Decimal.integer (max count 0) ++ ")")

/-- What values are as keys. -/
def keys? : List Value → Option (List String)
  | [] => some []
  | v :: vs =>
    match key? v, keys? vs with
    | some k, some ks => some (k :: ks)
    | _, _ => Option.none

end

/-- Whether two values are one key. -/
def isKey (a b : Value) : Bool := (key? a).isSome && key? a == key? b

/-- Gives a key a value; a key that is there already stays as it is. -/
def putEntry (entries : List (Value × Value)) (key value : Value) : List (Value × Value) :=
  match entries with
  | [] => [(key, value)]
  | (k, v) :: rest => if isKey k key then (k, value) :: rest else (k, v) :: putEntry rest key value

/-- The table of pairs. -/
def tableOf (pairs : List (Value × Value)) : Value :=
  table (pairs.foldl (fun entries (k, v) => putEntry entries k v) [])

/-! ### Sets -/

/-- The prime that hashes of numbers are taken modulo. -/
def hashPrime : Nat := twoTo 61 - 1

/-- A hash as a number of 64 bits.  The hash -1 is not used. -/
def hashOf (n : Int) : Nat := ((if n = -1 then -2 else n) % twoTo 64).toNat

/-- The hash of a number with a sign. -/
def signedHash (negative : Bool) (n : Nat) : Nat :=
  let n : Int := (n % hashPrime : Nat)
  hashOf (if negative then -n else n)

/-- The hash of a float.  Integral floats have the hashes of integers. -/
def floatHash? (x : Float) : Option Nat :=
  match Decimal.decompose x with
  | .finite negative m q => some (signedHash negative (m * twoTo (q % 61).toNat))
  | .infinite negative => some (hashOf (if negative then -314159 else 314159))
  | .undefined => Option.none

/-- The hash of a complex number from those of its parts. -/
def complexHash (real imaginary : Nat) : Nat :=
  let n := (real + 1000003 * imaginary) % twoTo 64
  if n = twoTo 64 - 1 then hashOf (-1) else n

/-- The hash of a tuple from those of its items. -/
def tupleHash (hashes : List Nat) : Nat :=
  let mix (n hash : Nat) : Nat :=
    let n := (n + hash * 14029467366897019727) % twoTo 64
    (n * twoTo 31 % twoTo 64 + n / twoTo 33) * 11400714785074694791 % twoTo 64
  let seed := 2870177450012600261
  let n := (hashes.foldl mix seed + (hashes.length ^^^ (seed ^^^ 3527539))) % twoTo 64
  if n = twoTo 64 - 1 then 1546275796 else n

mutual

/-- The hash of a value, if its type alone fixes it. -/
def hash? : Value → Option Nat
  | bool b => some (if b then 1 else 0)
  | int n => some (signedHash (n < 0) n.natAbs)
  | float x => floatHash? x
  | complex re im =>
    match floatHash? re, floatHash? im with
    | some re, some im => some (complexHash re im)
    | _, _ => Option.none
  | tuple items => (hashes? items).map tupleHash
  | _ => Option.none

/-- The hashes of values. -/
def hashes? : List Value → Option (List Nat)
  | [] => some []
  | v :: vs =>
    match hash? v, hashes? vs with
    | some n, some ns => some (n :: ns)
    | _, _ => Option.none

end

/-- The set of values.  They come in the order of their places; values whose hash may be any come
in the order in which they were given. -/
def setOf (frozen : Bool) (items : List Value) : Value :=
  let members := items.foldl (fun ms v => if ms.any (isKey v) then ms else ms ++ [v]) []
  match hashes? members with
  | some hashes => set frozen (Places.inOrder (hashes.zip members))
  | Option.none => set frozen members

/-! ### Values as data -/

/-- The float that a value is. -/
def toFloat : Value → Float
  | int n => Decimal.ofInt n
  | float x => x
  | _ => 0

/-- The items of a list. -/
def items : Value → List Value
  | list vs => vs
  | _ => []

/-- The octets that hexadecimal digits stand for. -/
def octetsOfHex : List Char → List Nat
  | a :: b :: cs =>
    (16 * Text.Ranges.hexDigit a + Text.Ranges.hexDigit b) :: octetsOfHex cs
  | _ => []

/-- The value of a kind that data have no form for. -/
def ofKind (kind : String) (field : String → Value) : Value :=
  match kind with
  | "bytes" => octets (octetsOfHex (field "hex").plainText.toList)
  | "float" => float ((Decimal.readSpacedFloat? (field "text").plainText.toList).getD 0)
  | "tuple" => tuple (field "items").items
  | "set" => setOf false (field "items").items
  | "frozenset" => setOf true (field "items").items
  | "pairs" =>
    tableOf ((field "items").items.filterMap fun pair =>
      match pair.items with
      | [k, v] => some (k, v)
      | _ => Option.none)
  | "range" =>
    match field "n" with
    | int n => range n
    | _ => range 0
  | "complex" => complex (field "re").toFloat (field "im").toFloat
  | "ellipsis" => ellipsis
  | "self" => circular
  | _ =>
    object (field "class").plainText (match field "text" with
      | text s => some s
      | _ => Option.none)

/-- The value of an object with the given fields. -/
def ofFields (fields : List (String × Value)) : Value :=
  let field? (key : String) := (fields.find? fun f => f.1 = key).map Prod.snd
  match field? "$" with
  | some (text kind) => ofKind kind fun key => (field? key).getD none
  | _ => tableOf (fields.map fun (k, v) => (text k, v))

mutual

/-- The value that data stand for. -/
def ofJson : Json → Value
  | .null => none
  | .bool b => bool b
  | .int n => int n
  | .float x => float x
  | .str s => text s
  | .arr vs => list (ofJsons vs)
  | .obj fields => ofFields (ofJsonFields fields)

/-- The values that data stand for. -/
def ofJsons : List Json → List Value
  | [] => []
  | v :: vs => ofJson v :: ofJsons vs

/-- The fields that data stand for. -/
def ofJsonFields : List (String × Json) → List (String × Value)
  | [] => []
  | (k, v) :: fields => (k, ofJson v) :: ofJsonFields fields

end

end Value

end SnippetProfiler.Indented
