import SnippetProfiler.Calendar
import SnippetProfiler.Decimal.Read
import SnippetProfiler.Json.Access
import SnippetProfiler.Json.Reader
import SnippetProfiler.Text.Quoted

/-!
# Values of JavaScript snippets

The values that a snippet holds, as far as summaries show them.  `written` is the text that a
value has as data: there may be none, as for a function, and it may be impossible to tell, as
for an object that contains itself.

A value can be written as data itself: an object with the key `$` stands for a value that data
have no form for.
-/

namespace SnippetProfiler.Braced

/-- A value. -/
inductive Value where
  | undefined
  | null
  | bool (b : Bool)
  | number (x : Float)
  | text (s : String)
  | bigint
  | symbol (name : String)
  | function (name : String)
  | array (items : List Value)
  /-- An object, with its entries in the order in which they are listed. -/
  | object (entries : List (String × Value))
  /-- An object that contains itself. -/
  | circular
  /-- A date, unless it is not valid. -/
  | date (moment : Option Int)
  | map
  | pattern
  /-- An object without a class. -/
  | classless (entries : List (String × Value))
  /-- An object of a class of the snippet. -/
  | member (className : String) (entries : List (String × Value))
  /-- An object that cannot be written. -/
  | unwritable
  /-- An object that is written as another value. -/
  | proxy (v : Value)
  deriving Inhabited, Repr

namespace Value

/-! ### Entries -/

/-- The index that a key stands for, if it does: digits without zeros in front, below the
largest length of a list. -/
def indexOf? (key : String) : Option Nat :=
  match key.toList with
  | [] => Option.none
  | ['0'] => some 0
  | '0' :: _ => Option.none
  | cs =>
    let n := Decimal.ofDigits cs
    if cs.all Char.isDigit && n < twoTo 32 - 1 then some n else Option.none

/-- Entries in the order in which an object lists them: keys that are indices first, by their
size. -/
def inOrder {α : Type} (entries : List (String × α)) : List (String × α) :=
  let isIndex (e : String × α) := (indexOf? e.1).isSome
  (entries.filter isIndex).mergeSort (fun a b => decide ((indexOf? a.1).getD 0 ≤ (indexOf? b.1).getD 0))
    ++ entries.filter fun e => !isIndex e

/-- An entry of an object. -/
def field? (v : Value) (key : String) : Option Value :=
  match v with
  | object entries | classless entries | member _ entries =>
    (entries.find? fun e => e.1 = key).map Prod.snd
  | _ => Option.none

/-! ### Types -/

/-- The word for the kind of a value. -/
def kind : Value → String
  | undefined => "undefined"
  | bool _ => "boolean"
  | number _ => "number"
  | text _ => "string"
  | bigint => "bigint"
  | symbol _ => "symbol"
  | function _ => "function"
  | _ => "object"

/-- The name of the class of objects that have no other. -/
def plainClass : String := "Object"

/-- The name that a value has when it stands for a class. -/
def className : Option Value → String
  | some (function name) => if name.isEmpty then plainClass else name
  | some v =>
    match field? v "name" with
    | some (text name) => if name.isEmpty then plainClass else name
    | _ => plainClass
  | Option.none => plainClass

/-- The name of the type of a value: the class of an object, and the kind of anything else. -/
def typeName : Value → String
  | null => "null"
  | array _ => "Array"
  | date _ => "Date"
  | map => "Map"
  | pattern => "RegExp"
  | member name entries =>
    className ((field? (object entries) "constructor").or (some (function name)))
  | object entries | classless entries => className (field? (object entries) "constructor")
  | v => if v.kind = "object" then plainClass else v.kind

/-! ### Texts -/

/-- How a character of a text is written. -/
def escapeChar (c : Char) : List Char :=
  match c with
  | '"' => ['\\', '"']
  | '\\' => ['\\', '\\']
  | '\n' => ['\\', 'n']
  | '\r' => ['\\', 'r']
  | '\t' => ['\\', 't']
  | '\x08' => ['\\', 'b']
  | '\x0c' => ['\\', 'f']
  | c => if c.toNat < 0x20 then '\\' :: 'u' :: Text.hex 4 c.toNat else [c]

/-- A text in quotes. -/
def quoted (s : String) : String := .ofList ('"' :: s.toList.flatMap escapeChar ++ ['"'])

/-- A number; what is not finite has no form. -/
def numberText (x : Float) : String :=
  if !Decimal.isFinite x then "null"
  else if x == 0 then "0"
  else Decimal.scriptLayout.write x

/-- Texts with commas between them, in brackets. -/
def bracketed (opening : String) (texts : List String) (closing : String) : String :=
  opening ++ String.intercalate "," texts ++ closing

mutual

/-- The text of a value as data.  There may be none, and it may be impossible to tell. -/
def written : Value → Option (Option String)
  | undefined | symbol _ | function _ => some Option.none
  | null => some (some "null")
  | bool b => some (some (if b then "true" else "false"))
  | number x => some (some (numberText x))
  | text s => some (some (quoted s))
  | array items => (itemTexts? items).map fun ts => some (bracketed "[" ts "]")
  | object entries | classless entries | member _ entries =>
    (entryTexts? entries).map fun ts => some (bracketed "\x7b" ts "\x7d")
  | date (some ms) => some (some (quoted (Calendar.momentText ms)))
  | date Option.none => some (some "null")
  | map | pattern => some (some "\x7b\x7d")
  | proxy (proxy _) | proxy unwritable | proxy (date _) => some (some "\x7b\x7d")
  | proxy v => written v
  | bigint | circular | unwritable => Option.none

/-- The texts of the items of a list. -/
def itemTexts? : List Value → Option (List String)
  | [] => some []
  | v :: vs =>
    match written v, itemTexts? vs with
    | some t, some ts => some (t.getD "null" :: ts)
    | _, _ => Option.none

/-- The texts of the entries of an object; an entry whose value has none is left out. -/
def entryTexts? : List (String × Value) → Option (List String)
  | [] => some []
  | (key, v) :: entries =>
    match written v, entryTexts? entries with
    | some (some t), some ts => some ((quoted key ++ ":" ++ t) :: ts)
    | some Option.none, some ts => some ts
    | _, _ => Option.none

end

/-- The text of a value that has none as data. -/
def looseText : Value → String
  | symbol name => "Symbol(" ++ name ++ ")"
  | _ => "[object Object]"

/-- The units of sixteen bits that a character takes. -/
def unitSize (c : Char) : Nat := if c.toNat < 0x10000 then 1 else 2

/-- The characters of a text that take at most `limit` units of sixteen bits. -/
def takeUnits : (limit : Nat) → List Char → List Char
  | _, [] => []
  | limit, c :: cs =>
    if unitSize c ≤ limit then c :: takeUnits (limit - unitSize c) cs else []

/-- The number of units of sixteen bits of a text. -/
def units (s : String) : Nat := s.toList.foldl (fun n c => n + unitSize c) 0

/-- The units that a summary may take. -/
def summaryLimit : Nat := 100

/-- A text that is short enough for a summary. -/
def clip (s : String) : String :=
  if summaryLimit < units s then .ofList (takeUnits (summaryLimit - 3) s.toList) ++ "..." else s

/-- The summary of a value. -/
def summary (v : Value) : String :=
  match v with
  | undefined => "undefined"
  | function name => "[Function " ++ (if name.isEmpty then "anonymous" else name) ++ "]"
  | v =>
    match written v with
    | some t => clip (t.getD (looseText v))
    | Option.none => "[Complex object]"

/-- A value as data, if it has such a form. -/
def toJson? (v : Value) : Option Json :=
  match written v with
  | some (some t) =>
    match Json.parse t.toList with
    | .ok data => some data
    | .error _ => Option.none
  | _ => Option.none

/-! ### Values as data -/

/-- The moment that a number of milliseconds stands for. -/
def momentOf? (x : Float) : Option Int :=
  match Decimal.toInt? (if x < 0 then x.ceil else x.floor) with
  | some n => if n.natAbs ≤ Calendar.reach.toNat then some n else Option.none
  | Option.none => Option.none

/-- The text that a value is. -/
def asText : Value → String
  | text s => s
  | _ => ""

/-- The entries of an object. -/
def entries : Value → List (String × Value)
  | object entries => entries
  | _ => []

/-- The number that a text denotes: decimal, or the word for infinity. -/
def numberOf (s : List Char) : Float :=
  let (negative, body) := Decimal.takeSign s
  if body = "Infinity".toList then if negative then -Decimal.infinity else Decimal.infinity
  else if body.any Char.isAlpha && !body.any Char.isDigit then Decimal.undefinedValue
  else (Decimal.readFloat? s).getD Decimal.undefinedValue

/-- The value of a kind that data have no form for. -/
def ofKind? (kind : String) (field : String → Value) : Option Value :=
  match kind with
  | "undefined" => some undefined
  | "function" => some (function (field "name").asText)
  | "symbol" => some (symbol (field "name").asText)
  | "bigint" => some bigint
  | "number" => some (number (numberOf (field "text").asText.toList))
  | "self" => some circular
  | "date" =>
    match field "ms" with
    | number x => some (date (momentOf? x))
    | _ => some (date Option.none)
  | "map" => some map
  | "nullproto" => some (classless (field "entries").entries)
  | "instance" => some (member (field "name").asText (field "entries").entries)
  | "badjson" => some unwritable
  | "tojson" => some (proxy (field "value"))
  | "regexp" => some pattern
  | _ => Option.none

/-- The value of an object with the given fields. -/
def ofFields (fields : List (String × Value)) : Value :=
  let field? (key : String) := (fields.find? fun f => f.1 = key).map Prod.snd
  let special? :=
    match field? "$" with
    | some (text kind) => ofKind? kind fun key => (field? key).getD undefined
    | _ => Option.none
  special?.getD (object (inOrder fields))

mutual

/-- The value that data stand for. -/
def ofJson : Json → Value
  | .null => null
  | .bool b => bool b
  | .int n => number (Decimal.ofInt n)
  | .float x => number x
  | .str s => text s
  | .arr vs => array (ofJsons vs)
  | .obj fields => ofFields (ofJsonFields fields)

/-- The values that data stand for. -/
def ofJsons : List Json → List Value
  | [] => []
  | v :: vs => ofJson v :: ofJsons vs

/-- The fields that data stand for. -/
def ofJsonFields : List (String × Json) → List (String × Value)
  | [] => []
  | (k, v) :: fields => (k, ofJson v) :: ofJsonFields fields

end

end Value

end SnippetProfiler.Braced
