import SnippetProfiler.Text.Names.Ancient
import SnippetProfiler.Text.Names.Emblems
import SnippetProfiler.Text.Names.Forms
import SnippetProfiler.Text.Names.Letters
import SnippetProfiler.Text.Names.Other
import SnippetProfiler.Text.Names.Symbols

/-!
# Names of characters

`named?` finds a character by its name.  The names of ideographs and of Korean syllables are
made by rules; these names have to be in capitals.  All other names may be in small letters too.

The tables hold runs of characters with codes that follow each other.  The names of a run are
written as changes: each one begins with a mark for the number of characters that it takes from
the front of the name before, and may end with `~` and a capital for the number that it takes
from the back, where `A` is none.
-/

namespace SnippetProfiler.Text

namespace Names

/-! ### Runs -/

/-- The marks for numbers, from 0 on. -/
def marks : List Char := "abcdefghijklmnopqrstuvwxyz!$&()*+,.:;<=>^_|".toList

/-- The characters in front of the first mark, and the numbers of the marks with what stands
behind each. -/
def changes : List Char → List Char × List (Nat × List Char)
  | [] => ([], [])
  | c :: cs =>
    let (own, rest) := changes cs
    match marks.idxOf? c with
    | some n => ([], (n, own) :: rest)
    | none => (c :: own, rest)

/-- The name that comes from the one before by a change. -/
def change (last : List Char) (front : Nat) (own : List Char) : List Char :=
  match own.dropWhile (· ≠ '~') with
  | _ :: back :: _ =>
    last.take front ++ own.takeWhile (· ≠ '~') ++ last.drop (last.length - (back.toNat - 'A'.toNat))
  | _ => last.take front ++ own

/-- The names after another one. -/
def namesAfter (last : List Char) : List (Nat × List Char) → List (List Char)
  | [] => []
  | (front, own) :: rest =>
    let name := change last front own
    name :: namesAfter name rest

/-- The names of a run. -/
def runNames (run : String) : List (List Char) := namesAfter [] (changes run.toList).2

/-- The code of a name in a run. -/
def inRun? (name : List Char) (run : Nat × String) : Option Nat :=
  ((runNames run.2).idxOf? name).map (run.1 + ·)

/-! ### Rules -/

/-- The digit that a character stands for; letters are capitals. -/
def digit? (c : Char) : Option Nat :=
  if c.isDigit then some (c.toNat - '0'.toNat)
  else if 'A' ≤ c && c ≤ 'F' then some (c.toNat - 'A'.toNat + 10)
  else none

/-- The code with four or five digits. -/
def code? (digits : List Char) : Option Nat :=
  if digits.length = 4 || digits.length = 5 then
    digits.foldl (fun n c => n.bind fun n => (digit? c).map (16 * n + ·)) (some 0)
  else none

/-- What stands behind the text that begins another one. -/
def behind? (start : String) (s : List Char) : Option (List Char) :=
  if start.toList.isPrefixOf s then some (s.drop start.length) else none

/-- Whether a code is in one of some ranges, both ends included. -/
def isIn (ranges : List (Nat × Nat)) (n : Nat) : Bool :=
  ranges.any fun (first, last) => first ≤ n && n ≤ last

/-- The codes of unified ideographs. -/
def ideographs : List (Nat × Nat) :=
  [(0x3400, 0x4DBF), (0x4E00, 0x9FFF), (0x20000, 0x2A6DF), (0x2A700, 0x2B738), (0x2B740, 0x2B81D),
   (0x2B820, 0x2CEA1), (0x2CEB0, 0x2EBE0), (0x30000, 0x3134A)]

/-- Characters whose name ends in their code. -/
def numbered : List (String × List (Nat × Nat)) :=
  [("CJK COMPATIBILITY IDEOGRAPH-", [(0xF900, 0xFA6D), (0xFA70, 0xFAD9), (0x2F800, 0x2FA1D)]),
   ("KHITAN SMALL SCRIPT CHARACTER-", [(0x18B00, 0x18CD5)]),
   ("NUSHU CHARACTER-", [(0x1B170, 0x1B2FB)])]

/-- The code at the end of a name. -/
def numbered? (name : List Char) : Option Nat :=
  numbered.findSome? fun (start, ranges) =>
    match behind? start name with
    | none => none
    | some digits =>
      match code? digits with
      | some n => if isIn ranges n && (digits.length = 4 || 0x10000 ≤ n) then some n else none
      | none => none

/-- The beginnings of syllables. -/
def initials : List String :=
  ["G", "GG", "N", "D", "DD", "R", "M", "B", "BB", "S", "SS", "", "J", "JJ", "C", "K", "T", "P", "H"]

/-- The vowels of syllables. -/
def vowels : List String :=
  ["A", "AE", "YA", "YAE", "EO", "E", "YEO", "YE", "O", "WA", "WAE", "OE", "YO", "U", "WEO", "WE",
   "WI", "YU", "EU", "YI", "I"]

/-- The ends of syllables. -/
def finals : List String :=
  ["", "G", "GG", "GS", "N", "NJ", "NH", "D", "L", "LG", "LM", "LB", "LS", "LT", "LP", "LH", "M", "B",
   "BS", "S", "SS", "NG", "J", "C", "K", "T", "P", "H"]

/-- The number of the longest part that begins a text, and what stands behind it. -/
def longest? (parts : List String) (s : List Char) : Option (Nat × List Char) :=
  let fitting := parts.zipIdx.filter fun (part, _) => part.toList.isPrefixOf s
  let best := fitting.foldl (fun (best : Option (String × Nat)) entry =>
    match best with
    | some b => if b.1.length < entry.1.length then some entry else some b
    | none => some entry) none
  best.map fun (part, i) => (i, s.drop part.length)

/-- The code of a syllable. -/
def syllable? (s : List Char) : Option Nat :=
  match longest? initials s with
  | none => none
  | some (l, s) =>
    match longest? vowels s with
    | none => none
    | some (v, s) =>
      match longest? finals s with
      | some (t, []) => some (0xAC00 + (l * vowels.length + v) * finals.length + t)
      | _ => none

/-- The code of a variation selector, which is called `VS` with its number. -/
def selector? (name : List Char) : Option Nat :=
  match behind? "VS" name with
  | some (c :: cs) =>
    let n := (c :: cs).foldl (fun n d => 10 * n + (d.toNat - '0'.toNat)) 0
    if c = '0' || !(c :: cs).all Char.isDigit || 256 < n then none
    else if n ≤ 16 then some (0xFE00 + n - 1)
    else some (0xE0100 + n - 17)
  | _ => none

/-- All runs. -/
def runs : List (Nat × String) :=
  letters ++ syllables ++ symbols ++ pictures ++ forms ++ ancient ++ signs ++ scores ++ emblems

/-- The code of a name. -/
def codeOf? (name : List Char) : Option Nat :=
  match behind? "HANGUL SYLLABLE " name, behind? "CJK UNIFIED IDEOGRAPH-" name with
  | some syllable, _ => syllable? syllable
  | _, some digits => (code? digits).filter (isIn ideographs)
  | _, _ =>
    let name := name.map Char.toUpper
    match numbered? name, selector? name, others.find? fun other => other.2.toList = name with
    | some n, _, _ | _, some n, _ => some n
    | _, _, some other => some other.1
    | _, _, _ => runs.findSome? (inRun? name)

end Names

/-- The character with a name. -/
def named? (name : List Char) : Option Char := (Names.codeOf? name).map Char.ofNat

end SnippetProfiler.Text
