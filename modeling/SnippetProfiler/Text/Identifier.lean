import SnippetProfiler.Text.Classes
import SnippetProfiler.Text.Decompositions

/-!
# Identifiers

A text is an identifier when its first character may start one and every other
character may continue one.  Two identifiers are the same when their compatibility
forms are: in this form every character is decomposed, marks that stand on one
character are sorted by their combining classes, and what composes is composed again.
-/

namespace SnippetProfiler.Text

/-- Whether a text is an identifier. -/
def isIdentifier : List Char → Bool
  | [] => false
  | c :: cs => isIdentifierStart c && cs.all isIdentifierContinue

/-- The parts of a Hangul syllable. -/
def syllableParts (n : Nat) : List Nat :=
  let i := n - 0xAC00
  let parts := [0x1100 + i / 588, 0x1161 + i % 588 / 28]
  if i % 28 = 0 then parts else parts ++ [0x11A7 + i % 28]

/-- The decomposition of a character. -/
def decomposed (n : Nat) : List Nat :=
  if 0xAC00 ≤ n && n ≤ 0xD7A3 then syllableParts n
  else match decompositions.find? fun entry => entry.1 == n with
    | some (_, ns) => ns
    | none => [n]

/-- The combining class of a character. -/
def combiningClass (n : Nat) : Nat :=
  match classRuns.find? fun entry => entry.1 ≤ n && n < entry.1 + entry.2.headD 0 with
  | some (_, [_, k]) => k
  | _ => 0

/-- Puts a mark behind the characters that may stand in front of it: it passes those
with a greater class, but no character of class zero.  The list is in reverse. -/
def placeMark (n k : Nat) : List (Nat × Nat) → List (Nat × Nat)
  | [] => [(n, k)]
  | (m, j) :: before =>
    if k ≠ 0 && k < j then (m, j) :: placeMark n k before else (n, k) :: (m, j) :: before

/-- Characters with their classes, the marks sorted. -/
def sortMarks (ns : List Nat) : List (Nat × Nat) :=
  (ns.foldl (fun before n => placeMark n (combiningClass n) before) []).reverse

/-- The character that two characters compose. -/
def composed? (a b : Nat) : Option Nat :=
  if 0x1100 ≤ a && a < 0x1113 && 0x1161 ≤ b && b < 0x1176 then
    some (0xAC00 + ((a - 0x1100) * 21 + (b - 0x1161)) * 28)
  else if 0xAC00 ≤ a && a ≤ 0xD7A3 && (a - 0xAC00) % 28 = 0 && 0x11A8 ≤ b && b < 0x11C3 then
    some (a + (b - 0x11A7))
  else (pairs.find? fun entry => entry.2 == [a, b]).map Prod.fst

/-- Composes characters: `starter` is the last character of class zero, `marks` are
those behind it in reverse, and `last` is the class of the last one of them. -/
def compose (starter : Option Nat) (marks : List Nat) (last : Nat) : List (Nat × Nat) → List Nat
  | [] => starter.toList ++ marks.reverse
  | (n, k) :: rest =>
    match starter with
    | none => if k = 0 then compose (some n) [] 0 rest else n :: compose none [] 0 rest
    | some s =>
      let reachable := marks.isEmpty || (last ≠ 0 && last < k)
      match if reachable then composed? s n else none with
      | some c => compose (some c) marks last rest
      | none =>
        if k = 0 then s :: marks.reverse ++ compose (some n) [] 0 rest
        else compose (some s) (n :: marks) k rest

/-- The compatibility form of an identifier. -/
def compatible (s : List Char) : List Char :=
  (compose none [] 0 (sortMarks (s.flatMap fun c => decomposed c.toNat))).map Char.ofNat

end SnippetProfiler.Text
