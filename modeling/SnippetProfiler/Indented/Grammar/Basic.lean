import SnippetProfiler.Indented.Token

/-!
# Reading tokens

A `Read` takes tokens from the front of a list, or fails.  Alternatives are tried in
order, and the first that succeeds is taken.  This module has the readers of single
tokens and the ways to repeat readers.

A reader carries the proof that it leaves the end of the list as it is.  The proof comes
for free with every reader that is put together from others.
-/

namespace SnippetProfiler.Indented

/-- A reader of the tokens of some phrase: what it reads from the front of a list, with
the tokens that it leaves. -/
structure Read (α : Type) where
  run : List Token → Option (α × List Token)
  isSuffix : ∀ {ts : List Token} {x : α} {rest : List Token}, run ts = some (x, rest) → rest <:+ ts

namespace Read

variable {α β : Type}

/-- A reader that takes nothing. -/
def look (x : List Token → α) : Read α where
  run ts := some (x ts, ts)
  isSuffix h := by
    cases h
    exact List.suffix_refl _

/-- A reader of one token. -/
def single (x : Token → Option α) : Read α where
  run
    | t :: ts => (x t).map fun y => (y, ts)
    | [] => none
  isSuffix := by
    intro ts y rest h
    cases ts with
    | nil => cases h
    | cons t ts =>
        obtain ⟨_, _, h⟩ := Option.map_eq_some_iff.mp h
        cases h
        exact List.suffix_cons t _

instance : Monad Read where
  pure x := look fun _ => x
  bind p f :=
    { run ts := (p.run ts).bind fun (x, rest) => (f x).run rest
      isSuffix := by
        intro ts y rest h
        obtain ⟨⟨x, middle⟩, hp, hf⟩ := Option.bind_eq_some_iff.mp h
        exact ((f x).isSuffix hf).trans (p.isSuffix hp) }

/-- Fails. -/
def fail : Read α := ⟨fun _ => none, nofun⟩

instance : MonadLift Option Read where
  monadLift
    | some x => pure x
    | none => fail

/-- Fails unless a condition holds. -/
def ensure (condition : Bool) : Read Unit := if condition then pure () else fail

/-- The next token, which stays. -/
def peek : Read Lexeme := look fun ts =>
  match ts with
  | [] => .finish
  | t :: _ => t.lexeme

/-- The token behind the next one; both stay. -/
def peekSecond : Read Lexeme := look fun ts =>
  match ts with
  | _ :: t :: _ => t.lexeme
  | _ => .finish

/-- The line of the next token. -/
def line : Read Nat := look fun ts =>
  match ts with
  | [] => 0
  | t :: _ => t.line

/-- How many tokens are left. -/
def remaining : Read Nat := look List.length

/-- Takes a token that is `x`. -/
def token (x : Lexeme) : Read Unit := single fun t => if t.lexeme = x then some () else none

/-- Takes a symbol. -/
def op (symbol : String) : Read Unit := token (.op symbol)

/-- Takes a keyword. -/
def keyword (word : String) : Read Unit := token (.keyword word)

/-- Takes a name. -/
def name : Read String := single fun t =>
  match t.lexeme with
  | .name id => some id
  | _ => none

/-- Whether the next token is `x`. -/
def sees (x : Lexeme) : Read Bool := do return (← peek) = x

/-- Whether the next token is a symbol. -/
def seesOp (symbol : String) : Read Bool := sees (.op symbol)

/-- Whether the next token is a keyword. -/
def seesKeyword (word : String) : Read Bool := sees (.keyword word)

/-- What `p` reads, or what `q` reads where `p` fails. -/
def either (p q : Read α) : Read α where
  run ts :=
    match p.run ts with
    | some r => some r
    | none => q.run ts
  isSuffix := by
    intro ts x rest h
    split at h
    case h_1 hp =>
      cases h
      exact p.isSuffix hp
    case h_2 => exact q.isSuffix h

/-- What `p` reads, or nothing where `p` fails. -/
def optional (p : Read α) : Read (Option α) := either (some <$> p) (pure none)

/-- Takes a symbol if it is next, and tells whether it was. -/
def skipOp (symbol : String) : Read Bool := Option.isSome <$> optional (op symbol)

/-- Takes a keyword if it is next, and tells whether it was. -/
def skipKeyword (word : String) : Read Bool := Option.isSome <$> optional (keyword word)

/-- How many tokens `p` would leave, which stay. -/
def wouldLeave? (p : Read α) : Read (Option Nat) := look fun ts => (p.run ts).map fun r => r.2.length

/-- Reads with `p` as often as it succeeds, at most `n` times. -/
def upTo (p : Read α) : Nat → Read (List α)
  | 0 => pure []
  | n + 1 => do
    match ← optional p with
    | some x => return x :: (← upTo p n)
    | none => return []

/-- Reads with `p` as often as it succeeds. -/
def many (p : Read α) : Read (List α) := do upTo p (← remaining)

/-- Reads with `p` at least once. -/
def some1 (p : Read α) : Read (List α) := do
  let x ← p
  return x :: (← many p)

/-- Phrases with commas between them, at least one. -/
def separated (p : Read α) : Read (List α) := do
  let x ← p
  return x :: (← many (do op ","; p))

/-- Phrases with commas between them, at least one, and perhaps a comma at the end;
tells whether there is a comma. -/
def listed (p : Read α) : Read (List α × Bool) := do
  let xs ← separated p
  let comma ← skipOp ","
  return (xs, comma || 1 < xs.length)

/-- Reads with `p` what two symbols enclose. -/
def enclosed (opening closing : String) (p : Read α) : Read α := do
  op opening
  let x ← p
  op closing
  return x

end Read

end SnippetProfiler.Indented
