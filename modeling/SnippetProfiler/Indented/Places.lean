import SnippetProfiler.Powers

/-!
# The order of sets

A set keeps its members in a table whose size is a power of two, and lists them in the order of
their places.  Where a member goes depends on its hash and on the places that are taken: it looks
at rows of places, and the first free place is its own.  When the table gets too full, the
members move to a larger one, in their order.
-/

namespace SnippetProfiler.Indented.Places

/-- A table: each place is free or has a member with its hash. -/
abbrev Table (α : Type) := List (Option (Nat × α))

variable {α : Type}

/-- The places behind the first one in a row. -/
def rowLength : Nat := 9

/-- The smallest size of a table. -/
def smallest : Nat := 8

/-- Whether a place is free. -/
def isFree (t : Table α) (place : Nat) : Bool := (t.getD place none).isNone

/-- The row of places from one on; a row that does not fit into the table has one place. -/
def row (size place : Nat) : List Nat :=
  if place + rowLength < size then (List.range (rowLength + 1)).map (place + ·) else [place]

/-- The first free place in the rows from a place on.  The next row begins at a place that
depends also on what is left of the hash. -/
def freePlace (t : Table α) : (fuel place hash : Nat) → Nat
  | 0, place, _ => place
  | fuel + 1, place, hash =>
    match (row t.length place).find? (isFree t) with
    | some free => free
    | none =>
      let hash := hash / 32
      freePlace t fuel ((5 * place + 1 + hash) % t.length) hash

/-- Puts a member at its place in a table with a free place.  A hash has at most 64 bits, so that
nothing is left of it after 13 rows; from then on each place begins a row once. -/
def put (t : Table α) (hash : Nat) (a : α) : Table α :=
  t.set (freePlace t (t.length + 13) (hash % t.length) hash) (some (hash, a))

/-- The members with their hashes, in order. -/
def members (t : Table α) : List (Nat × α) := t.filterMap id

/-- The table with members and a size. -/
def fill (size : Nat) (ms : List (Nat × α)) : Table α :=
  ms.foldl (fun t m => put t m.1 m.2) (List.replicate size none)

/-- The smallest size of a table that is larger than a number. -/
def sizeAbove (n : Nat) : Nat := max smallest (twoTo (Nat.log2 n + 1))

/-- The table with the same members when there are too many of them for its size. -/
def grown (t : Table α) : Table α :=
  let ms := members t
  if 5 * ms.length < 3 * (t.length - 1) then t
  else fill (sizeAbove (if 50000 < ms.length then 2 * ms.length else 4 * ms.length)) ms

/-- Members in the order in which a set lists them that gets them one after the other. -/
def inOrder (ms : List (Nat × α)) : List α :=
  (members (ms.foldl (fun t m => grown (put t m.1 m.2)) (List.replicate smallest none))).map Prod.snd

example : inOrder [(1, 'a'), (9, 'b'), (4, 'c')] = ['a', 'c', 'b'] := by decide

end SnippetProfiler.Indented.Places
