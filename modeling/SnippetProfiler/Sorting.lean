/-!
# Sorting by a relation

`sort` puts a list into the order of a relation `precedes`, and keeps the order of items of which
none precedes the other.  For that the relation has to be a strict weak order on the items.  Some
items have no place in it, such as times that are not numbers: nothing precedes them, and they
precede nothing.  A list with such an item is sorted by binary insertion: it starts with its first
run, and each further item goes where a binary search ends.
-/

namespace SnippetProfiler.Sorting

variable {α : Type}

/-! ### Binary insertion -/

/-- The rest of an ascending run, whose items so far stand in reverse, and the rest of the list. -/
def ascend (precedes : α → α → Bool) (last : α) (run : List α) : List α → List α × List α
  | [] => ((last :: run).reverse, [])
  | a :: rest =>
    if precedes a last then ((last :: run).reverse, a :: rest)
    else ascend precedes a (last :: run) rest

/-- The rest of a strictly descending run, whose items so far stand in reverse and so in ascending
order, and the rest of the list. -/
def descend (precedes : α → α → Bool) (last : α) (run : List α) : List α → List α × List α
  | [] => (last :: run, [])
  | a :: rest =>
    if precedes a last then descend precedes a (last :: run) rest else (last :: run, a :: rest)

/-- The first run of a list in ascending order, and the rest of the list. -/
def firstRun (precedes : α → α → Bool) : List α → List α × List α
  | a :: b :: rest =>
    if precedes b a then descend precedes b [a] rest else ascend precedes b [a] rest
  | short => (short, [])

/-- The place of an item among the items from `low` to `high`, where a binary search ends. -/
def place (precedes : α → α → Bool) (items : Array α) (item : α) (low high : Nat) : Nat :=
  if low < high then
    let middle := low + (high - low) / 2
    match items[middle]? with
    | none => low
    | some other =>
      if precedes item other then place precedes items item low middle
      else place precedes items item (middle + 1) high
  else low
termination_by high - low

/-- Puts an item into its place. -/
def insert (precedes : α → α → Bool) (sorted : List α) (item : α) : List α :=
  let n := place precedes sorted.toArray item 0 sorted.length
  sorted.take n ++ item :: sorted.drop n

/-- A list sorted by binary insertion. -/
def insertAll (precedes : α → α → Bool) (items : List α) : List α :=
  let (run, rest) := firstRun precedes items
  rest.foldl (insert precedes) run

/-! ### Sorting -/

/-- A list in ascending order; `hasPlace` tells which items have a place in the order. -/
def sort (precedes : α → α → Bool) (hasPlace : α → Bool) (items : List α) : List α :=
  if items.all hasPlace then items.mergeSort fun a b => !precedes b a
  else insertAll precedes items

/-- A list in descending order; items of which none precedes the other keep their order. -/
def sortDown (precedes : α → α → Bool) (hasPlace : α → Bool) (items : List α) : List α :=
  if items.all hasPlace then items.mergeSort fun a b => !precedes a b
  else (insertAll precedes items.reverse).reverse

end SnippetProfiler.Sorting
