import SnippetProfiler.Feed.Basic
import SnippetProfiler.Settings.Basic

/-!
# The store of feeds

The store keeps the feeds of runs by the ids of the runs.  When a feed is created and there
are more feeds than are to be kept, finished ones are dropped, in the order of the shelf.  An
id that is used again keeps its place on the shelf.

Feeds are known by their numbers, in the order of creation, so that a run whose feed has left
the shelf still has it.
-/

namespace SnippetProfiler

/-- The store. -/
structure FeedStore where
  /-- How many feeds are kept. -/
  retention : Int
  /-- All feeds that were ever created. -/
  feeds : List Feed := []
  /-- The ids with the numbers of the feeds that are kept. -/
  shelf : List (String × Nat) := []
  deriving Repr

namespace FeedStore

/-- How many feeds are kept; zero stands for the number of the settings. -/
def retentionOf (settings : Settings) : Option Int → Int
  | some n => if n = 0 then settings.feedRetention else n
  | none => settings.feedRetention

/-- The number of feeds that are kept now. -/
def size (s : FeedStore) : Nat := s.shelf.length

/-- The number of the feed of an id. -/
def number? (s : FeedStore) (id : String) : Option Nat :=
  (s.shelf.find? fun entry => entry.1 = id).map Prod.snd

/-- The feed of an id. -/
def get? (s : FeedStore) (id : String) : Option Feed :=
  (s.number? id).bind fun number => s.feeds[number]?

/-- Changes a feed. -/
def change (s : FeedStore) (number : Nat) (f : Feed → Feed) : FeedStore :=
  { s with feeds := s.feeds.modify number f }

/-- Whether the feed with a number is finished. -/
def isFinished (s : FeedStore) (number : Nat) : Bool :=
  match s.feeds[number]? with
  | some f => f.finished
  | none => false

/-- The shelf with the feed of an id put in its place, or at the end. -/
def shelve (id : String) (number : Nat) : List (String × Nat) → List (String × Nat)
  | [] => [(id, number)]
  | entry :: rest =>
    if entry.1 = id then (id, number) :: rest else entry :: shelve id number rest

/-- The ids whose feeds are dropped: as many as there are too many, of the finished ones. -/
def surplus (s : FeedStore) : List String :=
  let finished := s.shelf.filter fun entry => s.isFinished entry.2
  (finished.take ((s.size : Int) - s.retention).toNat).map Prod.fst

/-- Drops the feeds that are too many. -/
def evict (s : FeedStore) : FeedStore :=
  { s with shelf := s.shelf.filter fun entry => !s.surplus.contains entry.1 }

/-- Creates a feed for an id, and gives its number. -/
def create (s : FeedStore) (id : String) : FeedStore × Nat :=
  let number := s.feeds.length
  let s := { s with feeds := s.feeds ++ [({ id } : Feed)], shelf := shelve id number s.shelf }
  (s.evict, number)

/-- Takes the feed of an id off the shelf. -/
def discard (s : FeedStore) (id : String) : FeedStore :=
  { s with shelf := s.shelf.filter fun entry => entry.1 ≠ id }

end FeedStore

end SnippetProfiler
