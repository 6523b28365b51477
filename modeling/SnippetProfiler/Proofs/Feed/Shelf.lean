import Mathlib.Data.List.Nodup
import SnippetProfiler.Feed.Store
import SnippetProfiler.Proofs.Feed.Following

/-!
# The shelf of feeds

The shelf has at most one feed for an id.  Nothing takes a feed that is not finished off the shelf
but a new feed for its id, or a request to discard it; least of all does the room on the shelf
matter.
-/

namespace SnippetProfiler

open Relation (ReflTransGen)

namespace FeedStore

/-- A store whose shelf has at most one feed for an id. -/
def IsTidy (s : FeedStore) : Prop := (s.shelf.map Prod.fst).Nodup

/-- The feed with a number is that of an id, has no report, and is not finished. -/
def IsOpen (s : FeedStore) (number : Nat) (id : String) : Prop :=
  ∃ f, s.feeds[number]? = some f ∧ f.id = id ∧ f.report = none ∧ f.finished = false

variable {s t : FeedStore} {id : String} {number : Nat}

theorem IsOpen.isFinished (h : s.IsOpen number id) :
  s.isFinished number = false
  := by
  obtain ⟨f, hf, -, -, hopen⟩ := h
  rw [FeedStore.isFinished, hf]
  apply hopen

/-- An entry of a tidy shelf is the one for its id. -/
theorem IsTidy.entry_eq (h : s.IsTidy) {a b : String × Nat} (ha : a ∈ s.shelf) (hb : b ∈ s.shelf)
    (hid : a.1 = b.1) :
  a = b
  := List.inj_on_of_nodup_map h ha hb hid

/-- The number of a feed on a tidy shelf is that for its id. -/
theorem IsTidy.number?_eq (h : s.IsTidy) (hmem : (id, number) ∈ s.shelf) :
  s.number? id = some number
  := by
  rw [number?]
  cases hfind : s.shelf.find? fun entry => entry.1 = id with
  | none =>
      have hnone := List.find?_eq_none.mp hfind _ hmem
      simp at hnone
  | some entry =>
      have hentry := h.entry_eq (List.mem_of_find?_eq_some hfind) hmem
      have hid := List.find?_some hfind
      simp only [decide_eq_true_eq] at hid
      rw [hentry hid]
      rfl

/-! ### Shelving -/

theorem mem_shelve (id : String) (number : Nat) (shelf : List (String × Nat)) :
  (id, number) ∈ shelve id number shelf
  := by
  induction shelf with
  | nil => apply List.mem_singleton_self
  | cons entry rest ih =>
      rw [shelve]
      split
      · apply List.mem_cons_self
      · apply List.mem_cons_of_mem _ ih

/-- Shelving a feed leaves those of other ids where they are. -/
theorem mem_shelve_of_ne {shelf : List (String × Nat)} {entry : String × Nat}
    (hmem : entry ∈ shelf) (hne : entry.1 ≠ id) :
  entry ∈ shelve id number shelf
  := by
  induction shelf with
  | nil => cases hmem
  | cons first rest ih =>
      rw [shelve]
      split
      · rename_i hid
        rcases List.mem_cons.mp hmem with rfl | hrest
        · cases hne hid
        · apply List.mem_cons_of_mem _ hrest
      · rcases List.mem_cons.mp hmem with rfl | hrest
        · apply List.mem_cons_self
        · apply List.mem_cons_of_mem _ (ih hrest)

/-- Shelving a feed brings no id but its own. -/
theorem of_mem_shelve {shelf : List (String × Nat)} {entry : String × Nat}
    (hmem : entry ∈ shelve id number shelf) :
  entry ∈ shelf ∨ entry.1 = id
  := by
  induction shelf with
  | nil =>
      right
      rw [List.mem_singleton.mp hmem]
  | cons first rest ih =>
      rw [shelve] at hmem
      split at hmem
      · rcases List.mem_cons.mp hmem with rfl | hrest
        · exact .inr rfl
        · exact .inl (List.mem_cons_of_mem _ hrest)
      · rcases List.mem_cons.mp hmem with rfl | hrest
        · exact .inl List.mem_cons_self
        · rcases ih hrest with hrest | hid
          · exact .inl (List.mem_cons_of_mem _ hrest)
          · exact .inr hid

theorem nodup_shelve {shelf : List (String × Nat)} (h : (shelf.map Prod.fst).Nodup) :
  ((shelve id number shelf).map Prod.fst).Nodup
  := by
  induction shelf with
  | nil => simp [shelve]
  | cons first rest ih =>
      obtain ⟨hnew, hrest⟩ := List.nodup_cons.mp h
      rw [shelve]
      split
      · rename_i hid
        rw [List.map_cons, ← hid]
        apply h
      · rename_i hid
        rw [List.map_cons, List.nodup_cons]
        refine ⟨?_, ih hrest⟩
        intro hmem
        obtain ⟨entry, hentry, heq⟩ := List.mem_map.mp hmem
        rcases of_mem_shelve hentry with hold | hsame
        · apply hnew
          rw [← heq]
          apply List.mem_map_of_mem hold
        · apply hid
          rw [← heq, hsame]

/-! ### Dropping feeds -/

theorem IsTidy.evict (h : s.IsTidy) :
  s.evict.IsTidy
  := by
  apply List.Nodup.sublist (List.Sublist.map _ List.filter_sublist)
  apply h

/-- A feed that is not finished is not dropped. -/
theorem IsTidy.mem_evict (h : s.IsTidy) (hmem : (id, number) ∈ s.shelf)
    (hopen : s.isFinished number = false) :
  (id, number) ∈ s.evict.shelf
  := by
  rw [FeedStore.evict, List.mem_filter]
  refine ⟨hmem, ?_⟩
  rw [Bool.not_eq_true', List.contains_eq_mem, decide_eq_false_iff_not]
  intro hsurplus
  obtain ⟨entry, hentry, hid⟩ := List.mem_map.mp hsurplus
  obtain ⟨hshelf, hfinished⟩ := List.mem_filter.mp (List.mem_of_mem_take hentry)
  rw [h.entry_eq hshelf hmem hid, hopen] at hfinished
  cases hfinished

/-! ### New feeds -/

/-- The store with a new feed, before any is dropped. -/
def withNew (s : FeedStore) (id : String) : FeedStore :=
  { s with
    feeds := s.feeds ++ [({ id } : Feed)]
    shelf := shelve id s.feeds.length s.shelf }

theorem create_eq (s : FeedStore) (id : String) :
  s.create id = ((s.withNew id).evict, s.feeds.length)
  := rfl

theorem IsOpen.withNew (h : s.IsOpen number id) (other : String) :
  (s.withNew other).IsOpen number id
  := by
  obtain ⟨f, hf, hopen⟩ := h
  refine ⟨f, ?_, hopen⟩
  simp only [FeedStore.withNew]
  rw [List.getElem?_append_left (List.getElem?_eq_some_iff.mp hf).1, hf]

theorem isOpen_withNew (s : FeedStore) (id : String) :
  (s.withNew id).IsOpen s.feeds.length id
  := by
  refine ⟨{ id }, ?_, rfl, rfl, rfl⟩
  simp only [withNew, List.getElem?_concat_length]

theorem IsOpen.create (h : s.IsOpen number id) (other : String) :
  (s.create other).1.IsOpen number id
  := h.withNew other

theorem isOpen_create (s : FeedStore) (id : String) :
  (s.create id).1.IsOpen (s.create id).2 id
  := s.isOpen_withNew id

theorem length_create (s : FeedStore) (id : String) :
  (s.create id).1.feeds.length = s.feeds.length + 1
  := by
  rw [create_eq]
  simp only [FeedStore.evict, withNew, List.length_append, List.length_singleton]

theorem IsTidy.create (h : s.IsTidy) (id : String) :
  (s.create id).1.IsTidy
  := by
  rw [create_eq]
  apply IsTidy.evict
  apply nodup_shelve h

/-- A new feed is on the shelf. -/
theorem IsTidy.mem_create (h : s.IsTidy) (id : String) :
  (id, (s.create id).2) ∈ (s.create id).1.shelf
  := by
  have htidy : (s.withNew id).IsTidy := nodup_shelve h
  apply htidy.mem_evict (mem_shelve _ _ _) (s.isOpen_withNew id).isFinished

/-- A new feed leaves an open feed of another id on the shelf. -/
theorem IsTidy.mem_create_of_ne (h : s.IsTidy) (hmem : (id, number) ∈ s.shelf)
    (hopen : s.IsOpen number id) {other : String} (hne : id ≠ other) :
  (id, number) ∈ (s.create other).1.shelf
  := by
  have htidy : (s.withNew other).IsTidy := nodup_shelve h
  apply htidy.mem_evict (mem_shelve_of_ne hmem hne) (hopen.withNew other).isFinished

/-! ### Changes of a feed -/

/-- What a change makes of a feed is all that matters of it. -/
theorem change_congr {k k' : Feed → Feed} (h : ∀ f, s.feeds[number]? = some f → k f = k' f) :
  s.change number k = s.change number k'
  := by
  rw [change, change]
  congr 1
  apply List.ext_getElem?
  intro n
  rw [List.getElem?_modify, List.getElem?_modify]
  cases hf : s.feeds[n]? with
  | none => rfl
  | some f =>
      simp only [Option.map_eq_map, Option.map_some]
      split
      · rename_i heq
        subst heq
        rw [h f hf]
      · rfl

theorem change_eq_self {k : Feed → Feed} (h : ∀ f, s.feeds[number]? = some f → k f = f) :
  s.change number k = s
  := by
  have hsame : s.change number k = s.change number id := change_congr h
  rw [hsame, change, List.modify_id]

theorem change_change (s : FeedStore) (number : Nat) (k k' : Feed → Feed) :
  (s.change number k).change number k' = s.change number (k' ∘ k)
  := by
  simp only [change, List.modify_modify_eq]

theorem getElem?_change {f : Feed} (h : s.feeds[number]? = some f) (k : Feed → Feed) :
  (s.change number k).feeds[number]? = some (k f)
  := by
  rw [change, List.getElem?_modify_eq, h]
  rfl

/-- Whether what is done to a store leaves the shelf and the open feeds as they are. -/
structure Keeps (s t : FeedStore) : Prop where
  shelf : t.shelf = s.shelf
  length : t.feeds.length = s.feeds.length
  isOpen : ∀ number id, s.IsOpen number id → t.IsOpen number id

theorem Keeps.refl (s : FeedStore) :
  Keeps s s
  := ⟨rfl, rfl, fun _ _ h => h⟩

theorem Keeps.trans {u : FeedStore} (h : Keeps s t) (h' : Keeps t u) :
  Keeps s u
  := ⟨h'.shelf.trans h.shelf, h'.length.trans h.length, fun number id hopen =>
    h'.isOpen number id (h.isOpen number id hopen)⟩

/-- Changing a feed leaves the others open. -/
theorem IsOpen.change (h : s.IsOpen number id) {other : Nat} (hne : other ≠ number)
    (g : Feed → Feed) :
  (s.change other g).IsOpen number id
  := by
  obtain ⟨f, hf, hopen⟩ := h
  refine ⟨f, ?_, hopen⟩
  rw [FeedStore.change, List.getElem?_modify_ne _ _ hne, hf]

/-- A change of a feed that keeps its id, has no report, and does not finish it keeps it open. -/
theorem keeps_change (s : FeedStore) (number : Nat) {g : Feed → Feed}
    (hg : ∀ f, s.feeds[number]? = some f →
      (g f).id = f.id ∧ (g f).report = f.report ∧ (g f).finished = f.finished) :
  Keeps s (s.change number g)
  := by
  constructor
  · rfl
  · rw [change, List.length_modify]
  · intro other id hopen
    by_cases hne : number = other
    · subst hne
      obtain ⟨f, hf, hid, hreport, hfinished⟩ := hopen
      obtain ⟨hid', hreport', hfinished'⟩ := hg f hf
      refine ⟨g f, ?_, hid'.trans hid, hreport'.trans hreport, hfinished'.trans hfinished⟩
      apply getElem?_change hf
    · apply hopen.change hne

/-! ### Feeds that are shown -/

/-- The shelf has the feed with a number for an id, and the feed is not finished. -/
def Shows (s : FeedStore) (id : String) (number : Nat) : Prop :=
  (id, number) ∈ s.shelf ∧ s.IsOpen number id

theorem IsTidy.shows_create (h : s.IsTidy) (id : String) :
  (s.create id).1.Shows id (s.create id).2
  := ⟨h.mem_create id, s.isOpen_create id⟩

/-- A new feed takes none from the shelf that is shown for another id. -/
theorem Shows.create (h : s.Shows id number) (htidy : s.IsTidy) {other : String} (hne : id ≠ other) :
  (s.create other).1.Shows id number
  := ⟨htidy.mem_create_of_ne h.1 h.2 hne, h.2.create other⟩

theorem Shows.change (h : s.Shows id number) {other : Nat} (hne : other ≠ number)
    (k : Feed → Feed) :
  (s.change other k).Shows id number
  := ⟨h.1, h.2.change hne k⟩

theorem Shows.of_keeps (h : s.Shows id number) (hkeeps : Keeps s t) :
  t.Shows id number
  := by
  rw [Shows, hkeeps.shelf]
  exact ⟨h.1, hkeeps.isOpen number id h.2⟩

/-- The feed that is shown for an id is what the store has for it. -/
theorem Shows.get? (h : s.Shows id number) (htidy : s.IsTidy) :
  ∃ f, s.get? id = some f ∧ f.report = none ∧ f.finished = false
  := by
  obtain ⟨hshelf, f, hf, -, hopen⟩ := h
  refine ⟨f, ?_, hopen⟩
  rw [FeedStore.get?, htidy.number?_eq hshelf, Option.bind_some, hf]

end FeedStore

end SnippetProfiler
