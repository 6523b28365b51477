import Mathlib.Data.List.Nodup
import Mathlib.Data.List.Perm.Subperm
import SnippetProfiler.Proofs.Feed.Eviction

/-!
# The room on the shelf

A feed that is not finished stays on the shelf until its id is discarded or used again.  So the shelf
may have more feeds than are to be kept: feeds finish without making way, and a new feed drives off no
more than are finished.  But when a feed has been created, either the shelf has no more feeds than are
to be kept, or there is no finished feed left on it.
-/

namespace SnippetProfiler.FeedStore

/-- The entries of the feeds on the shelf that are not finished. -/
def unfinishedShelf (s : FeedStore) : List (String × Nat) :=
  s.shelf.filter fun entry => !s.isFinished entry.2

variable {s : FeedStore} {retention : Int} {ops : List Operation} {entry : String × Nat}

/-! ### Feeds that stay -/

/-- An operation takes an unfinished feed off the shelf exactly if it discards its id or creates a new
feed for it. -/
theorem not_mem_shelf_operate_iff (h : s.IsTidy) (hentry : entry ∈ s.shelf)
    (hlt : entry.2 < s.feeds.length) (hopen : s.isFinished entry.2 = false) (op : Operation) :
  entry ∉ (s.operate op).shelf ↔ op = .discard entry.1 ∨ op = .create entry.1
  := by
  cases op with
  | create id =>
      have hcreate : entry ∉ (s.create id).1.shelf ↔ id = entry.1 := by
        constructor
        · intro hgone
          by_contra hne
          apply hgone
          have htidy : (s.withNew id).IsTidy := nodup_shelve h
          apply htidy.mem_evict (mem_shelve_of_ne hentry (Ne.symm hne))
          rw [isFinished_withNew]
          exact hopen
        · rintro rfl hmem
          -- the place of the id is that of the new feed
          have heq := (h.create entry.1).entry_eq hmem (h.mem_create entry.1) rfl
          have hnumber : entry.2 = s.feeds.length := congrArg Prod.snd heq
          omega
      rw [operate, hcreate]
      simp
  | discard id =>
      have hdiscard : entry ∈ (s.discard id).shelf ↔ entry.1 ≠ id := by
        rw [discard, List.mem_filter, decide_eq_true_eq]
        exact and_iff_right hentry
      rw [operate, hdiscard]
      simp [eq_comm]
  | call number c =>
      have hstays : entry ∈ (s.operate (.call number c)).shelf := hentry
      simp [hstays]

/-- A finished feed stays finished. -/
theorem isFinished_operate {number : Nat} (h : s.isFinished number = true) (op : Operation) :
  (s.operate op).isFinished number = true
  := by
  cases op with
  | create id => exact (isFinished_withNew s id number).trans h
  | discard id => exact h
  | call other c =>
      rw [isFinished] at h ⊢
      rw [operate, change, List.getElem?_modify]
      cases hf : s.feeds[number]? with
      | none =>
          rw [hf] at h
          cases h
      | some f =>
          rw [hf] at h
          simp only [Option.map_eq_map, Option.map_some]
          split
          · obtain ⟨report, hcall⟩ := Feed.call_of_finished h c
            simp only [hcall]
            exact h
          · exact h

theorem isFinished_after {number : Nat} (h : (after retention ops).isFinished number = true)
    (rest : List Operation) :
  (after retention (ops ++ rest)).isFinished number = true
  := by
  induction rest using List.reverseRecOn with
  | nil =>
      rw [List.append_nil]
      exact h
  | append_singleton rest op ih =>
      rw [← List.append_assoc, after_concat]
      exact isFinished_operate ih op

/-- As long as a feed is not finished, it has left the shelf exactly if meanwhile its id was discarded
or used again. -/
theorem not_mem_shelf_after_iff (hentry : entry ∈ (after retention ops).shelf) (rest : List Operation)
    (hopen : (after retention (ops ++ rest)).isFinished entry.2 = false) :
  entry ∉ (after retention (ops ++ rest)).shelf
    ↔ .discard entry.1 ∈ rest ∨ .create entry.1 ∈ rest
  := by
  induction rest using List.reverseRecOn with
  | nil =>
      rw [List.append_nil]
      simp [hentry]
  | append_singleton rest op ih =>
      have hlt : entry.2 < (after retention (ops ++ rest)).feeds.length :=
        Nat.lt_of_lt_of_le (number_lt hentry) (length_le_after retention ops rest)
      have hbefore : (after retention (ops ++ rest)).isFinished entry.2 = false := by
        rw [Bool.eq_false_iff] at hopen ⊢
        intro hfinished
        apply hopen
        rw [← List.append_assoc]
        exact isFinished_after hfinished [op]
      rw [← List.append_assoc]
      by_cases hstays : entry ∈ (after retention (ops ++ rest)).shelf
      · have hnone : ¬ (.discard entry.1 ∈ rest ∨ .create entry.1 ∈ rest) := by
          rw [← ih hbefore]
          exact not_not_intro hstays
        rw [after_concat, not_mem_shelf_operate_iff (isTidy_after ..) hstays hlt hbefore]
        simp only [List.mem_append, List.mem_singleton]
        grind
      · -- its number is not given again
        have hgone : entry ∉ (after retention (ops ++ rest ++ [op])).shelf := by
          intro hmem
          exact hstays (mem_shelf_before hmem hlt)
        have hsome := (ih hbefore).mp hstays
        simp only [List.mem_append, List.mem_singleton]
        grind

/-! ### How many stay -/

/-- Every feed on the shelf is finished or is not. -/
theorem length_finishedShelf_add (s : FeedStore) :
  s.finishedShelf.length + s.unfinishedShelf.length = s.size
  := by
  exact (List.length_eq_length_filter_add _).symm

/-- As many feeds are dropped as there are ids to drop. -/
theorem IsTidy.size_evict (h : s.IsTidy) :
  s.evict.size + s.surplus.length = s.size
  := by
  have hsub : s.surplus.Sublist (s.shelf.map Prod.fst) :=
    ((List.take_sublist ..).trans List.filter_sublist).map _
  have hperm : ((s.shelf.filter fun entry => s.surplus.contains entry.1).map Prod.fst).Perm
      s.surplus := by
    rw [List.perm_ext_iff_of_nodup (h.sublist (List.filter_sublist.map _)) (h.sublist hsub)]
    intro id
    rw [List.mem_map]
    constructor
    · rintro ⟨entry, hentry, rfl⟩
      simpa using (List.mem_filter.mp hentry).2
    · intro hid
      obtain ⟨entry, hentry, rfl⟩ := List.mem_map.mp (hsub.subset hid)
      use entry, List.mem_filter.mpr ⟨hentry, by simpa using hid⟩
  have hlength := hperm.length_eq
  rw [List.length_map] at hlength
  rw [← hlength, size, size, FeedStore.evict, Nat.add_comm]
  exact (List.length_eq_length_filter_add _).symm

/-- Dropping feeds drops none that is not finished. -/
theorem IsTidy.unfinishedShelf_evict (h : s.IsTidy) :
  s.evict.unfinishedShelf = s.unfinishedShelf
  := by
  have hkept : ∀ entry ∈ s.shelf, s.isFinished entry.2 = false →
      (!s.surplus.contains entry.1) = true := by
    intro entry hentry hopen
    exact (List.mem_filter.mp (h.mem_evict hentry hopen)).2
  rw [FeedStore.unfinishedShelf, FeedStore.unfinishedShelf, FeedStore.evict, List.filter_filter]
  apply List.filter_congr
  intro entry hentry
  change (!s.isFinished entry.2 && _) = _
  cases hfinished : s.isFinished entry.2 with
  | true => rfl
  | false => exact hkept entry hentry hfinished

theorem IsTidy.unfinishedShelf_create (h : s.IsTidy) (id : String) :
  (s.create id).1.unfinishedShelf = (s.withNew id).unfinishedShelf
  := by
  have htidy : (s.withNew id).IsTidy := nodup_shelve h
  exact htidy.unfinishedShelf_evict

/-- How many feeds are to be kept stays the same. -/
theorem retention_after (retention : Int) (ops : List Operation) :
  (after retention ops).retention = retention
  := by
  induction ops using List.reverseRecOn with
  | nil => rfl
  | append_singleton ops op ih =>
      rw [after_concat]
      cases op with
      | create id => exact ih
      | discard id => exact ih
      | call number c => exact ih

/-- How many feeds are on the shelf when one has been created. -/
theorem IsTidy.size_create (h : s.IsTidy) (id : String) :
  (s.create id).1.size
    = max (s.withNew id).unfinishedShelf.length (min (s.withNew id).size s.retention.toNat)
  := by
  have htidy : (s.withNew id).IsTidy := nodup_shelve h
  have hsplit := length_finishedShelf_add (s.withNew id)
  have hsize : (s.create id).1.size + (s.withNew id).surplus.length = (s.withNew id).size :=
    htidy.size_evict
  have hsurplus : (s.withNew id).surplus.length
      = min ((s.withNew id).size - s.retention : Int).toNat (s.withNew id).finishedShelf.length := by
    rw [surplus, List.length_map, List.length_take]
    rfl
  omega

/-- Whatever has happened, an operation takes a feed that is not finished off the shelf exactly if it
discards the id of the feed or creates a feed for it; and when a feed has been created, there are no more
feeds on the shelf than are to be kept, or than are not finished. -/
theorem shelf_has_room (retention : Int) (ops : List Operation) :
  (∀ entry ∈ (after retention ops).unfinishedShelf, ∀ op,
      entry ∉ (after retention (ops ++ [op])).shelf ↔ op = .discard entry.1 ∨ op = .create entry.1)
    ∧ ∀ id, ((after retention (ops ++ [.create id])).size : Int)
      ≤ max retention (after retention (ops ++ [.create id])).unfinishedShelf.length
  := by
  have htidy := isTidy_after retention ops
  constructor
  · intro entry hentry op
    obtain ⟨hshelf, hopen⟩ := List.mem_filter.mp hentry
    rw [Bool.not_eq_true'] at hopen
    rw [after_concat]
    exact not_mem_shelf_operate_iff htidy hshelf (number_lt hshelf) hopen op
  · intro id
    have hsize := htidy.size_create id
    rw [← htidy.unfinishedShelf_create] at hsize
    have hretention : (after retention ops).retention = retention := retention_after retention ops
    rw [after_concat, operate]
    omega

/-- Of two runs the first one is over. -/
def halfway : List Operation := [.create "a", .create "b", .call 0 (.error "done")]

/-- A third run takes the room of the first one and leaves the second one, so that there is one more than
is to be kept. -/
theorem shelf_has_room_halfway :
  (after 1 halfway).unfinishedShelf = [("b", 1)]
    ∧ ("b", 1) ∈ (after 1 (halfway ++ [.create "c"])).shelf
    ∧ ("b", 1) ∉ (after 1 (halfway ++ [.discard "b"])).shelf
    ∧ (after 1 (halfway ++ [.create "c"])).size = 2
    ∧ ((after 1 (halfway ++ [.create "c"])).size : Int)
      ≤ max 1 (after 1 (halfway ++ [.create "c"])).unfinishedShelf.length
  := by
  have hopen : (after 1 halfway).unfinishedShelf = [("b", 1)] := by decide
  obtain ⟨hleaves, hroom⟩ := shelf_has_room 1 halfway
  have hleaves := hleaves ("b", 1) (by decide)
  refine ⟨hopen, ?_, ?_, by decide, hroom "c"⟩
  · by_contra hgone
    obtain hop | hop := (hleaves (.create "c")).mp hgone
    · cases hop
    · have hid : "c" = "b" := Operation.create.inj hop
      contradiction
  · exact (hleaves (.discard "b")).mpr (.inl rfl)

end SnippetProfiler.FeedStore
