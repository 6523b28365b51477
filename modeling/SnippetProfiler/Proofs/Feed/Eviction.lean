import Mathlib.Data.List.Induction
import Mathlib.Data.List.Infix
import SnippetProfiler.Proofs.Feed.Shelf

/-!
# Which feeds make way

A new feed may drive finished feeds off the shelf: as many as there are too many, from the front of
the shelf on.  Feeds are numbered in the order in which they are created, so the oldest ones make way
as long as the numbers on the shelf increase.

They need not: a feed for an id that is on the shelf takes the place of the old one, in front of feeds
that are older than it.  This is the only way in which a feed makes way for an older one.
-/

namespace SnippetProfiler.FeedStore

/-! ### Histories -/

/-- What happens to a store: a feed is created, or taken off the shelf, or the one who tells of a run
calls the feed with a number, which may finish it. -/
inductive Operation where
  | create (id : String)
  | discard (id : String)
  | call (number : Nat) (c : Feed.Call)

/-- A store after an operation. -/
def operate (s : FeedStore) : Operation → FeedStore
  | .create id => (s.create id).1
  | .discard id => s.discard id
  | .call number c => s.change number fun f => f.call c

/-- An empty store after operations. -/
def after (retention : Int) (ops : List Operation) : FeedStore := ops.foldl operate { retention }

/-- The ids on the shelf. -/
def ids (s : FeedStore) : List String := s.shelf.map Prod.fst

/-- The entries of other ids that a new feed drives off the shelf. -/
def evicted (s : FeedStore) (id : String) : List (String × Nat) :=
  s.shelf.filter fun entry => entry.1 ≠ id && !(s.create id).1.shelf.contains entry

/-- The entries of the finished feeds on the shelf. -/
def finishedShelf (s : FeedStore) : List (String × Nat) :=
  s.shelf.filter fun entry => s.isFinished entry.2

/-- Whether a new feed drives only finished feeds off the shelf, and none that is younger than a finished
feed that stays. -/
def EvictsOldest (s : FeedStore) (id : String) : Prop :=
  ∀ entry ∈ s.evicted id, s.isFinished entry.2 = true
    ∧ ∀ kept ∈ (s.create id).1.finishedShelf, entry.2 < kept.2

instance (s : FeedStore) (id : String) : Decidable (s.EvictsOldest id) :=
  inferInstanceAs (Decidable (∀ entry ∈ s.evicted id, _ ∧ ∀ kept ∈ (s.create id).1.finishedShelf, _))

/-- Since the feed of an entry was created, some operations have happened, and all the time an id has
been on the shelf. -/
def HasOutlasted (retention : Int) (ops since : List Operation) (id : String)
    (entry : String × Nat) : Prop :=
  ∃ before, ops = before ++ .create entry.1 :: since
    ∧ (after retention before).feeds.length = entry.2
    ∧ ∀ front, front <+: .create entry.1 :: since → id ∈ (after retention (before ++ front)).ids

/-- An id has been on the shelf since before the feed of an entry was created, and another feed was
created for the id after that one. -/
def WasReused (retention : Int) (ops : List Operation) (id : String) (entry : String × Nat) : Prop :=
  ∃ since, HasOutlasted retention ops since id entry ∧ .create id ∈ since

variable {retention : Int} {ops since before : List Operation} {s : FeedStore} {id : String}
  {entry a b : String × Nat}

theorem after_concat (retention : Int) (ops : List Operation) (op : Operation) :
  after retention (ops ++ [op]) = (after retention ops).operate op
  := List.foldl_concat ..

/-! ### Shelving -/

/-- A feed is put behind the others, or in the place of the feed of its id. -/
theorem shelve_cases (id : String) (number : Nat) (shelf : List (String × Nat)) :
  (id ∉ shelf.map Prod.fst ∧ shelve id number shelf = shelf ++ [(id, number)])
    ∨ ∃ front old back, shelf = front ++ (id, old) :: back
      ∧ shelve id number shelf = front ++ (id, number) :: back
  := by
  induction shelf with
  | nil => exact .inl ⟨List.not_mem_nil, rfl⟩
  | cons first rest ih =>
      rw [shelve]
      split
      · rename_i hid
        right
        refine ⟨[], first.2, rest, ?_, rfl⟩
        rw [← hid]
        rfl
      · rename_i hid
        obtain ⟨hnone, hrest⟩ | ⟨front, old, back, hsplit, hrest⟩ := ih
        · left
          constructor
          · rw [List.map_cons, List.mem_cons]
            rintro (heq | hmem)
            · exact hid heq.symm
            · exact hnone hmem
          · rw [hrest]
            rfl
        · right
          refine ⟨first :: front, old, back, ?_, ?_⟩
          · rw [hsplit]
            rfl
          · rw [hrest]
            rfl

/-- What an operation leaves on the shelf was there, or is the feed that it has created. -/
theorem mem_shelf_operate {op : Operation} (h : entry ∈ (s.operate op).shelf) :
  entry ∈ s.shelf ∨ op = .create entry.1 ∧ entry.2 = s.feeds.length
  := by
  cases op with
  | create id =>
      have hmem : entry ∈ shelve id s.feeds.length s.shelf := List.mem_of_mem_filter h
      obtain ⟨-, hshelve⟩ | ⟨front, old, back, hsplit, hshelve⟩ :=
        shelve_cases id s.feeds.length s.shelf
      · rw [hshelve, List.mem_append, List.mem_singleton] at hmem
        obtain hold | rfl := hmem
        · exact .inl hold
        · exact .inr ⟨rfl, rfl⟩
      · rw [hshelve, List.mem_append, List.mem_cons] at hmem
        rw [hsplit, List.mem_append, List.mem_cons]
        obtain hfront | rfl | hback := hmem
        · exact .inl (.inl hfront)
        · exact .inr ⟨rfl, rfl⟩
        · exact .inl (.inr (.inr hback))
  | discard id => exact .inl (List.mem_of_mem_filter h)
  | call number c => exact .inl h

/-- An operation forgets no feed. -/
theorem length_le_operate (s : FeedStore) (op : Operation) :
  s.feeds.length ≤ (s.operate op).feeds.length
  := by
  cases op with
  | create id =>
      rw [operate, length_create]
      apply Nat.le_succ
  | discard id => exact Nat.le_refl _
  | call number c =>
      apply Nat.le_of_eq
      exact (List.length_modify ..).symm

theorem length_le_after (retention : Int) (before rest : List Operation) :
  (after retention before).feeds.length ≤ (after retention (before ++ rest)).feeds.length
  := by
  induction rest using List.reverseRecOn with
  | nil =>
      apply Nat.le_of_eq
      rw [List.append_nil]
  | append_singleton rest op ih =>
      rw [← List.append_assoc, after_concat]
      exact Nat.le_trans ih (length_le_operate _ op)

/-- The numbers that are given later are larger than that of a feed that is created. -/
theorem length_lt_after (retention : Int) (before rest : List Operation) (id : String) :
  (after retention before).feeds.length
    < (after retention (before ++ .create id :: rest)).feeds.length
  := by
  have hle := length_le_after retention (before ++ [.create id]) rest
  rw [List.append_cons]
  apply Nat.lt_of_lt_of_le _ hle
  rw [after_concat, operate, length_create]
  apply Nat.lt_succ_self

/-- A shelf has at most one feed for an id, whatever happens. -/
theorem isTidy_after (retention : Int) (ops : List Operation) :
  (after retention ops).IsTidy
  := by
  induction ops using List.reverseRecOn with
  | nil => exact List.nodup_nil
  | append_singleton ops op ih =>
      rw [after_concat]
      cases op with
      | create id => exact ih.create id
      | discard id => exact ih.sublist (List.filter_sublist.map _)
      | call number c => exact ih

/-- What is on the shelf was created. -/
theorem exists_created (h : entry ∈ (after retention ops).shelf) :
  ∃ before since, ops = before ++ .create entry.1 :: since
    ∧ (after retention before).feeds.length = entry.2
  := by
  induction ops using List.reverseRecOn with
  | nil => cases h
  | append_singleton ops op ih =>
      rw [after_concat] at h
      obtain hold | ⟨rfl, hnumber⟩ := mem_shelf_operate h
      · obtain ⟨before, since, rfl, hlength⟩ := ih hold
        exact ⟨before, since ++ [op], List.append_assoc .., hlength⟩
      · exact ⟨ops, [], rfl, hnumber.symm⟩

theorem number_lt (h : entry ∈ (after retention ops).shelf) :
  entry.2 < (after retention ops).feeds.length
  := by
  obtain ⟨before, since, rfl, hlength⟩ := exists_created h
  rw [← hlength]
  apply length_lt_after

/-- What is on the shelf was there whenever its number had been given. -/
theorem mem_shelf_before {rest : List Operation}
    (h : entry ∈ (after retention (before ++ rest)).shelf)
    (hlt : entry.2 < (after retention before).feeds.length) :
  entry ∈ (after retention before).shelf
  := by
  induction rest using List.reverseRecOn with
  | nil =>
      rw [List.append_nil] at h
      exact h
  | append_singleton rest op ih =>
      rw [← List.append_assoc, after_concat] at h
      obtain hold | ⟨-, hnumber⟩ := mem_shelf_operate h
      · exact ih hold
      · have hle := length_le_after retention before rest
        omega

/-! ### The order of the shelf -/

/-- Whether two entries stand in the order of their numbers, unless the id of the first one was used
again. -/
def AreInOrder (retention : Int) (ops : List Operation) (a b : String × Nat) : Prop :=
  a.2 < b.2 ∨ WasReused retention ops a.1 b

theorem HasOutlasted.concat (h : HasOutlasted retention ops since id entry) {op : Operation}
    (hid : id ∈ (after retention (ops ++ [op])).ids) :
  HasOutlasted retention (ops ++ [op]) (since ++ [op]) id entry
  := by
  obtain ⟨before, rfl, hlength, hkept⟩ := h
  refine ⟨before, List.append_assoc .., hlength, ?_⟩
  intro front hfront
  rw [← List.cons_append, List.prefix_concat_iff] at hfront
  obtain rfl | hfront := hfront
  · rw [← List.append_assoc]
    exact hid
  · exact hkept front hfront

/-- An entry on the shelf has outlasted the younger ones. -/
theorem hasOutlasted_of_lt (ha : a ∈ (after retention ops).shelf)
    (hb : b ∈ (after retention ops).shelf) (hlt : a.2 < b.2) :
  ∃ since, HasOutlasted retention ops since a.1 b
  := by
  obtain ⟨before, since, rfl, hlength⟩ := exists_created hb
  refine ⟨since, before, rfl, hlength, ?_⟩
  rintro front ⟨rest, hrest⟩
  rw [← hrest, ← List.append_assoc] at ha
  apply List.mem_map_of_mem
  apply mem_shelf_before ha
  rw [← hlength] at hlt
  exact Nat.lt_of_lt_of_le hlt (length_le_after retention before front)

theorem AreInOrder.hasOutlasted (h : AreInOrder retention ops a b)
    (ha : a ∈ (after retention ops).shelf) (hb : b ∈ (after retention ops).shelf) :
  ∃ since, HasOutlasted retention ops since a.1 b
  := by
  obtain hlt | ⟨since, hsince, -⟩ := h
  · exact hasOutlasted_of_lt ha hb hlt
  · exact ⟨since, hsince⟩

/-- An entry is younger than those for which its id was used again. -/
theorem WasReused.lt (h : WasReused retention ops a.1 b) (ha : a ∈ (after retention ops).shelf) :
  b.2 < a.2
  := by
  obtain ⟨since, ⟨before, rfl, hlength, -⟩, hagain⟩ := h
  obtain ⟨early, late, rfl⟩ := List.append_of_mem hagain
  let middle := before ++ .create b.1 :: early
  have hmiddle : b.2 < (after retention middle).feeds.length := by
    rw [← hlength]
    apply length_lt_after
  by_contra hnot
  -- the entry would have been there all along, beside the new feed of its id
  have hold : a ∈ (after retention (middle ++ [.create a.1])).shelf := by
    have hsplit : before ++ .create b.1 :: (early ++ .create a.1 :: late)
        = middle ++ [.create a.1] ++ late := by simp [middle]
    rw [hsplit] at ha
    apply mem_shelf_before ha
    have hle := length_le_after retention middle [.create a.1]
    omega
  rw [after_concat] at hold
  have htidy := isTidy_after retention middle
  have heq := congrArg Prod.snd ((htidy.create a.1).entry_eq hold (htidy.mem_create a.1) rfl)
  rw [create_eq] at heq
  omega

/-- What an operation leaves on the shelf is in order if what it takes it from is, but for ids that the
operation itself uses again. -/
theorem pairwise_of_sublist {op : Operation} {shelf : List (String × Nat)}
    (hsub : (after retention (ops ++ [op])).shelf.Sublist shelf)
    (hraw : shelf.Pairwise fun a b => a.2 < b.2
      ∨ ∃ since, HasOutlasted retention ops since a.1 b ∧ .create a.1 ∈ since ++ [op]) :
  (after retention (ops ++ [op])).shelf.Pairwise (AreInOrder retention (ops ++ [op]))
  := by
  apply (hraw.sublist hsub).imp_of_mem
  intro a b ha hb hab
  obtain hlt | ⟨since, hsince, hagain⟩ := hab
  · exact .inl hlt
  · exact .inr ⟨_, hsince.concat (List.mem_map_of_mem ha), hagain⟩

/-- A new feed comes behind the others, or into the place of an entry that has outlasted those behind
it. -/
theorem pairwise_shelve {id : String}
    (horder : (after retention ops).shelf.Pairwise (AreInOrder retention ops))
    (hold : (after retention ops).shelf.Pairwise fun a b => a.2 < b.2
      ∨ ∃ since, HasOutlasted retention ops since a.1 b ∧ .create a.1 ∈ since ++ [.create id]) :
  (shelve id (after retention ops).feeds.length (after retention ops).shelf).Pairwise fun a b =>
    a.2 < b.2
      ∨ ∃ since, HasOutlasted retention ops since a.1 b ∧ .create a.1 ∈ since ++ [.create id]
  := by
  obtain ⟨-, hshelve⟩ | ⟨front, old, back, hsplit, hshelve⟩ :=
    shelve_cases id (after retention ops).feeds.length (after retention ops).shelf
  · rw [hshelve, List.pairwise_append]
    refine ⟨hold, List.pairwise_singleton .., ?_⟩
    intro a ha b hb
    rw [List.mem_singleton.mp hb]
    exact .inl (number_lt ha)
  · have hmem : ∀ entry ∈ front ++ (id, old) :: back, entry ∈ (after retention ops).shelf := by
      rw [hsplit]
      exact fun _ h => h
    rw [hsplit] at horder hold
    rw [hshelve]
    rw [List.pairwise_append, List.pairwise_cons] at horder hold ⊢
    obtain ⟨hfront, ⟨-, hback⟩, hbetween⟩ := hold
    refine ⟨hfront, ⟨?_, hback⟩, ?_⟩
    · intro b hb
      have hb' : b ∈ front ++ (id, old) :: back := by simp [hb]
      have hid' : (id, old) ∈ front ++ (id, old) :: back := by simp
      obtain ⟨since, hsince⟩ := (horder.2.1.1 b hb).hasOutlasted (hmem _ hid') (hmem _ hb')
      exact .inr ⟨since, hsince, List.mem_append_right _ (List.mem_singleton_self _)⟩
    · intro a ha b hb
      rw [List.mem_cons] at hb
      obtain rfl | hb := hb
      · exact .inl (number_lt (hmem a (List.mem_append_left _ ha)))
      · exact hbetween a ha b (List.mem_cons_of_mem _ hb)

/-- The shelf is in order, whatever happens. -/
theorem pairwise_shelf (retention : Int) (ops : List Operation) :
  (after retention ops).shelf.Pairwise (AreInOrder retention ops)
  := by
  induction ops using List.reverseRecOn with
  | nil => exact List.Pairwise.nil
  | append_singleton ops op ih =>
      have hold : (after retention ops).shelf.Pairwise fun a b => a.2 < b.2
          ∨ ∃ since, HasOutlasted retention ops since a.1 b ∧ .create a.1 ∈ since ++ [op] := by
        apply ih.imp
        rintro a b (hlt | ⟨since, hsince, hagain⟩)
        · exact .inl hlt
        · exact .inr ⟨since, hsince, List.mem_append_left _ hagain⟩
      cases op with
      | create id =>
          apply pairwise_of_sublist _ (pairwise_shelve ih hold)
          rw [after_concat]
          exact List.filter_sublist
      | discard id =>
          apply pairwise_of_sublist _ hold
          rw [after_concat]
          exact List.filter_sublist
      | call number c =>
          apply pairwise_of_sublist _ hold
          rw [after_concat]
          exact List.Sublist.refl _

/-! ### Dropping feeds -/

/-- The finished feeds of other ids, which can make way for a new one. -/
def candidates (s : FeedStore) (id : String) : List (String × Nat) :=
  s.shelf.filter fun entry => entry.1 ≠ id && s.isFinished entry.2

/-- How many feeds are too many when there is a new one. -/
def excess (s : FeedStore) (id : String) : Nat := ((s.withNew id).size - s.retention : Int).toNat

theorem isFinished_withNew (s : FeedStore) (id : String) (number : Nat) :
  (s.withNew id).isFinished number = s.isFinished number
  := by
  rw [isFinished, isFinished, withNew]
  by_cases hlt : number < s.feeds.length
  · rw [List.getElem?_append_left hlt]
  · rw [List.getElem?_append_right (Nat.le_of_not_lt hlt),
      List.getElem?_eq_none (Nat.le_of_not_lt hlt)]
    cases number - s.feeds.length with
    | zero => rfl
    | succ n => rfl

/-- The finished feeds on a tidy shelf with a new feed are those of other ids. -/
theorem IsTidy.finishedShelf_withNew (h : s.IsTidy) (id : String) :
  (s.withNew id).finishedShelf = s.candidates id
  := by
  have hnew : s.isFinished s.feeds.length = false := by
    rw [← isFinished_withNew s id]
    apply (s.isOpen_withNew id).isFinished
  have hothers {entries : List (String × Nat)} (hid : id ∉ entries.map Prod.fst) :
      entries.filter (fun entry => s.isFinished entry.2)
        = entries.filter fun entry => entry.1 ≠ id && s.isFinished entry.2 := by
    apply List.filter_congr
    intro entry hentry
    have hne : entry.1 ≠ id := by
      rintro rfl
      exact hid (List.mem_map_of_mem hentry)
    simp [hne]
  simp only [finishedShelf, isFinished_withNew, candidates]
  obtain ⟨hid, hshelve⟩ | ⟨front, old, back, hsplit, hshelve⟩ :=
    shelve_cases id s.feeds.length s.shelf
  · rw [withNew, hshelve, List.filter_append, hothers hid]
    simp [hnew]
  · rw [IsTidy, hsplit, List.map_append, List.map_cons, List.nodup_append, List.nodup_cons] at h
    obtain ⟨-, ⟨hback, -⟩, hfront⟩ := h
    have hfront : id ∉ front.map Prod.fst := fun hmem =>
      hfront id hmem id List.mem_cons_self rfl
    rw [withNew, hshelve, hsplit, List.filter_append, List.filter_append, hothers hfront,
      List.filter_cons_of_neg (by simp [hnew]), List.filter_cons_of_neg (by simp), hothers hback]

/-- The first candidates are those that make way. -/
theorem surplus_withNew (h : s.IsTidy) (id : String) :
  (s.withNew id).surplus = ((s.candidates id).take (s.excess id)).map Prod.fst
  := by
  rw [← h.finishedShelf_withNew]
  rfl

theorem mem_take_of_evicted (h : s.IsTidy) (hentry : entry ∈ s.evicted id) :
  entry ∈ (s.candidates id).take (s.excess id)
  := by
  rw [evicted, List.mem_filter, Bool.and_eq_true, decide_eq_true_eq, Bool.not_eq_true',
    List.contains_eq_mem, decide_eq_false_iff_not] at hentry
  obtain ⟨hshelf, hne, hgone⟩ := hentry
  have hsurplus : entry.1 ∈ (s.withNew id).surplus := by
    by_contra hkept
    apply hgone
    rw [create_eq, evict, List.mem_filter, List.contains_eq_mem]
    exact ⟨mem_shelve_of_ne hshelf hne, by simpa using hkept⟩
  rw [surplus_withNew h] at hsurplus
  obtain ⟨other, hother, hid⟩ := List.mem_map.mp hsurplus
  rw [← h.entry_eq (List.mem_of_mem_filter (List.mem_of_mem_take hother)) hshelf hid]
  exact hother

theorem mem_drop_of_kept (h : s.IsTidy) (hentry : entry ∈ (s.create id).1.finishedShelf) :
  entry ∈ (s.candidates id).drop (s.excess id)
  := by
  obtain ⟨hshelf, hfinished⟩ := List.mem_filter.mp hentry
  rw [create_eq, evict, List.mem_filter, List.contains_eq_mem, surplus_withNew h] at hshelf
  obtain ⟨hshelf, hkept⟩ := hshelf
  have hcandidate : entry ∈ s.candidates id := by
    rw [← h.finishedShelf_withNew]
    exact List.mem_filter.mpr ⟨hshelf, hfinished⟩
  rw [← List.take_append_drop (s.excess id) (s.candidates id), List.mem_append] at hcandidate
  apply hcandidate.resolve_left
  intro htake
  simp only [List.mem_map_of_mem htake, decide_true, Bool.not_true] at hkept
  cases hkept

/-- A feed that makes way stands in front of the finished ones that stay. -/
theorem areInOrder_of_evicted (ha : a ∈ (after retention ops).evicted id)
    (hb : b ∈ ((after retention ops).create id).1.finishedShelf) :
  AreInOrder retention ops a b
  := by
  have htidy := isTidy_after retention ops
  have hsub : ((after retention ops).candidates id).Sublist (after retention ops).shelf :=
    List.filter_sublist
  have hordered := (pairwise_shelf retention ops).sublist hsub
  exact hordered.rel_of_mem_take_of_mem_drop (mem_take_of_evicted htidy ha)
    (mem_drop_of_kept htidy hb)

/-- Whatever has happened, a new feed drives only finished feeds off the shelf.  It drives none off that
is younger than a finished one that stays exactly when no id of the former was used again since the
latter was created, having been on the shelf all the time; so always if no id is used again while it is
on the shelf. -/
theorem evictsOldest_iff (retention : Int) (ops : List Operation) (id : String) :
  (∀ entry ∈ (after retention ops).evicted id, (after retention ops).isFinished entry.2 = true)
    ∧ ((after retention ops).EvictsOldest id
      ↔ ∀ entry ∈ (after retention ops).evicted id,
        ∀ kept ∈ ((after retention ops).create id).1.finishedShelf,
          ¬ WasReused retention ops entry.1 kept)
    ∧ ((∀ before other, before ++ [.create other] <+: ops → other ∉ (after retention before).ids) →
      (after retention ops).EvictsOldest id)
  := by
  have hfinished : ∀ entry ∈ (after retention ops).evicted id,
      (after retention ops).isFinished entry.2 = true := by
    intro entry hentry
    have hcandidate := List.mem_of_mem_take (mem_take_of_evicted (isTidy_after ..) hentry)
    exact (Bool.and_eq_true_iff.mp (List.mem_filter.mp hcandidate).2).2
  have hiff : (after retention ops).EvictsOldest id
      ↔ ∀ entry ∈ (after retention ops).evicted id,
        ∀ kept ∈ ((after retention ops).create id).1.finishedShelf,
          ¬ WasReused retention ops entry.1 kept := by
    constructor
    · intro holdest entry hentry kept hkept hreused
      have hlt := (holdest entry hentry).2 kept hkept
      have hgt := hreused.lt (List.mem_of_mem_filter hentry)
      omega
    · intro hreused entry hentry
      refine ⟨hfinished entry hentry, ?_⟩
      intro kept hkept
      exact (areInOrder_of_evicted hentry hkept).resolve_right (hreused entry hentry kept hkept)
  refine ⟨hfinished, hiff, ?_⟩
  intro hfresh
  rw [hiff]
  rintro entry - kept - ⟨since, ⟨before, rfl, -, hkept⟩, hagain⟩
  obtain ⟨early, late, rfl⟩ := List.append_of_mem hagain
  apply hfresh (before ++ .create kept.1 :: early) entry.1
  · use late
    simp
  · apply hkept
    use .create entry.1 :: late
    simp

/-- Two runs are over, and the id of the first one is used again for a third. -/
def renewed : List Operation :=
  [.create "a", .call 0 (.error "done"), .create "b", .call 1 (.error "done"), .create "a",
    .call 2 (.error "done")]

/-- The third run makes way for a fourth one, though the second run is older. -/
theorem evictsOldest_iff_renewed :
  (after 2 renewed).evicted "c" = [("a", 2)] ∧ WasReused 2 renewed "a" ("b", 1)
    ∧ (after 2 renewed).isFinished 2 = true ∧ ¬ (after 2 renewed).EvictsOldest "c"
  := by
  have hevicted : (after 2 renewed).evicted "c" = [("a", 2)] := by decide
  have hmem : ("a", 2) ∈ (after 2 renewed).evicted "c" := by decide
  have hreused : WasReused 2 renewed "a" ("b", 1) := by
    refine ⟨renewed.drop 3, ⟨renewed.take 2, rfl, rfl, ?_⟩, .tail _ (.head _)⟩
    have hfronts : ∀ front ∈ (renewed.drop 2).inits, "a" ∈ (after 2 (renewed.take 2 ++ front)).ids := by
      decide
    intro front hfront
    apply hfronts front
    rw [List.mem_inits]
    exact hfront
  obtain ⟨hfinished, hiff, -⟩ := evictsOldest_iff 2 renewed "c"
  refine ⟨hevicted, hreused, hfinished _ hmem, ?_⟩
  intro holdest
  exact hiff.mp holdest _ hmem ("b", 1) (by decide) hreused

/-- It is not always the oldest feed that makes way. -/
theorem not_always_evictsOldest :
  ¬ ∀ (retention : Int) (ops : List Operation) (id : String), 1 ≤ retention →
    (after retention ops).EvictsOldest id
  := by
  intro h
  have hrenewed : ¬ (after 2 renewed).EvictsOldest "c" := by decide
  exact hrenewed (h 2 renewed "c" (by decide))

end SnippetProfiler.FeedStore
