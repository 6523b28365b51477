import Mathlib
import SnippetProfiler.Proofs.Quantity.Float
import SnippetProfiler.Proofs.Sorting
import SnippetProfiler.Proofs.Trace.Data
import SnippetProfiler.Trace.Frame

/-!
# Where the events of a rebuilt trace come from

A completed program lists its events once more, those of each kind under a key of their own.  The
trace that is rebuilt from these lists has every item of them that is accepted as an event of its
kind, once, and nothing else.  Its events stand in the order of their times, and events at one time
as they are listed: first by their kinds, then by their positions.
-/

namespace SnippetProfiler

open Validation (Fields)

/-! ### Origins -/

/-- The place of a kind: memory comes first, then calls, variables and lines. -/
def EventKind.place : EventKind → ℕ
  | memory => 0
  | functionCall => 1
  | variableState => 2
  | executionFlow => 3

/-- An event with its origin in a payload: the kind under whose key it is listed, and its position in
that list. -/
structure Listed where
  kind : EventKind
  position : ℕ
  event : TraceEvent Float

namespace Listed

/-- The event is what the item at its origin is accepted as. -/
def IsAccepted (payload : Fields) (l : Listed) : Prop :=
  ∃ items v, Json.lookup payload l.kind.listKey = some (.arr items)
    ∧ items[l.position]? = some v ∧ decodeEvent (.str l.kind.word) v = .ok l.event

/-- The order of origins. -/
def IsBefore (a b : Listed) : Prop :=
  a.kind.place < b.kind.place ∨ a.kind = b.kind ∧ a.position < b.position

end Listed

/-- A payload that has a list, null or nothing under the key of each kind. -/
def HasLists (payload : Fields) : Prop :=
  ∀ kind : EventKind, Json.lookup payload kind.listKey = none
    ∨ Json.lookup payload kind.listKey = some .null
    ∨ ∃ items, Json.lookup payload kind.listKey = some (.arr items)

/-- A trace whose events have origins that are all accepted ones of a payload, in the order of times, and
at one time in that of the origins. -/
structure ComesFrom (payload : Fields) (listed : List Listed) (trace : Trace Float) : Prop where
  events : listed.map Listed.event = trace
  accepted (l : Listed) : l ∈ listed ↔ l.IsAccepted payload
  nodup : listed.Nodup
  ordered : listed.Pairwise fun a b =>
    a.event.time ≤ b.event.time ∧ (b.event.time ≤ a.event.time → a.IsBefore b)

variable {payload : Fields} {kind : EventKind}

/-! ### Collecting -/

/-- The items that a payload lists under the key of a kind. -/
def itemsOf (payload : Fields) (kind : EventKind) : List Json :=
  match Json.lookup payload kind.listKey with
  | some (.arr items) => items
  | _ => []

theorem entries_eq (h : HasLists payload) (kind : EventKind) :
  entries ((Json.lookup payload kind.listKey).getD .null) = .ok (itemsOf payload kind)
  := by
  rw [itemsOf]
  obtain hnone | hnull | ⟨items, hitems⟩ := h kind
  · rw [hnone]
    rfl
  · rw [hnull]
    rfl
  · rw [hitems]
    cases items with
    | nil => rfl
    | cons v vs => rfl

/-- The accepted items of all lists are collected. -/
theorem collect_eq (h : HasLists payload) (kinds : List EventKind) :
  collect payload kinds = .ok (kinds.flatMap fun k => validEvents k (itemsOf payload k))
  := by
  induction kinds with
  | nil => rfl
  | cons k kinds ih =>
      rw [collect, entries_eq h, ih]
      rfl

/-! ### Accepted items -/

/-- An item is accepted as what it is read as. -/
theorem decodeEvent_eq_ok_iff {v : Json} {e : TraceEvent Float} :
  decodeEvent (.str kind.word) v = .ok e ↔ (TraceEvent.readKind kind v).value? = some e
  := by
  simp only [decodeEvent, EventKind.ofWord?_word]
  cases TraceEvent.readKind kind v with
  | valid d => simp [Validation.Checked.value?]
  | faulty fs => simp [Validation.Checked.value?]

/-- The accepted events under the key of a kind, with their origins. -/
def listedOf (payload : Fields) (kind : EventKind) : List Listed :=
  (itemsOf payload kind).zipIdx.filterMap fun (v, i) =>
    (TraceEvent.readKind kind v).value?.map fun e => ⟨kind, i, e⟩

theorem map_event_listedOf (payload : Fields) (kind : EventKind) :
  (listedOf payload kind).map Listed.event = validEvents kind (itemsOf payload kind)
  := by
  have hitems : (itemsOf payload kind).zipIdx.map Prod.fst = itemsOf payload kind :=
    List.zipIdx_map_fst ..
  rw [listedOf, validEvents, List.map_filterMap]
  conv_rhs => rw [← hitems]
  rw [List.filterMap_map]
  apply List.filterMap_congr
  rintro ⟨v, i⟩ -
  simp only [Option.map_map, Function.comp_apply]
  exact Option.map_id'

theorem isAccepted_iff {l : Listed} :
  l.IsAccepted payload ↔ ∃ v, (itemsOf payload l.kind)[l.position]? = some v
    ∧ (TraceEvent.readKind l.kind v).value? = some l.event
  := by
  constructor
  · rintro ⟨items, v, hitems, hv, hl⟩
    rw [itemsOf, hitems]
    exact ⟨v, hv, decodeEvent_eq_ok_iff.mp hl⟩
  · rintro ⟨v, hv, hl⟩
    rw [itemsOf] at hv
    split at hv
    · rename_i items hitems
      exact ⟨items, v, hitems, hv, decodeEvent_eq_ok_iff.mpr hl⟩
    · cases hv

theorem mem_listedOf {l : Listed} :
  l ∈ listedOf payload kind ↔ l.kind = kind ∧ l.IsAccepted payload
  := by
  rw [listedOf, List.mem_filterMap, isAccepted_iff]
  constructor
  · rintro ⟨⟨v, i⟩, hv, hl⟩
    obtain ⟨e, he, rfl⟩ := Option.map_eq_some_iff.mp hl
    exact ⟨rfl, v, List.mem_zipIdx_iff_getElem?.mp hv, he⟩
  · rintro ⟨rfl, v, hv, hl⟩
    refine ⟨(v, l.position), List.mem_zipIdx_iff_getElem?.mpr hv, ?_⟩
    simp only [hl]
    rfl

/-- The accepted events of one kind stand in the order of their positions. -/
theorem pairwise_listedOf (payload : Fields) (kind : EventKind) :
  (listedOf payload kind).Pairwise fun a b => a.position < b.position
  := by
  have hplaces : (itemsOf payload kind).zipIdx.Pairwise fun a b => a.2 < b.2 := by
    apply List.pairwise_map.mp
    rw [List.zipIdx_map_snd]
    exact List.pairwise_lt_range'
  apply List.pairwise_filterMap.mpr
  apply hplaces.imp
  rintro a b hab l hl m hm
  obtain ⟨d, -, rfl⟩ := Option.map_eq_some_iff.mp hl
  obtain ⟨e, -, rfl⟩ := Option.map_eq_some_iff.mp hm
  exact hab

/-- All accepted events, in the order of their origins. -/
def allListed (payload : Fields) : List Listed := EventKind.all.flatMap (listedOf payload)

theorem mem_allListed {l : Listed} :
  l ∈ allListed payload ↔ l.IsAccepted payload
  := by
  have hkind : l.kind ∈ EventKind.all := by
    cases l.kind with
    | _ => decide
  simp only [allListed, List.mem_flatMap, mem_listedOf]
  constructor
  · rintro ⟨kind, -, -, hl⟩
    exact hl
  · intro hl
    exact ⟨l.kind, hkind, rfl, hl⟩

theorem pairwise_allListed (payload : Fields) :
  (allListed payload).Pairwise Listed.IsBefore
  := by
  have hkinds : EventKind.all.Pairwise fun j k => j.place < k.place := by decide
  rw [allListed, List.pairwise_flatMap]
  constructor
  · intro kind _
    apply (pairwise_listedOf payload kind).imp_of_mem
    intro a b ha hb hab
    exact .inr ⟨(mem_listedOf.mp ha).1.trans (mem_listedOf.mp hb).1.symm, hab⟩
  · apply hkinds.imp
    intro j k hjk a ha b hb
    rw [← (mem_listedOf.mp ha).1, ← (mem_listedOf.mp hb).1] at hjk
    exact .inl hjk

theorem Listed.IsBefore.ne {a b : Listed} (h : a.IsBefore b) :
  a ≠ b
  := by
  rintro rfl
  obtain hlt | ⟨-, hlt⟩ := h
  · exact hlt.false
  · exact hlt.false

/-! ### The trace -/

/-- The trace that is rebuilt is that of the accepted events, sorted by their times. -/
theorem traceOf_eq (h : HasLists payload) :
  traceOf payload = .ok (sortByTime ((allListed payload).map Listed.event))
  := by
  rw [traceOf, collect_eq h, allListed, List.map_flatMap]
  simp only [map_event_listedOf]
  rfl

/-- When no accepted event has a time that is no number, a payload that has lists is rebuilt as a trace
of exactly its accepted events, in the order of their times and their origins. -/
theorem traceOf_comesFrom (payload : Fields) (hlists : HasLists payload)
    (hnumbers : ∀ l : Listed, l.IsAccepted payload → l.event.time.isNaN = false) :
  ∃ listed trace, traceOf payload = .ok trace ∧ ComesFrom payload listed trace
  := by
  have hplace : ∀ l ∈ allListed payload, Quantity.isNumber l.event.time = true := by
    intro l hl
    simp only [Quantity.isNumber, hnumbers l (mem_allListed.mp hl), Bool.not_false]
  let listed := Sorting.sort (fun a b : Listed => Quantity.lt a.event.time b.event.time)
    (fun l => Quantity.isNumber l.event.time) (allListed payload)
  have hperm : listed.Perm (allListed payload) := Sorting.sort_perm _ hplace
  refine ⟨listed, _, traceOf_eq hlists, ?_, ?_, ?_, ?_⟩
  · rw [sortByTime, Sorting.sort_map Listed.event]
    exact hplace
  · intro l
    rw [hperm.mem_iff, mem_allListed]
  · rw [hperm.nodup_iff]
    exact (pairwise_allListed payload).imp Listed.IsBefore.ne
  · have hsorted := Sorting.pairwise_sort (fun l : Listed => Quantity.rank l.event.time) hplace
      (fun a ha b hb => Quantity.lt_iff_rank (hnumbers a (mem_allListed.mp ha))
        (hnumbers b (mem_allListed.mp hb))) (pairwise_allListed payload)
    apply hsorted.imp_of_mem
    intro a b ha hb hab
    have ha := hnumbers a (mem_allListed.mp (hperm.subset ha))
    have hb := hnumbers b (mem_allListed.mp (hperm.subset hb))
    constructor
    · exact Quantity.le_iff.mpr ⟨ha, hb, hab.1⟩
    · intro hba
      exact hab.2 (Quantity.le_iff.mp hba).2.2

/-- A payload with two samples of the memory, one of them at the time of a line, and an item that is
none. -/
def mixedPayload : Fields :=
  [("executionFlow", .arr [.obj [("timestampMs", .int 5), ("sourceLine", .int 1)]]),
    ("functionCalls", .null),
    ("memoryUsage", .arr [.obj [("timestampMs", .int 5), ("rss", .int 1)], .str "junk",
      .obj [("timestampMs", .str "2"), ("rss", .int 1)]])]

/-- Of a mixed payload, a trace of three events is rebuilt. -/
theorem traceOf_comesFrom_mixed :
  HasLists mixedPayload
    ∧ (∀ l : Listed, l.IsAccepted mixedPayload → l.event.time.isNaN = false)
    ∧ ∃ listed trace, traceOf mixedPayload = .ok trace ∧ ComesFrom mixedPayload listed trace
      ∧ trace.length = 3
  := by
  have hlists : HasLists mixedPayload := by
    intro kind
    cases kind with
    | memory => exact .inr (.inr ⟨_, rfl⟩)
    | functionCall => exact .inr (.inl rfl)
    | variableState => exact .inl rfl
    | executionFlow => exact .inr (.inr ⟨_, rfl⟩)
  have hnumbers : ∀ l : Listed, l.IsAccepted mixedPayload → l.event.time.isNaN = false := by
    have hall : ∀ l ∈ allListed mixedPayload, l.event.time.isNaN = false := by decide
    intro l hl
    exact hall l (mem_allListed.mpr hl)
  obtain ⟨listed, trace, htrace, hcomes⟩ := traceOf_comesFrom mixedPayload hlists hnumbers
  refine ⟨hlists, hnumbers, listed, trace, htrace, hcomes, ?_⟩
  have hperm : listed.Perm (allListed mixedPayload) := by
    rw [List.perm_ext_iff_of_nodup hcomes.nodup
      ((pairwise_allListed mixedPayload).imp Listed.IsBefore.ne)]
    intro l
    rw [hcomes.accepted, mem_allListed]
  rw [← hcomes.events, List.length_map, hperm.length_eq]
  decide

end SnippetProfiler
