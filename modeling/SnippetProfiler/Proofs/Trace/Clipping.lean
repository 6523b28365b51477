import Mathlib.Tactic.Common
import SnippetProfiler.Proofs.Validation.Records

/-!
# Events that were read are read again

Reading an event clips its summaries.  A clipped summary is not clipped any further, so an event that
was read, and is given as data, is read as the same event.
-/

namespace SnippetProfiler

open Validation

/-! ### Clipped summaries -/

namespace Text

theorem clip_of_length_le {limit : Int} {s : List Char} (h : (s.length : Int) ≤ limit) :
  clip limit s = s
  := if_pos h

/-- A limit that leaves room for the dots is kept. -/
theorem length_clip_le {limit : Int} (h : 3 ≤ limit) (s : List Char) :
  ((clip limit s).length : Int) ≤ limit
  := by
  rw [clip]
  split
  · assumption
  · have hcut : ¬ limit - 3 < 0 := by omega
    rw [cutLength, if_neg hcut, List.length_append, List.length_take]
    change ((min (min s.length (limit - 3).toNat) s.length + 3 : Nat) : Int) ≤ limit
    omega

/-- A summary is not clipped any further. -/
@[simp]
theorem summary_summary (s : String) :
  summary (summary s) = summary s
  := by
  have hlength : ((clip summaryLimit s.toList).length : Int) ≤ summaryLimit :=
    length_clip_le (by decide) s.toList
  rw [summary, summary, String.toList_ofList, clip_of_length_le hlength]

@[simp]
theorem map_summary_summary (xs : List String) :
  (xs.map summary).map summary = xs.map summary
  := by
  rw [List.map_map]
  apply List.map_congr_left
  intro s _
  apply summary_summary

end Text

/-! ### What is read -/

/-- The arguments of a call that was read are clipped. -/
theorem FunctionCall.clipped_of_ofFields {fields : Fields} {c : FunctionCall Float}
    (h : FunctionCall.ofFields fields = .valid c) :
  c.arguments.map Text.summary = c.arguments
  := by
  -- the last field stands outermost, so the fields come off from the duration to the time
  obtain ⟨_, duration, h₁, _, rfl⟩ := Checked.seq_eq_valid.mp h
  obtain ⟨_, arguments, h₂, harguments, rfl⟩ := Checked.seq_eq_valid.mp h₁
  obtain ⟨_, caller, h₃, _, rfl⟩ := Checked.seq_eq_valid.mp h₂
  obtain ⟨_, name, h₄, _, rfl⟩ := Checked.seq_eq_valid.mp h₃
  obtain ⟨_, time, h₅, _, rfl⟩ := Checked.seq_eq_valid.mp h₄
  obtain ⟨_, _, rfl⟩ := Checked.fmap_eq_valid.mp h₅
  change arguments.map Text.summary = arguments
  obtain rfl | ⟨v, hv⟩ := Fields.of_optional harguments
  · rfl
  · obtain ⟨texts, _, rfl⟩ := Checked.map_eq_valid.mp hv
    apply Text.map_summary_summary

/-- The value of a variable that was read is clipped. -/
theorem VariableState.clipped_of_ofFields {fields : Fields} {v : VariableState Float}
    (h : VariableState.ofFields fields = .valid v) :
  Text.summary v.value = v.value
  := by
  obtain ⟨_, line, h₁, _, rfl⟩ := Checked.seq_eq_valid.mp h
  obtain ⟨_, value, h₂, hvalue, rfl⟩ := Checked.seq_eq_valid.mp h₁
  obtain ⟨_, typeName, h₃, _, rfl⟩ := Checked.seq_eq_valid.mp h₂
  obtain ⟨_, name, h₄, _, rfl⟩ := Checked.seq_eq_valid.mp h₃
  obtain ⟨_, time, h₅, _, rfl⟩ := Checked.seq_eq_valid.mp h₄
  obtain ⟨_, _, rfl⟩ := Checked.fmap_eq_valid.mp h₅
  change Text.summary value = value
  obtain ⟨data, hdata⟩ := Fields.of_required hvalue
  obtain ⟨text, _, rfl⟩ := Checked.map_eq_valid.mp hdata
  apply Text.summary_summary

namespace TraceEvent

/-- The event that is read has the kind that was asked for, and its summaries are clipped. -/
theorem of_ofFields {kind : EventKind} {fields : Fields} {e : TraceEvent Float}
    (h : ofFields kind fields = .valid e) :
  e.kind = kind ∧ e.clipped = e
  := by
  cases kind with
  | memory =>
      obtain ⟨s, _, rfl⟩ := Checked.map_eq_valid.mp h
      exact ⟨rfl, rfl⟩
  | functionCall =>
      obtain ⟨c, hc, rfl⟩ := Checked.map_eq_valid.mp h
      constructor
      · rfl
      · rw [clipped, FunctionCall.clipped_of_ofFields hc]
  | variableState =>
      obtain ⟨v, hv, rfl⟩ := Checked.map_eq_valid.mp h
      constructor
      · rfl
      · rw [clipped, VariableState.clipped_of_ofFields hv]
  | executionFlow =>
      obtain ⟨l, _, rfl⟩ := Checked.map_eq_valid.mp h
      exact ⟨rfl, rfl⟩

/-! ### Events as data are read -/

/-- An event as data names its kind in front of its other fields. -/
theorem toJson_eq (e : TraceEvent Float) :
  ∃ fields, e.toJson = .obj (("kind", .str e.kind.word) :: fields) ∧ e.dataJson = .obj fields
    ∧ Json.lookup fields "kind" = none
  := by
  cases e with
  | _ => exact ⟨_, rfl, rfl, rfl⟩

/-- An event is read in the same way when its kind is named. -/
theorem ofFields_cons_kind {fields : Fields} (kind : EventKind)
    (h : Json.lookup fields "kind" = none) :
  ofFields kind (("kind", .str kind.word) :: fields) = ofFields kind fields
  := by
  have hcheck : kind.check (("kind", .str kind.word) :: fields) = kind.check fields := by
    rw [check_of_absent kind h]
    cases kind with
    | _ => rfl
  cases kind with
  | memory =>
      simp only [ofFields, MemorySample.ofFields, hcheck]
      rfl
  | functionCall =>
      simp only [ofFields, FunctionCall.ofFields, hcheck]
      rfl
  | variableState =>
      simp only [ofFields, VariableState.ofFields, hcheck]
      rfl
  | executionFlow =>
      simp only [ofFields, LineExecution.ofFields, hcheck]
      rfl

/-- The fields of an event as data are read back, with clipped summaries. -/
theorem ofFields_toJson {e : TraceEvent Float} {fields : Fields} (h : e.toJson = .obj fields) :
  ofFields e.kind fields = .valid e.clipped
  := by
  obtain ⟨rest, hjson, hdata, hkind⟩ := e.toJson_eq
  rw [hjson] at h
  cases h
  rw [ofFields_cons_kind _ hkind]
  have hread := readKind_dataJson e
  rw [hdata] at hread
  exact hread

/-- An event as data is read back, with clipped summaries, as an event of its kind and as any
event. -/
theorem readKind_toJson (e : TraceEvent Float) :
  readKind e.kind e.toJson = .valid e.clipped
  := by
  obtain ⟨_, hjson, _, _⟩ := e.toJson_eq
  rw [hjson]
  exact ofFields_toJson hjson

theorem read_toJson (e : TraceEvent Float) :
  read e.toJson = .valid e.clipped
  := by
  obtain ⟨rest, hjson, _, _⟩ := e.toJson_eq
  have hword : (EventKind.ofWord? e.kind.word).map ofFields = some (ofFields e.kind) := by
    rw [EventKind.ofWord?_word]
    rfl
  rw [hjson]
  exact variant_of_read rfl hword (ofFields_toJson hjson)

/-! ### Reading again -/

/-- An event that was read as one of some kind is read as the same event again. -/
theorem readKind_again {kind : EventKind} {v : Json} {e : TraceEvent Float}
    (h : readKind kind v = .valid e) :
  readKind kind e.toJson = .valid e
  := by
  obtain ⟨fields, rfl, hfields⟩ := of_record h
  obtain ⟨rfl, hclipped⟩ := of_ofFields hfields
  rw [readKind_toJson, hclipped]

theorem read_again {v : Json} {e : TraceEvent Float} (h : read v = .valid e) :
  read e.toJson = .valid e
  := by
  obtain ⟨fields, word, readFields, hword, hread⟩ := of_variant h
  obtain ⟨kind, _, rfl⟩ := Option.map_eq_some_iff.mp hword
  rw [read_toJson, (of_ofFields hread).2]

end TraceEvent

end SnippetProfiler
