import Mathlib.Tactic.Common
import SnippetProfiler.Trace.Data

/-!
# Events as data are read back

An event that is given as data without its kind is read back as an event of its kind, with
clipped summaries.
-/

namespace SnippetProfiler

open Validation (Checked Fields)

/-! ### Fields -/

namespace Validation

variable {α : Type} {fields : Fields} {name : String} {v : Json}

/-- A field that is there is read, whether it has to be there or not. -/
theorem Fields.required_of_lookup (h : Json.lookup fields name = some v)
    (read : Json → Checked α) :
  fields.required name read = (read v).under (.key name)
  := by
  simp only [Fields.required, Fields.find, h]

theorem Fields.optional_of_lookup (h : Json.lookup fields name = some v) (default : α)
    (read : Json → Checked α) :
  fields.optional name default read = (read v).under (.key name)
  := by
  simp only [Fields.optional, Fields.find, h]

/-- A field that is there in neither spelling has its default value. -/
theorem Fields.optional_of_absent (h : Json.lookup fields name = none)
    (hl : Json.lookup fields (lowLined name) = none) (default : α) (read : Json → Checked α) :
  fields.optional name default read = .valid default
  := by
  simp only [Fields.optional, Fields.find, h, hl]
  rfl

theorem lowLined_kind :
  lowLined "kind" = "kind"
  := by decide

/-- A record without the field for the kind passes the check of the kind. -/
theorem check_of_absent (kind : EventKind) (h : Json.lookup fields "kind" = none) :
  kind.check fields = .valid ()
  := by
  apply Fields.optional_of_absent h
  rw [lowLined_kind]
  apply h

/-- Texts are read as a list. -/
theorem items_texts (n : Nat) (xs : List String) :
  items string n (xs.map .str) = .valid xs
  := by
  induction xs generalizing n with
  | nil => rfl
  | cons x xs ih =>
      rw [List.map_cons, items, ih]
      rfl

end Validation

open Validation

/-- An event with clipped summaries. -/
def TraceEvent.clipped {τ : Type} : TraceEvent τ → TraceEvent τ
  | memory s => memory s
  | functionCall c => functionCall { c with arguments := c.arguments.map Text.summary }
  | variableState v => variableState { v with value := Text.summary v.value }
  | executionFlow l => executionFlow l

/-- The order of clipping and reading does not matter for the kind. -/
@[simp]
theorem TraceEvent.kind_clipped {τ : Type} (e : TraceEvent τ) :
  e.clipped.kind = e.kind
  := by
  cases e with
  | _ => rfl

@[simp]
theorem TraceEvent.time_clipped {τ : Type} (e : TraceEvent τ) :
  e.clipped.time = e.time
  := by
  cases e with
  | _ => rfl

/-- A memory sample as data is read back. -/
theorem readKind_memory (s : MemorySample Float) :
  TraceEvent.readKind .memory (TraceEvent.memory s).dataJson = .valid (.memory s)
  := by
  have hread : TraceEvent.readKind .memory (TraceEvent.memory s).dataJson =
      (MemorySample.ofFields [("timestampMs", .float s.time), ("rss", .int s.resident),
        ("vms", .int s.virtual), ("allocatedDelta", .int s.allocated),
        ("deallocatedDelta", .int s.deallocated)]).map .memory := rfl
  rw [hread, MemorySample.ofFields, check_of_absent _ (by simp [Json.lookup]),
    Fields.required_of_lookup (v := .float s.time) (by simp [Json.lookup]),
    Fields.required_of_lookup (v := .int s.resident) (by simp [Json.lookup]),
    Fields.optional_of_lookup (v := .int s.virtual) (by simp [Json.lookup]),
    Fields.optional_of_lookup (v := .int s.allocated) (by simp [Json.lookup]),
    Fields.optional_of_lookup (v := .int s.deallocated) (by simp [Json.lookup])]
  rfl

/-- A call as data is read back, with clipped arguments. -/
theorem readKind_functionCall (c : FunctionCall Float) :
  TraceEvent.readKind .functionCall (TraceEvent.functionCall c).dataJson
    = .valid (TraceEvent.functionCall c).clipped
  := by
  have hread : TraceEvent.readKind .functionCall (TraceEvent.functionCall c).dataJson =
      (FunctionCall.ofFields [("timestampMs", .float c.time), ("name", .str c.name),
        ("caller", Json.ofText? c.caller), ("argSummaries", Json.texts c.arguments),
        ("durationMs", .float c.duration)]).map .functionCall := rfl
  rw [hread, FunctionCall.ofFields, check_of_absent _ (by simp [Json.lookup]),
    Fields.required_of_lookup (v := .float c.time) (by simp [Json.lookup]),
    Fields.required_of_lookup (v := .str c.name) (by simp [Json.lookup]),
    Fields.optional_of_lookup (v := Json.ofText? c.caller) (by simp [Json.lookup]),
    Fields.optional_of_lookup (v := Json.texts c.arguments) (by simp [Json.lookup]),
    Fields.optional_of_lookup (v := .float c.duration) (by simp [Json.lookup])]
  rw [Json.texts, list, items_texts]
  cases hc : c.caller with
  | none =>
      rw [TraceEvent.clipped, hc]
      rfl
  | some name =>
      rw [TraceEvent.clipped, hc]
      rfl

/-- A variable state as data is read back, with a clipped value. -/
theorem readKind_variableState (v : VariableState Float) :
  TraceEvent.readKind .variableState (TraceEvent.variableState v).dataJson
    = .valid (TraceEvent.variableState v).clipped
  := by
  have hread : TraceEvent.readKind .variableState (TraceEvent.variableState v).dataJson =
      (VariableState.ofFields [("timestampMs", .float v.time), ("name", .str v.name),
        ("typeName", .str v.typeName), ("valueSummary", .str v.value),
        ("sourceLine", Json.ofInt? v.line)]).map .variableState := rfl
  rw [hread, VariableState.ofFields, check_of_absent _ (by simp [Json.lookup]),
    Fields.required_of_lookup (v := .float v.time) (by simp [Json.lookup]),
    Fields.required_of_lookup (v := .str v.name) (by simp [Json.lookup]),
    Fields.required_of_lookup (v := .str v.typeName) (by simp [Json.lookup]),
    Fields.required_of_lookup (v := .str v.value) (by simp [Json.lookup]),
    Fields.optional_of_lookup (v := Json.ofInt? v.line) (by simp [Json.lookup])]
  cases hl : v.line with
  | none =>
      rw [TraceEvent.clipped, hl]
      rfl
  | some n =>
      rw [TraceEvent.clipped, hl]
      rfl

/-- An executed line as data is read back. -/
theorem readKind_executionFlow (l : LineExecution Float) :
  TraceEvent.readKind .executionFlow (TraceEvent.executionFlow l).dataJson
    = .valid (.executionFlow l)
  := by
  have hread : TraceEvent.readKind .executionFlow (TraceEvent.executionFlow l).dataJson =
      (LineExecution.ofFields [("timestampMs", .float l.time), ("sourceLine", .int l.line),
        ("sourceText", .str l.text), ("durationMs", .float l.duration)]).map .executionFlow := rfl
  rw [hread, LineExecution.ofFields, check_of_absent _ (by simp [Json.lookup]),
    Fields.required_of_lookup (v := .float l.time) (by simp [Json.lookup]),
    Fields.required_of_lookup (v := .int l.line) (by simp [Json.lookup]),
    Fields.optional_of_lookup (v := .str l.text) (by simp [Json.lookup]),
    Fields.optional_of_lookup (v := .float l.duration) (by simp [Json.lookup])]
  rfl

/-- An event as data without its kind is read back, with clipped summaries. -/
theorem readKind_dataJson (e : TraceEvent Float) :
  TraceEvent.readKind e.kind e.dataJson = .valid e.clipped
  := by
  cases e with
  | memory s => apply readKind_memory
  | functionCall c => apply readKind_functionCall
  | variableState v => apply readKind_variableState
  | executionFlow l => apply readKind_executionFlow

/-- The kind of the word for a kind. -/
theorem EventKind.ofWord?_word (kind : EventKind) :
  EventKind.ofWord? kind.word = some kind
  := by
  cases kind <;> decide

end SnippetProfiler
