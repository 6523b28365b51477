import Mathlib.Tactic.Common
import SnippetProfiler.Comparison.Verdict
import SnippetProfiler.Proofs.Trace.Clipping
import SnippetProfiler.Run.Outcome
import SnippetProfiler.Run.Request

/-!
# Checking data twice

The data of a record that was read is read as the same record again.  For most records all data of a
record is read back.  Some records are changed or checked further when they are read: summaries are
clipped, timeouts are positive, and a request gets an id; there it matters that the record was read.
-/

namespace SnippetProfiler

open Validation

/-! ### Options and languages -/

theorem TrackingOptions.read_toJson (o : TrackingOptions) :
  TrackingOptions.read o.toJson = .valid o
  := by rfl

theorem LanguageInfo.read_toJson (l : LanguageInfo) :
  LanguageInfo.read l.toJson = .valid l
  := by rfl

/-! ### Estimates -/

theorem DataPoint.read_toJson (p : DataPoint) :
  DataPoint.read p.toJson = .valid p
  := by rfl

theorem GrowthEstimate.read_toJson (e : GrowthEstimate) :
  GrowthEstimate.read e.toJson = .valid e
  := by
  have hpoints : list DataPoint.read (Json.list DataPoint.toJson e.points) = .valid e.points :=
    list_of_read fun p _ => p.read_toJson
  rw [GrowthEstimate.read, GrowthEstimate.toJson, record,
    Fields.optional_of_read (by rfl) hpoints]
  rfl

/-! ### Metrics -/

theorem FunctionStats.read_toJson (s : FunctionStats Float) :
  FunctionStats.read s.toJson = .valid s
  := by rfl

theorem ExpensiveFunction.read_toJson (f : ExpensiveFunction Float) :
  ExpensiveFunction.read f.toJson = .valid f
  := by rfl

theorem CallEdge.read_toJson (e : CallEdge Float) :
  CallEdge.read e.toJson = .valid e
  := by rfl

theorem CallGraph.read_toJson (g : CallGraph Float) :
  CallGraph.read g.toJson = .valid g
  := by
  have hnodes := list_texts g.nodes
  have hedges : list CallEdge.read (Json.list CallEdge.toJson g.edges) = .valid g.edges :=
    list_of_read fun e _ => e.read_toJson
  rw [CallGraph.read, CallGraph.toJson, record, Fields.required_of_read (by rfl) hnodes,
    Fields.required_of_read (by rfl) hedges]
  rfl

theorem HotLine.read_toJson (l : HotLine Float) :
  HotLine.read l.toJson = .valid l
  := by rfl

theorem MemoryPoint.read_toJson (p : MemoryPoint Float) :
  MemoryPoint.read p.toJson = .valid p
  := by rfl

theorem VariableChange.read_toJson (c : VariableChange Float) :
  VariableChange.read c.toJson = .valid c
  := by
  rw [VariableChange.read, VariableChange.toJson, record,
    Fields.optional_of_read (by rfl) (nullable_integer c.line)]
  rfl

theorem VariableTimeline.read_toJson (t : VariableTimeline Float) :
  VariableTimeline.read t.toJson = .valid t
  := by
  have hchanges : list VariableChange.read (Json.list VariableChange.toJson t.changes)
      = .valid t.changes := list_of_read fun c _ => c.read_toJson
  rw [VariableTimeline.read, VariableTimeline.toJson, record,
    Fields.required_of_read (by rfl) hchanges]
  rfl

theorem MetricsSummary.read_toJson (s : MetricsSummary Float) :
  MetricsSummary.read s.toJson = .valid s
  := by
  cases h : s.mostExpensive with
  | _ =>
      rw [MetricsSummary.toJson, h]
      cases s
      cases h
      rfl

theorem ExecutionMetrics.read_toJson (m : ExecutionMetrics Float) :
  ExecutionMetrics.read m.toJson = .valid m
  := by
  have hheatmap : list HotLine.read (Json.list HotLine.toJson m.heatmap) = .valid m.heatmap :=
    list_of_read fun l _ => l.read_toJson
  have hfunctions : list FunctionStats.read (Json.list FunctionStats.toJson m.functions)
      = .valid m.functions := list_of_read fun s _ => s.read_toJson
  have hmemory : list MemoryPoint.read (Json.list MemoryPoint.toJson m.memory) = .valid m.memory :=
    list_of_read fun p _ => p.read_toJson
  have htimelines : list VariableTimeline.read (Json.list VariableTimeline.toJson m.timelines)
      = .valid m.timelines := list_of_read fun t _ => t.read_toJson
  rw [ExecutionMetrics.read, ExecutionMetrics.toJson, record,
    Fields.required_of_read (by rfl) m.summary.read_toJson,
    Fields.required_of_read (by rfl) m.callGraph.read_toJson,
    Fields.required_of_read (by rfl) hheatmap,
    Fields.required_of_read (by rfl) m.complexity.read_toJson,
    Fields.required_of_read (by rfl) hfunctions,
    Fields.required_of_read (by rfl) hmemory,
    Fields.required_of_read (by rfl) htimelines]
  rfl

/-! ### Comparisons -/

theorem MetricDelta.read_toJson (d : MetricDelta Float) :
  MetricDelta.read d.toJson = .valid d
  := by rfl

theorem Comparison.read_toJson (c : Comparison Float) :
  Comparison.read c.toJson = .valid c
  := by
  have hverdict : Verdict.read (.str c.verdict.word) = .valid c.verdict := by
    cases c.verdict with
    | _ => rfl
  rw [Comparison.read, Comparison.toJson, record,
    Fields.required_of_read (by rfl) hverdict]
  rfl

/-! ### Outcomes -/

theorem Failure.ofFields_toJson {f : Failure} {fields : Fields} (h : f.toJson = .obj fields) :
  Failure.ofFields fields = .valid f
  := by
  have hkind : ErrorKind.read (.str f.kind.word) = .valid f.kind := by
    cases f.kind with
    | _ => rfl
  have hline : FailureLine.read (FailureLine.toJson f.line) = .valid f.line := by
    cases f.line with
    | none => rfl
    | some line =>
        cases line with
        | _ => rfl
  cases h
  rw [Failure.ofFields, Fields.required_of_read (by rfl) hkind,
    Fields.optional_of_read (by rfl) hline,
    Fields.optional_of_read (by rfl) (nullable_text f.stack),
    Fields.optional_of_read (by rfl) (nullable_float f.timeout)]
  rfl

/-- The events of a success that was read were read. -/
theorem Success.trace_of_ofFields {fields : Fields} {s : Success}
    (h : Success.ofFields fields = .valid s) :
  ∀ e ∈ s.trace, ∃ v, TraceEvent.read v = .valid e
  := by
  obtain ⟨_, errors, h₁, _, rfl⟩ := Checked.seq_eq_valid.mp h
  obtain ⟨_, duration, h₂, _, rfl⟩ := Checked.seq_eq_valid.mp h₁
  obtain ⟨_, trace, h₃, htrace, rfl⟩ := Checked.seq_eq_valid.mp h₂
  obtain ⟨_, output, h₄, _, rfl⟩ := Checked.seq_eq_valid.mp h₃
  obtain ⟨_, _, rfl⟩ := Checked.fmap_eq_valid.mp h₄
  change ∀ e ∈ trace, ∃ v, TraceEvent.read v = .valid e
  obtain rfl | ⟨v, hv⟩ := Fields.of_optional htrace
  · intro e he
    cases he
  · exact of_list hv

/-- A success with events that were read is read back. -/
theorem Success.ofFields_toJson {s : Success} {fields : Fields} (h : s.toJson = .obj fields)
    (htrace : ∀ e ∈ s.trace, ∃ v, TraceEvent.read v = .valid e) :
  Success.ofFields fields = .valid s
  := by
  have hread : list TraceEvent.read (Json.list TraceEvent.toJson s.trace) = .valid s.trace := by
    apply list_of_read
    intro e he
    obtain ⟨v, hv⟩ := htrace e he
    exact TraceEvent.read_again hv
  cases h
  rw [Success.ofFields, Fields.optional_of_read (by rfl) hread]
  rfl

theorem Outcome.read_again {v : Json} {o : Outcome} (h : Outcome.read v = .valid o) :
  Outcome.read o.toJson = .valid o
  := by
  obtain ⟨fields, word, read, hword, hread⟩ := of_variant h
  split at hword
  · cases hword
    obtain ⟨s, hs, rfl⟩ := Checked.map_eq_valid.mp hread
    apply variant_of_read rfl rfl
    rw [Success.ofFields_toJson rfl (Success.trace_of_ofFields hs)]
    rfl
  · split at hword
    · cases hword
      obtain ⟨f, _, rfl⟩ := Checked.map_eq_valid.mp hread
      apply variant_of_read rfl rfl
      rw [Failure.ofFields_toJson rfl]
      rfl
    · cases hword

/-! ### Reports -/

theorem RunReport.read_again {v : Json} {r : RunReport} (h : RunReport.read v = .valid r) :
  RunReport.read r.toJson = .valid r
  := by
  obtain ⟨fields, rfl, hfields⟩ := of_record h
  obtain ⟨_, metrics, h₁, _, rfl⟩ := Checked.seq_eq_valid.mp hfields
  obtain ⟨_, outcome, h₂, houtcome, rfl⟩ := Checked.seq_eq_valid.mp h₁
  obtain ⟨_, language, h₃, _, rfl⟩ := Checked.seq_eq_valid.mp h₂
  obtain ⟨id, _, rfl⟩ := Checked.fmap_eq_valid.mp h₃
  obtain ⟨data, hdata⟩ := Fields.of_required houtcome
  have hagain := Outcome.read_again hdata
  cases metrics with
  | none =>
      rw [RunReport.read, RunReport.toJson, record, Fields.required_of_read (by rfl) hagain]
      rfl
  | some m =>
      have hmetrics : nullable ExecutionMetrics.read m.toJson = .valid (some m) := by
        apply nullable_of_read _ m.read_toJson
        intro hnull
        cases hnull
      rw [RunReport.read, RunReport.toJson, record, Fields.required_of_read (by rfl) hagain,
        Fields.optional_of_read (by rfl) hmetrics]
      rfl

/-! ### Requests -/

/-- A positive float that was read is read back. -/
theorem Validation.positive_again {v : Json} {x : Float} (h : positive v = .valid x) :
  positive (.float x) = .valid x
  := by
  obtain ⟨y, _, hy⟩ := Checked.andThen_eq_valid.mp h
  split at hy
  · rename_i hpositive
    cases hy
    exact if_pos hpositive
  · cases hy

/-- A request that was read is read as the same request again, whatever id is fresh then. -/
theorem RunRequest.read_again {fresh : String} {v : Json} {r : RunRequest}
    (h : RunRequest.read fresh v = .valid r) (again : String) :
  RunRequest.read again r.toJson = .valid r
  := by
  obtain ⟨fields, rfl, hfields⟩ := of_record h
  obtain ⟨_, timeout, h₁, htimeout, rfl⟩ := Checked.seq_eq_valid.mp hfields
  obtain ⟨_, id, h₂, _, rfl⟩ := Checked.seq_eq_valid.mp h₁
  obtain ⟨_, options, h₃, _, rfl⟩ := Checked.seq_eq_valid.mp h₂
  obtain ⟨_, input, h₄, _, rfl⟩ := Checked.seq_eq_valid.mp h₃
  obtain ⟨_, language, h₅, _, rfl⟩ := Checked.seq_eq_valid.mp h₄
  obtain ⟨code, _, rfl⟩ := Checked.fmap_eq_valid.mp h₅
  have hinput : readInput (Json.texts input) = .valid input := list_texts input
  have hagain : nullable positive (Json.ofFloat? timeout) = .valid timeout := by
    cases timeout with
    | none => rfl
    | some x =>
        obtain hnone | ⟨data, hdata⟩ := Fields.of_optional htimeout
        · cases hnone
        · obtain ⟨value, hvalue⟩ := of_nullable hdata x rfl
          apply nullable_of_read _ (positive_again hvalue)
          intro hnull
          cases hnull
  rw [RunRequest.read, RunRequest.toJson, record, RunRequest.ofFields,
    Fields.optional_of_read (by rfl) hinput, Fields.optional_of_read (by rfl) options.read_toJson,
    Fields.optional_of_read (by rfl) hagain]
  rfl

/-! ### All kinds of records -/

/-- The kinds of records that data can be checked for. -/
inductive RecordKind where
  | options
  | eventOf (kind : EventKind)
  | event
  | request
  | success
  | failure
  | outcome
  | language
  | report
  | metrics
  | summary
  | callGraph
  | dataPoint
  | estimate
  | comparison

namespace RecordKind

/-- The data of the record that data is read as; `fresh` is the id of a request that names none. -/
def validate (fresh : String) (v : Json) : RecordKind → Checked Json
  | options => (TrackingOptions.read v).map TrackingOptions.toJson
  | eventOf kind => (TraceEvent.readKind kind v).map TraceEvent.toJson
  | event => (TraceEvent.read v).map TraceEvent.toJson
  | request => (RunRequest.read fresh v).map RunRequest.toJson
  | success => (record Success.ofFields v).map Success.toJson
  | failure => (record Failure.ofFields v).map Failure.toJson
  | outcome => (Outcome.read v).map Outcome.toJson
  | language => (LanguageInfo.read v).map LanguageInfo.toJson
  | report => (RunReport.read v).map RunReport.toJson
  | metrics => (ExecutionMetrics.read v).map ExecutionMetrics.toJson
  | summary => (MetricsSummary.read v).map MetricsSummary.toJson
  | callGraph => (CallGraph.read v).map CallGraph.toJson
  | dataPoint => (DataPoint.read v).map DataPoint.toJson
  | estimate => (GrowthEstimate.read v).map GrowthEstimate.toJson
  | comparison => (Comparison.read v).map Comparison.toJson

/-- Data of a record that is read as the same record again is the same data again. -/
theorem map_again {α : Type} {read again : Json → Checked α} {write : α → Json} {v w : Json}
    (h : (read v).map write = .valid w)
    (hagain : ∀ a, read v = .valid a → again (write a) = .valid a) :
  (again w).map write = .valid w
  := by
  obtain ⟨a, ha, rfl⟩ := Checked.map_eq_valid.mp h
  rw [hagain a ha]
  rfl

/-- Data that a check made is valid data for the same kind of record, and stays as it is, whatever
id is fresh then. -/
theorem validate_validate {kind : RecordKind} {fresh again : String} {v w : Json}
    (h : kind.validate fresh v = .valid w) :
  kind.validate again w = .valid w
  := by
  cases kind with
  | options => exact map_again h fun o _ => o.read_toJson
  | eventOf kind => exact map_again h fun _ he => TraceEvent.readKind_again he
  | event => exact map_again h fun _ he => TraceEvent.read_again he
  | request => exact map_again h fun _ hr => RunRequest.read_again hr again
  | success =>
      apply map_again h
      intro s hs
      obtain ⟨fields, _, hfields⟩ := of_record hs
      exact Success.ofFields_toJson rfl (Success.trace_of_ofFields hfields)
  | failure => exact map_again h fun _ _ => Failure.ofFields_toJson rfl
  | outcome => exact map_again h fun _ ho => Outcome.read_again ho
  | language => exact map_again h fun l _ => l.read_toJson
  | report => exact map_again h fun _ hr => RunReport.read_again hr
  | metrics => exact map_again h fun m _ => m.read_toJson
  | summary => exact map_again h fun s _ => s.read_toJson
  | callGraph => exact map_again h fun g _ => g.read_toJson
  | dataPoint => exact map_again h fun p _ => p.read_toJson
  | estimate => exact map_again h fun e _ => e.read_toJson
  | comparison => exact map_again h fun c _ => c.read_toJson

/-- A success with a call that has a long argument, spelled in other ways than it is written. -/
def longCall : Json :=
  .obj [("status", .str "success"), ("total_duration_ms", .bool true), ("trace", .arr [
    .obj [("kind", .str "functionCall"), ("timestamp_ms", .bool false), ("name", .str "f"),
      ("arg_summaries", .arr [.str (.ofList (List.replicate 101 'x'))]), ("depth", .null)]])]

/-- The same success as it is written. -/
def longCallWritten : Json :=
  .obj [("status", .str "success"), ("output", .str ""), ("trace", .arr [
    .obj [("kind", .str "functionCall"), ("timestampMs", .float 0), ("name", .str "f"),
      ("caller", .null),
      ("argSummaries", .arr [.str (.ofList (List.replicate 97 'x' ++ ['.', '.', '.']))]),
      ("durationMs", .float 0)]]),
    ("totalDurationMs", .float 1), ("stderr", .str "")]

theorem validate_longCall :
  outcome.validate "1" longCall = .valid longCallWritten
  := by rfl

theorem validate_validate_longCall :
  outcome.validate "1" longCall = .valid longCallWritten
    ∧ outcome.validate "2" longCallWritten = .valid longCallWritten
  := ⟨validate_longCall, validate_validate validate_longCall⟩

end RecordKind

end SnippetProfiler
