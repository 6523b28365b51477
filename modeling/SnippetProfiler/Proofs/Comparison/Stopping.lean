import Mathlib
import SnippetProfiler.Proofs.Complexity.Points
import SnippetProfiler.Proofs.Service.Completion

/-!
# Comparing and profiling stop at the first failure

A profile runs its request once for each sample, and a comparison runs two requests.  Each of these
runs starts when the one before it has succeeded and has released its id.  The first run that fails
is the last one that is started: the error names it, with the kind, the message and the line of its
failure.  When all runs succeed, each sample has been run with its own input, and its duration goes
into the estimate.
-/

namespace SnippetProfiler

open Orchestrator (Course Completes)

/-- A run that succeeded. -/
def RunReport.Succeeds (report : RunReport) : Prop := ∃ s, report.outcome = .success s

/-- The error with which a side fails. -/
def EngineError.ofFailure (name : String) (f : Failure) : EngineError :=
  .side (.side name f.kind f.message (FailureLine.toJson f.line))

/-! ### Courses that stop -/

/-- A course of runs, one for each name, that stops at the first one that fails.  The answer is then
the error that has its name and its failure. -/
structure StopsAtFailure {α : Type} (o p : Orchestrator) (names : List String)
    (course : List (RunRequest × RunReport)) (answer : Except EngineError α) : Prop where
  follows : Course o course p
  started : p.runs.map Run.request = o.runs.map Run.request ++ course.map Prod.fst
  reports : ∀ (k : ℕ) request report, course[k]? = some (request, report) →
    ∃ r : Run, p.runs[o.runs.length + k]? = some r ∧ r.request = request ∧
      r.result? = some (.ok report)
  ids : p.registry.ids.Sublist o.registry.ids
  failed : ∀ (k : ℕ) request report f, course[k]? = some (request, report) →
    report.outcome = .failure f →
    course.length = k + 1 ∧ ∃ name, names[k]? = some name ∧ answer = .error (.ofFailure name f)
  complete : (∀ run ∈ course, run.2.Succeeds) → course.length = names.length

namespace StopsAtFailure

variable {α β : Type} {o p q : Orchestrator} {names : List String} {name : String}
  {course : List (RunRequest × RunReport)} {request : RunRequest} {report : RunReport}
  {answer : Except EngineError α} {answer' : Except EngineError β}

/-- The runs of a course account for all but where it stops. -/
theorem of_follows (h : Course o course p)
    (failed : ∀ (k : ℕ) request report f, course[k]? = some (request, report) →
      report.outcome = .failure f →
      course.length = k + 1 ∧ ∃ name, names[k]? = some name ∧ answer = .error (.ofFailure name f))
    (complete : (∀ run ∈ course, run.2.Succeeds) → course.length = names.length) :
  StopsAtFailure o p names course answer
  := ⟨h, h.requests, fun _ _ _ => h.result, h.ids, failed, complete⟩

theorem done (o : Orchestrator) (answer : Except EngineError α) :
  StopsAtFailure o o [] [] answer
  := by
  apply of_follows (.done o)
  · rintro k request report f ⟨⟩
  · exact fun _ => rfl

/-- A run that fails is the last one. -/
theorem fail (h : Completes o request report p) {f : Failure} (hf : report.outcome = .failure f) :
  StopsAtFailure o p (name :: names) [(request, report)]
    (.error (.ofFailure name f) : Except EngineError α)
  := by
  apply of_follows (.run h (.done p))
  · intro k request' report' f' hk hf'
    cases k with
    | zero =>
        cases hk
        cases hf.symm.trans hf'
        exact ⟨rfl, name, rfl, rfl⟩
    | succ k => cases hk
  · intro hall
    obtain ⟨s, hs⟩ := hall _ List.mem_cons_self
    cases hs.symm.trans hf

/-- A run that succeeds is followed by the others; their error is that of the whole. -/
theorem succeed (h : Completes o request report p) (hsucceeds : report.Succeeds)
    (hrest : StopsAtFailure p q names course answer)
    (herror : ∀ e, answer = .error e → answer' = .error e) :
  StopsAtFailure o q (name :: names) ((request, report) :: course) answer'
  := by
  apply of_follows (.run h hrest.follows)
  · intro k request' report' f hk hf
    cases k with
    | zero =>
        cases hk
        obtain ⟨s, hs⟩ := hsucceeds
        cases hs.symm.trans hf
    | succ k =>
        obtain ⟨hlength, name', hname, hanswer⟩ := hrest.failed k _ _ f hk hf
        refine ⟨?_, name', hname, herror _ hanswer⟩
        rw [List.length_cons, hlength]
  · intro hall
    rw [List.length_cons, hrest.complete fun run hrun => hall run (List.mem_cons_of_mem _ hrun),
      List.length_cons]

/-- The error of a course is that of what is made of its answer. -/
theorem mono (h : StopsAtFailure o p names course answer)
    (herror : ∀ e, answer = .error e → answer' = .error e) :
  StopsAtFailure o p names course answer'
  := by
  apply of_follows h.follows
  · intro k request report f hk hf
    obtain ⟨hlength, name, hname, hanswer⟩ := h.failed k request report f hk hf
    exact ⟨hlength, name, hname, herror _ hanswer⟩
  · exact h.complete

/-- All runs have succeeded when there is an answer. -/
theorem succeeds (h : StopsAtFailure o p names course answer) {a : α} (ha : answer = .ok a) :
  ∀ run ∈ course, run.2.Succeeds
  := by
  rintro ⟨request, report⟩ hmem
  obtain ⟨k, hk⟩ := List.getElem?_of_mem hmem
  cases houtcome : report.outcome with
  | success s => exact ⟨s, houtcome⟩
  | failure f =>
      obtain ⟨-, name, -, hanswer⟩ := h.failed k request report f hk houtcome
      rw [hanswer] at ha
      cases ha

end StopsAtFailure

/-! ### Sides -/

namespace Engine

variable {σ : Type} {languages : Languages}
  {run : σ → RunRequest → σ × Except NoReport RunReport} {state v : σ} {request : RunRequest}
  {report : RunReport} (side : String)

theorem runSide_of_failure (hrun : run state request = (v, .ok report)) {f : Failure}
    (hf : report.outcome = .failure f) :
  runSide languages run side state request = (v, .error (.ofFailure side f))
  := by
  rw [runSide, hrun]
  simp only [hf, EngineError.ofFailure]

theorem runSide_of_success (hrun : run state request = (v, .ok report)) {s : Success}
    (hs : report.outcome = .success s) {handler : Handler}
    (hlanguage : languages request.language = .ok handler) {hint : GrowthHint}
    (hhint : handler.hint request.code = .ok hint) :
  runSide languages run side state request
    = (v, .ok (s, aggregate s.trace s.duration (some hint)))
  := by
  rw [runSide, hrun]
  simp only [hs, hlanguage, hhint]

section Measure

variable {fresh : σ → String × σ} {sample : Sample} {samples : List Sample} {number : ℕ}
  (hrun : run (fresh state).2 { request with id := (fresh state).1, input := sample.input }
    = (v, .ok report))
include hrun

theorem measure_of_failure {f : Failure} (hf : report.outcome = .failure f) :
  measure languages run fresh request number state (sample :: samples)
    = (v, .error (.ofFailure (sampleName number sample.size) f))
  := by
  rw [measure]
  simp only [runSide_of_failure _ hrun hf]

theorem measure_of_success {s : Success} (hs : report.outcome = .success s) {handler : Handler}
    (hlanguage : languages request.language = .ok handler) {hint : GrowthHint}
    (hhint : handler.hint request.code = .ok hint) :
  measure languages run fresh request number state (sample :: samples)
    = ((measure languages run fresh request (number + 1) v samples).1,
        (measure languages run fresh request (number + 1) v samples).2.map
          (⟨sample.size, s.duration⟩ :: ·))
  := by
  rw [measure]
  simp only [runSide_of_success _ hrun hs hlanguage hhint]

end Measure

/-- A profile is an estimate from what was measured. -/
theorem profile_eq {fresh : σ → String × σ} {samples : List Sample} {handler : Handler}
    (hlanguage : languages request.language = .ok handler) {hint : GrowthHint}
    (hhint : handler.hint request.code = .ok hint) :
  profile languages run fresh state request samples
    = ((measure languages run fresh request 1 state samples).1,
        (measure languages run fresh request 1 state samples).2.bind fun points =>
          (GrowthEstimate.estimate points (some hint)).mapError .estimate)
  := by
  rw [profile]
  split
  · rename_i h
    rw [h]
    rfl
  · rename_i h
    simp only [h, hlanguage, hhint]
    rfl

/-- The names of samples, the first of which has the number `number`. -/
def sampleNames (number : ℕ) : List Sample → List String
  | [] => []
  | sample :: samples => sampleName number sample.size :: sampleNames (number + 1) samples

/-- The sizes of samples with the durations of runs that succeeded. -/
def measured (samples : List Sample) (course : List (RunRequest × RunReport)) : List DataPoint :=
  (samples.zip course).filterMap fun (sample, _, report) =>
    match report.outcome with
    | .success s => some ⟨sample.size, s.duration⟩
    | .failure _ => none

end Engine

/-! ### Workshops -/

namespace Workshop

open Engine (measured sampleNames)

variable {σ : Type} {env : Environment σ} {used : σ → String → Prop} {w v : Workshop σ}
  {handler : Handler} {request : RunRequest} {report : RunReport}

/-- After a run with an id that has been used, a workshop is ready again. -/
theorem IsReady.serviced (hdraws : env.DrawsAnew used) (h : w.IsReady used)
    (hid : used w.surroundings request.id) (hrun : Serviced env w request report v) :
  v.IsReady used ∧ ∀ id, used w.surroundings id → used v.surroundings id
  := by
  have hkept : ∀ id, used w.surroundings id → used v.surroundings id := by
    intro id hused
    rcases hrun.surroundings with heq | ⟨r, program, heq⟩
    · rwa [heq]
    · rw [heq]
      apply hdraws.performed _ _ _ _ hused
  refine ⟨⟨h.sound.schedule hrun.completes.schedule, hrun.closed.trans h.opened, ?_⟩, hkept⟩
  intro id hmem
  apply hkept
  rw [← Function.comp_def (·.id) Run.request, ← List.map_map, hrun.completes.requests,
    List.map_append, List.mem_append, List.map_map] at hmem
  rcases hmem with hold | hnew
  · apply h.known _ hold
  · rw [List.map_singleton, List.mem_singleton] at hnew
    rwa [hnew]

/-- Drawing an id leaves a workshop ready, and the id is used from then on. -/
theorem IsReady.fresh (hdraws : env.DrawsAnew used) (h : w.IsReady used) :
  (w.fresh env).2.IsReady used
  := by
  refine ⟨h.sound, h.opened, ?_⟩
  intro id hmem
  apply hdraws.kept
  apply h.known id hmem

/-- What a profile has measured, and how: each run is for a sample of its own, under an id that has
not been used before. -/
structure Measures (used : σ → String → Prop) (w : Workshop σ) (request : RunRequest)
    (samples : List Sample) (course : List (RunRequest × RunReport))
    (answer : Except EngineError (List DataPoint)) : Prop where
  requests : ∀ (k : ℕ) copy report, course[k]? = some (copy, report) →
    ∃ sample, samples[k]? = some sample ∧ copy = { request with id := copy.id, input := sample.input }
  nodup : (course.map (·.1.id)).Nodup
  fresh : ∀ run ∈ course, ¬ used w.surroundings run.1.id
  points : (∀ run ∈ course, run.2.Succeeds) → answer = .ok (measured samples course)

namespace Measures

variable {samples : List Sample} {sample : Sample} {course : List (RunRequest × RunReport)}
  {answer : Except EngineError (List DataPoint)} {id : String} (hnew : ¬ used w.surroundings id)
include hnew

/-- A profile may end with a run that fails. -/
theorem fail {f : Failure} (hf : report.outcome = .failure f) :
  Measures used w request (sample :: samples)
    [({ request with id, input := sample.input }, report)] answer
  := by
  constructor
  · intro k copy report' hk
    cases k with
    | zero =>
        cases hk
        exact ⟨sample, rfl, rfl⟩
    | succ k => cases hk
  · apply List.nodup_singleton
  · intro run hmem
    rw [List.mem_singleton.mp hmem]
    exact hnew
  · intro hall
    obtain ⟨s, hs⟩ := hall _ List.mem_cons_self
    cases hs.symm.trans hf

/-- A profile goes on after a run that succeeds, with what it has measured. -/
theorem succeed {s : Success} (hs : report.outcome = .success s) (hused : used v.surroundings id)
    (hkept : ∀ id, used w.surroundings id → used v.surroundings id)
    (hrest : Measures used v request samples course answer) :
  Measures used w request (sample :: samples)
    (({ request with id, input := sample.input }, report) :: course)
    (answer.map (⟨sample.size, s.duration⟩ :: ·))
  := by
  constructor
  · intro k copy report' hk
    cases k with
    | zero =>
        cases hk
        exact ⟨sample, rfl, rfl⟩
    | succ k => exact hrest.requests k copy report' hk
  · rw [List.map_cons, List.nodup_cons]
    refine ⟨?_, hrest.nodup⟩
    rw [List.mem_map]
    rintro ⟨run, hmem, rfl⟩
    exact hrest.fresh run hmem hused
  · intro run hmem
    rcases List.mem_cons.mp hmem with rfl | hmem
    · exact hnew
    · exact fun hold => hrest.fresh run hmem (hkept _ hold)
  · intro hall
    rw [hrest.points fun run hmem => hall run (List.mem_cons_of_mem _ hmem)]
    simp only [Except.map, measured, List.zip_cons_cons, List.filterMap_cons, hs]

end Measures

/-- A profile runs its samples one after another, up to the first one that fails. -/
theorem measure_stops (hconcludes : env.Concludes) (hdraws : env.DrawsAnew used)
    {languages : Languages} (hlanguages : w.languages = languages) (hready : w.IsReady used)
    (hserves : w.Serves handler request) (number : ℕ) (samples : List Sample)
    {v : Workshop σ} {answer : Except EngineError (List DataPoint)}
    (h : Engine.measure languages (run env) (fresh env) request number w samples = (v, answer)) :
  ∃ course, StopsAtFailure w.orchestrator v.orchestrator (sampleNames number samples) course answer ∧
    Measures used w request samples course answer
  := by
  induction samples generalizing w number v answer with
  | nil =>
      cases h
      use [], .done _ _
      constructor
      · rintro k copy report ⟨⟩
      · exact List.nodup_nil
      · rintro run ⟨⟩
      · exact fun _ => rfl
  | cons sample samples ih =>
      let copy := { request with id := (w.fresh env).1, input := sample.input }
      have hdrawn := hready.fresh hdraws
      have hnew : ¬ used w.surroundings copy.id := hdraws.fresh w.surroundings
      have hcopy : w.Serves handler copy := hserves
      obtain ⟨report, u, hrun, hserviced⟩ := run_serviced hconcludes hdrawn.sound hdrawn.opened hcopy
        (hready.isRunning_eq_false hnew)
      cases houtcome : report.outcome with
      | failure f =>
          rw [Engine.measure_of_failure hrun houtcome] at h
          cases h
          exact ⟨_, .fail hserviced.completes houtcome, .fail hnew houtcome⟩
      | success s =>
          have hid : used (w.fresh env).2.surroundings copy.id := hdraws.drawn w.surroundings
          obtain ⟨hagain, hkept⟩ := hdrawn.serviced hdraws hid hserviced
          obtain ⟨hint, hhint⟩ := hserves.2.2
          rw [Engine.measure_of_success hrun houtcome (hlanguages ▸ hserves.1) hhint] at h
          cases h
          obtain ⟨course, hstops, hmeasures⟩ := ih (hserviced.languages.trans hlanguages) hagain
            ⟨by rw [hserviced.languages]; exact hserves.1, hserves.2⟩ (number + 1) rfl
          refine ⟨_, .succeed hserviced.completes ⟨s, houtcome⟩ hstops ?_, .succeed hnew houtcome ?_ ?_
            hmeasures⟩
          · intro e he
            rw [he]
            rfl
          · exact hkept _ hid
          · intro old hold
            apply hkept
            apply hdraws.kept _ _ hold

/-! ### Profiles and comparisons -/

/-- A profile that stops at the first sample whose run fails, and loses no measurement. -/
structure ProfileStops (w v : Workshop σ) (request : RunRequest) (samples : List Sample)
    (course : List (RunRequest × RunReport)) (answer : Except EngineError GrowthEstimate) : Prop where
  stops : StopsAtFailure w.orchestrator v.orchestrator (sampleNames 1 samples) course answer
  requests : ∀ (k : ℕ) copy report, course[k]? = some (copy, report) →
    ∃ sample, samples[k]? = some sample ∧ copy = { request with id := copy.id, input := sample.input }
  nodup : (course.map (·.1.id)).Nodup
  fresh : ∀ run ∈ course, run.1.id ∉ w.orchestrator.runs.map (·.request.id)
  estimated : (∀ run ∈ course, run.2.Succeeds) →
    ∃ hint, answer = (GrowthEstimate.estimate (measured samples course) hint).mapError .estimate
  sizes : (∀ run ∈ course, run.2.Succeeds) →
    (measured samples course).map DataPoint.size = samples.map Sample.size
  points : (∀ size ∈ samples.map Sample.size, size.isNaN = false) →
    (∃ s ∈ samples.map Sample.size, ∃ t ∈ samples.map Sample.size, (s == t) = false) →
    ∀ e, answer = .ok e → GrowthEstimate.IsSortedBySize e.points (measured samples course)

/-- A workshop whose profiles and comparisons stop at the first failure. -/
structure StopsAtFirstFailure (env : Environment σ) (w : Workshop σ) : Prop where
  profile : ∀ handler request samples, w.Serves handler request →
    ∃ course, ProfileStops w (w.profile env request samples).1 request samples course
      (w.profile env request samples).2
  compare : ∀ handler handler' first second, w.Serves handler first → w.Serves handler' second →
    w.orchestrator.registry.isRunning first.id = false →
    w.orchestrator.registry.isRunning second.id = false →
    ∃ course, StopsAtFailure w.orchestrator (w.compare env first second).1.orchestrator
        ["first", "second"] course (w.compare env first second).2 ∧
      course.map Prod.fst = [first, second].take course.length

/-- There is one name for each sample. -/
theorem length_sampleNames (number : ℕ) (samples : List Sample) :
  (sampleNames number samples).length = samples.length
  := by
  induction samples generalizing number with
  | nil => rfl
  | cons sample samples ih => rw [sampleNames, List.length_cons, List.length_cons, ih]

/-- When all runs succeed, there is one measurement for each sample. -/
theorem map_size_measured {samples : List Sample} {course : List (RunRequest × RunReport)}
    (hlength : course.length = samples.length) (hall : ∀ run ∈ course, run.2.Succeeds) :
  (measured samples course).map DataPoint.size = samples.map Sample.size
  := by
  induction samples generalizing course with
  | nil => rfl
  | cons sample samples ih =>
      cases course with
      | nil => cases hlength
      | cons run course =>
          obtain ⟨s, hs⟩ := hall run List.mem_cons_self
          have hrest := ih (Nat.succ_injective hlength)
            fun run hmem => hall run (List.mem_cons_of_mem _ hmem)
          rw [measured] at hrest ⊢
          simp only [List.zip_cons_cons, List.filterMap_cons, hs, List.map_cons, hrest]

theorem profile_stops (hconcludes : env.Concludes) (hdraws : env.DrawsAnew used)
    (hready : w.IsReady used) (hserves : w.Serves handler request) (samples : List Sample) :
  ∃ course, ProfileStops w (w.profile env request samples).1 request samples course
    (w.profile env request samples).2
  := by
  obtain ⟨course, hstops, hmeasures⟩ :=
    measure_stops hconcludes hdraws rfl hready hserves 1 samples rfl
  obtain ⟨hint, hhint⟩ := hserves.2.2
  rw [profile, Engine.profile_eq hserves.1 hhint]
  use course
  have hsizes : (∀ run ∈ course, run.2.Succeeds) →
      (measured samples course).map DataPoint.size = samples.map Sample.size := by
    intro hall
    apply map_size_measured _ hall
    rw [hstops.complete hall, length_sampleNames]
  constructor
  · apply hstops.mono
    intro e he
    rw [he]
    rfl
  · exact hmeasures.requests
  · exact hmeasures.nodup
  · intro run hmem hold
    exact hmeasures.fresh run hmem (hready.known _ hold)
  · intro hall
    use some hint
    rw [hmeasures.points hall]
    rfl
  · exact hsizes
  · intro hnumbers hvary e he
    obtain ⟨points, hpoints, hestimate⟩ : ∃ points,
        (Engine.measure w.languages (run env) (fresh env) request 1 w samples).2 = .ok points ∧
          (GrowthEstimate.estimate points (some hint)).mapError EngineError.estimate = .ok e := GrowthEstimate.bind_eq_ok_iff.mp he
    have hall := hstops.succeeds hpoints
    cases (hmeasures.points hall).symm.trans hpoints
    rw [← hsizes hall] at hnumbers hvary
    cases hestimated : GrowthEstimate.estimate (measured samples course) (some hint) with
    | error cause =>
        rw [hestimated] at hestimate
        cases hestimate
    | ok estimate =>
        rw [hestimated] at hestimate
        cases hestimate
        exact GrowthEstimate.isSortedBySize_estimate hnumbers hvary hestimated

theorem compare_stops (hconcludes : env.Concludes) (hready : w.IsReady used) {handler' : Handler}
    {first second : RunRequest} (hfirst : w.Serves handler first)
    (hsecond : w.Serves handler' second)
    (hfree : w.orchestrator.registry.isRunning first.id = false)
    (hfree' : w.orchestrator.registry.isRunning second.id = false) :
  ∃ course, StopsAtFailure w.orchestrator (w.compare env first second).1.orchestrator
      ["first", "second"] course (w.compare env first second).2 ∧
    course.map Prod.fst = [first, second].take course.length
  := by
  obtain ⟨report, v, hrun, hserviced⟩ :=
    run_serviced hconcludes hready.sound hready.opened hfirst hfree
  cases houtcome : report.outcome with
  | failure f =>
      rw [compare, Engine.compare, Engine.runSide_of_failure _ hrun houtcome]
      exact ⟨_, .fail hserviced.completes houtcome, rfl⟩
  | success s =>
      have hsound := hready.sound.schedule hserviced.completes.schedule
      have hopened := hserviced.closed.trans hready.opened
      -- the id of the second request is still free, or free again
      have hfree : v.orchestrator.registry.isRunning second.id = false := by
        rw [Registry.isRunning, List.contains_eq_mem, decide_eq_false_iff_not] at hfree' ⊢
        exact fun hmem => hfree' (hserviced.completes.ids.mem hmem)
      have hsecond' : v.Serves handler' second := by
        rw [Serves, hserviced.languages]
        exact hsecond
      obtain ⟨report', u, hrun', hserviced'⟩ :=
        run_serviced hconcludes hsound hopened hsecond' hfree
      obtain ⟨hint, hhint⟩ := hfirst.2.2
      obtain ⟨hint', hhint'⟩ := hsecond.2.2
      rw [compare, Engine.compare, Engine.runSide_of_success _ hrun houtcome hfirst.1 hhint]
      cases houtcome' : report'.outcome with
      | failure f =>
          simp only [Engine.runSide_of_failure _ hrun' houtcome']
          refine ⟨_, .succeed hserviced.completes ⟨s, houtcome⟩
            (.fail (α := ComparisonReport) hserviced'.completes houtcome') ?_, rfl⟩
          rintro e ⟨⟩
          rfl
      | success s' =>
          simp only [Engine.runSide_of_success _ hrun' houtcome' hsecond.1 hhint']
          have hboth : ∀ answer : Except EngineError ComparisonReport,
              StopsAtFailure w.orchestrator u.orchestrator ["first", "second"]
                [(first, report), (second, report')] answer := by
            intro answer
            exact .succeed hserviced.completes ⟨s, houtcome⟩
              (.succeed hserviced'.completes ⟨s', houtcome'⟩ (.done _ answer) fun _ he => he)
              fun _ he => he
          split
          · exact ⟨_, hboth _, rfl⟩
          · exact ⟨_, hboth _, rfl⟩

/-- Profiles and comparisons stop at the first failure, and lose no measurement. -/
theorem stopsAtFirstFailure (hconcludes : env.Concludes) (hdraws : env.DrawsAnew used)
    (hready : w.IsReady used) :
  StopsAtFirstFailure env w
  := by
  constructor
  · intro handler request samples hserves
    exact profile_stops hconcludes hdraws hready hserves samples
  · intro handler handler' first second hfirst hsecond hfree hfree'
    exact compare_stops hconcludes hready hfirst hsecond hfree hfree'

/-! ### Scripted surroundings -/

/-- Surroundings in which runs have the outcomes of a script, and ids are drawn that are longer and
longer. -/
def scripted : Environment (ℕ × List Outcome) where
  fresh s := (String.ofList (List.replicate s.1 'i'), (s.1 + 1, s.2))
  perform s _ _ := ((s.1, s.2.tail), ⟨[], .ok (s.2.headD (.success {}))⟩)
  isOpen _ _ := true

theorem scripted_drawsAnew :
  scripted.DrawsAnew fun s id => id.length < s.1
  := by
  constructor
  · intro s
    simp [scripted]
  · intro s
    simp [scripted]
  · intro s id hid
    exact Nat.lt_succ_of_lt hid
  · intro s r program id hid
    exact hid

/-- A handler that runs snippets as they are. -/
def plainHandler : Handler where
  language := ⟨"plain", "Plain", "1"⟩
  timeout := 1
  instrument code _ := .ok code
  hint _ := .ok .unanalysed

/-- A workshop with one language, whose second run fails. -/
def scriptedWorkshop : Workshop (ℕ × List Outcome) where
  orchestrator := { registry := { handlers := [("plain", plainHandler)] } }
  surroundings := (0, [.success { duration := 1 }, .failure { kind := .timeout, message := "" }])

theorem stopsAtFirstFailure_scripted :
  StopsAtFirstFailure scripted scriptedWorkshop ∧
    scriptedWorkshop.Serves plainHandler { code := "", language := "plain", id := "i" }
  := by
  constructor
  · refine @stopsAtFirstFailure _ _ (fun s id => id.length < s.1) _ ?_ ?_ ?_
    · intro s r program
      refine ⟨_, rfl, ?_⟩
      rintro gate ⟨⟩
    · exact scripted_drawsAnew
    · refine ⟨Orchestrator.isSound_new _ _ _, rfl, ?_⟩
      rintro id ⟨⟩
  · exact ⟨rfl, .program _ rfl, _, rfl⟩

end Workshop

end SnippetProfiler
