import SnippetProfiler.Proofs.Orchestration.Courses
import SnippetProfiler.Proofs.Service.Steps

/-!
# Runs of a workshop are complete

Where every performance comes to an outcome, a request that a workshop accepts is run to its end:
either its snippet is refused, or the handler performs and goes on until the run has settled.  In
both cases there is a report, and the workshop is as ready as before.
-/

namespace SnippetProfiler

/-- A handler that instruments a snippet, or refuses it with details of which a line can be read. -/
inductive Handler.Answers (handler : Handler) (code : String) (options : TrackingOptions) : Prop where
  | program (program : String) (h : handler.instrument code options = .ok program)
  | refusal (message : String) (details : List (String × Json)) (line : Option FailureLine)
      (h : handler.instrument code options = .error (.refused message details))
      (hline : FailureLine.read ((Json.lookup details "line").getD (.str "unknown")) = .valid line)

namespace Environment

variable {σ : Type}

/-- Surroundings in which each performance ends with an outcome, and waits at no gate that is
closed. -/
def Concludes (env : Environment σ) : Prop :=
  ∀ s r program, ∃ outcome, (env.perform s r program).2.ending = .ok outcome ∧
    ∀ gate, Act.await gate ∈ (env.perform s r program).2.acts →
      env.isOpen (env.perform s r program).1 gate = true

/-- Surroundings that draw no id that has been used, and remember those that have been. -/
structure DrawsAnew (env : Environment σ) (used : σ → String → Prop) : Prop where
  fresh : ∀ s, ¬ used s (env.fresh s).1
  drawn : ∀ s, used (env.fresh s).2 (env.fresh s).1
  kept : ∀ s id, used s id → used (env.fresh s).2 id
  performed : ∀ s r program id, used s id → used (env.perform s r program).1 id

end Environment

namespace Run

/-- A run that has just claimed its id, for a caller who takes the news. -/
structure IsNew (r : Run) : Prop where
  claimed : r.phase = .claimed
  takes : ∀ stage, r.caller.takes stage = true
  channel : r.relay.channel = []
  pump : r.relay.pump = .waiting

variable {r : Run}

/-- A new run gets a program that is ready, or a report of the refusal. -/
theorem IsNew.start (h : r.IsNew) (hanswers : r.handler.Answers r.request.code r.request.options) :
  (∃ program, r.start.phase = .ready program ∧ r.start.relay = r.relay) ∨
    ∃ report, r.start.result? = some (.ok report)
  := by
  rw [Run.start, h.claimed]
  cases hanswers with
  | program program hprogram =>
      left
      use program
      simp only [hprogram, tell, h.takes, if_true, and_self]
  | refusal message details line hrefused hline =>
      right
      simp only [hrefused, refusal, hline, Validation.Checked.under, finish, result?]
      exact ⟨_, rfl⟩

end Run

namespace Workshop

variable {σ : Type} {env : Environment σ} {w : Workshop σ}

/-! ### Beginnings -/

theorem keeps_begin (env : Environment σ) (w : Workshop σ) (number : Nat) :
  Orchestrator.Keeps w.orchestrator (w.begin env number).orchestrator
  := by
  have hstart := Orchestrator.keeps_change w.orchestrator number Run.start
  rw [begin]
  split
  · apply hstart
  · split
    · apply hstart.trans
      apply Orchestrator.keeps_change
    · apply hstart

/-- A beginning changes the surroundings only by a performance. -/
theorem begin_surroundings (env : Environment σ) (w : Workshop σ) (number : Nat) :
  (w.begin env number).surroundings = w.surroundings ∨
    ∃ r program, (w.begin env number).surroundings = (env.perform w.surroundings r program).1
  := by
  rw [begin]
  split
  · exact .inl rfl
  · rename_i r _
    split
    · rename_i program _
      exact .inr ⟨r, program, rfl⟩
    · exact .inl rfl

/-- A new run has a report when it has begun and settled. -/
theorem exists_result_begin (hconcludes : env.Concludes) {number : Nat} {r : Run}
    (hr : w.orchestrator.runs[number]? = some r) (hnew : r.IsNew)
    (hanswers : r.handler.Answers r.request.code r.request.options) {hint : GrowthHint}
    (hhint : r.handler.hint r.request.code = .ok hint) :
  ∃ s report, ((w.begin env number).settle env).orchestrator.runs[number]? = some s ∧
    s.request = r.request ∧ s.result? = some (.ok report)
  := by
  obtain ⟨s, hs, hlater⟩ := Orchestrator.continues_schedule
    ((goes_begin env w number).trans (goes_settle env (w.begin env number))) number r hr
  have hstarted : (w.orchestrator.change number Run.start).runs[number]? = some r.start := by
    rw [Orchestrator.getElem?_change, if_pos rfl, hr]
    rfl
  rcases hnew.start hanswers with ⟨program, hready, hrelay⟩ | ⟨report, hreport⟩
  · -- the handler performs, and the run is driven to the outcome
    obtain ⟨outcome, hending, hgates⟩ := hconcludes w.surroundings r.start program
    have hdriven := Run.isDriven_perform hready (hrelay ▸ hnew.channel) (hrelay ▸ hnew.pump) hending
      hgates
    have hsettled : ((w.begin env number).settle env).orchestrator.runs[number]?
        = some ((r.start.perform (env.perform w.surroundings r.start program).2).settle
            (env.isOpen (env.perform w.surroundings r.start program).1)) := by
      rw [settle, Orchestrator.getElem?_settle, begin]
      simp only [hstarted, hready]
      rw [Orchestrator.getElem?_change, if_pos rfl, hstarted]
      rfl
    cases hs.symm.trans hsettled
    rw [← hlater.request, ← hlater.handler] at hhint
    obtain ⟨report, hreport, -⟩ := hdriven.result?_settle hhint
    exact ⟨_, report, hs, hlater.request, hreport⟩
  · -- the run has ended, and keeps its report
    obtain ⟨t, ht, hkept⟩ := Orchestrator.continues_schedule (goes_settle env (w.begin env number))
      number r.start (by
        rw [begin]
        simp only [hstarted]
        split
        · rename_i program hphase
          rw [Run.result?, hphase] at hreport
          cases hreport
        · exact hstarted)
    cases hs.symm.trans ht
    exact ⟨s, report, hs, hlater.request, hkept.result _ hreport⟩

/-! ### Complete runs -/

/-- A workshop that takes requests: its registry is open, and the ids of all runs have been used. -/
structure IsReady (used : σ → String → Prop) (w : Workshop σ) : Prop where
  sound : w.orchestrator.IsSound
  opened : w.orchestrator.registry.closed = false
  known : ∀ id ∈ w.orchestrator.runs.map (·.request.id), used w.surroundings id

/-- A request in a language that the workshop knows, whose snippet the handler answers and is not
nested too deeply for a hint. -/
def Serves (w : Workshop σ) (handler : Handler) (request : RunRequest) : Prop :=
  w.languages request.language = .ok handler ∧ handler.Answers request.code request.options ∧
    ∃ hint, handler.hint request.code = .ok hint

/-- The id of a run that has not been used is free. -/
theorem IsReady.isRunning_eq_false {used : σ → String → Prop} (h : w.IsReady used) {id : String}
    (hid : ¬ used w.surroundings id) :
  w.orchestrator.registry.isRunning id = false
  := by
  rw [← Bool.not_eq_true, h.sound.isRunning_iff]
  rintro ⟨number, r, hr, -, rfl⟩
  apply hid
  apply h.known
  exact List.mem_map_of_mem (List.mem_of_getElem? hr)

/-- What a run leaves to those after it. -/
structure Serviced (env : Environment σ) (w : Workshop σ) (request : RunRequest)
    (report : RunReport) (v : Workshop σ) : Prop where
  completes : Orchestrator.Completes w.orchestrator request report v.orchestrator
  languages : v.languages = w.languages
  closed : v.orchestrator.registry.closed = w.orchestrator.registry.closed
  surroundings : v.surroundings = w.surroundings ∨
    ∃ r program, v.surroundings = (env.perform w.surroundings r program).1

/-- A request with a free id is run to its end. -/
theorem run_serviced (hconcludes : env.Concludes) (hsound : w.orchestrator.IsSound)
    (hopen : w.orchestrator.registry.closed = false) {handler : Handler} {request : RunRequest}
    (hserves : w.Serves handler request)
    (hfree : w.orchestrator.registry.isRunning request.id = false) :
  ∃ report v, w.run env request = (v, .ok report) ∧ Serviced env w request report v
  := by
  obtain ⟨hlanguage, hanswers, hint, hhint⟩ := hserves
  obtain ⟨p, hexecute, hruns, hhandlers, hclosed, hids⟩ :=
    Orchestrator.execute_of_free { sink := none } hlanguage hopen hfree
  let accepted : Workshop σ := { w with orchestrator := p }
  have hlast : accepted.orchestrator.runs[w.orchestrator.runs.length]?
      = some (w.orchestrator.newRun handler request { sink := none }) := by
    rw [hruns, List.getElem?_concat_length]
  obtain ⟨r, report, hr, hrequest, hreport⟩ := exists_result_begin (w := accepted) hconcludes hlast
    ⟨rfl, fun _ => rfl, rfl, rfl⟩ hanswers hhint
  have hkeeps : Orchestrator.Keeps p
      ((accepted.begin env w.orchestrator.runs.length).settle env).orchestrator :=
    (keeps_begin env accepted w.orchestrator.runs.length).trans (Orchestrator.keeps_settle _ _)
  have hrun : w.run env request
      = ((accepted.begin env w.orchestrator.runs.length).settle env, .ok report) := by
    rw [run, hexecute]
    simp only [Workshop.report, Orchestrator.result?, accepted] at hr ⊢
    rw [hr, Option.bind_some, hreport]
  have hschedule := goes_run env w request
  rw [hrun] at hschedule
  refine ⟨report, _, hrun, ?_, ?_, ?_, ?_⟩
  · have hlength := hkeeps.length
    rw [hruns, List.length_append, List.length_singleton] at hlength
    have hsublist := hkeeps.ids
    rw [hids] at hsublist
    cases hrequest
    exact Orchestrator.completes_of_result hsound hschedule hlength hr hreport hfree hsublist
  · funext language
    rw [languages, languages, Registry.resolve, Registry.resolve, Registry.handler?,
      Registry.handler?, hkeeps.handlers, hhandlers]
  · rw [← hclosed]
    exact hkeeps.closed
  · exact begin_surroundings env accepted _

end Workshop

end SnippetProfiler
