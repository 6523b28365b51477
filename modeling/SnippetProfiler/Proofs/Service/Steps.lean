import SnippetProfiler.Proofs.Feed.Shelf
import SnippetProfiler.Proofs.Orchestration.Moves
import SnippetProfiler.Service.Answer

/-!
# Steps of a service

A service takes requests at any time, while runs go on, watchers wake, and readers follow feeds.
An answer takes many steps at once: it is a schedule of its own, in which nobody else comes
between.
-/

namespace SnippetProfiler

open Relation (ReflTransGen)

/-! ### Comparing and profiling -/

namespace Engine

variable {σ : Type} (languages : Languages)
  {run : σ → RunRequest → σ × Except NoReport RunReport} {fresh : σ → String × σ}

theorem runSide_state (side : String) (state : σ) (request : RunRequest) :
  (runSide languages run side state request).1 = (run state request).1
  := by
  rw [runSide]
  split
  · rename_i h
    rw [h]
  · rename_i h
    rw [h]
    split
    · rfl
    · split
      · rfl
      · split
        · rfl
        · rfl

variable {R : σ → σ → Prop} (hrun : ∀ state request, R state (run state request).1)
  (htrans : ∀ a b c, R a b → R b c → R a c)
include hrun htrans

/-- A comparison goes on by runs. -/
theorem compare_state (state : σ) (first second : RunRequest) :
  R state (compare languages run state first second).1
  := by
  have hside : ∀ side state request, R state (runSide languages run side state request).1 := by
    intro side state request
    rw [runSide_state]
    apply hrun
  rw [compare]
  have hfirst := hside "first" state first
  split
  · rename_i h
    rw [h] at hfirst
    apply hfirst
  · rename_i state' _ _ h
    rw [h] at hfirst
    apply htrans _ _ _ hfirst
    have hsecond := hside "second" state' second
    split
    · rename_i h'
      rw [h'] at hsecond
      apply hsecond
    · rename_i h'
      rw [h'] at hsecond
      split
      · apply hsecond
      · apply hsecond

variable (hfresh : ∀ state, R state (fresh state).2) (hrefl : ∀ state, R state state)
include hfresh hrefl

theorem measure_state (request : RunRequest) (number : Nat) (state : σ) (samples : List Sample) :
  R state (measure languages run fresh request number state samples).1
  := by
  induction samples generalizing number state with
  | nil => apply hrefl
  | cons sample samples ih =>
      rw [measure]
      have hdrawn := hfresh state
      rcases hid : fresh state with ⟨id, drawn⟩
      rw [hid] at hdrawn
      apply htrans _ _ _ hdrawn
      have hside := hrun drawn { request with id, input := sample.input }
      rw [← runSide_state languages (sampleName number sample.size)] at hside
      simp only
      split
      · rename_i h
        rw [h] at hside
        apply hside
      · rename_i h
        rw [h] at hside
        apply htrans _ _ _ hside
        apply ih

/-- A profile goes on by runs and fresh ids. -/
theorem profile_state (state : σ) (request : RunRequest) (samples : List Sample) :
  R state (profile languages run fresh state request samples).1
  := by
  have hmeasure := measure_state languages hrun htrans hfresh hrefl request 1 state samples
  rw [profile]
  split
  · rename_i h
    rw [h] at hmeasure
    apply hmeasure
  · rename_i h
    rw [h] at hmeasure
    split
    · apply hmeasure
    · split
      · apply hmeasure
      · apply hmeasure

end Engine

/-! ### Workshops -/

namespace Workshop

variable {σ : Type} (env : Environment σ) (w : Workshop σ)

/-- A workshop at a later moment: its orchestrator has followed a schedule. -/
def Goes (w v : Workshop σ) : Prop :=
  ReflTransGen Orchestrator.Step w.orchestrator v.orchestrator

theorem goes_begin (number : Nat) :
  w.Goes (w.begin env number)
  := by
  have hstart := Orchestrator.change_start_schedule number w.orchestrator
  rw [Goes, begin]
  split
  · apply hstart
  · split
    · apply hstart.trans
      apply Orchestrator.change_perform_schedule
    · apply hstart

theorem goes_settle :
  w.Goes (w.settle env)
  := Orchestrator.settle_schedule _ _

theorem goes_run (request : RunRequest) :
  w.Goes (w.run env request).1
  := by
  rw [run]
  split
  · apply ReflTransGen.refl
  · rename_i o number hexecute
    have hsubmit : Orchestrator.Step w.orchestrator o := by
      apply Orchestrator.Step.submit request { sink := none }
      rw [Orchestrator.submit, hexecute]
    apply (ReflTransGen.single hsubmit).trans
    apply ReflTransGen.trans (goes_begin env { w with orchestrator := o } number)
    apply goes_settle

theorem goes_fresh :
  w.Goes (w.fresh env).2
  := ReflTransGen.refl

theorem goes_compare (first second : RunRequest) :
  w.Goes (w.compare env first second).1
  := Engine.compare_state _ (goes_run env) (fun _ _ _ => ReflTransGen.trans) w first second

theorem goes_profile (request : RunRequest) (samples : List Sample) :
  w.Goes (w.profile env request samples).1
  := Engine.profile_state _ (goes_run env) (fun _ _ _ => ReflTransGen.trans)
    (goes_fresh env) (fun _ => ReflTransGen.refl) w request samples

end Workshop

namespace Service

variable {σ : Type}

/-! ### Steps -/

/-- A step of a service: a request for a run with a feed; steps of the orchestrator, also those
of runs without feeds, of which the feeds are told; a step of a watcher; a step of somebody who
reads a feed; or a change of the surroundings alone. -/
inductive Step (s t : Service σ) : Prop where
  | execute (request : RunRequest) (h : t = (s.execute request).1)
  | advance (workshop : Workshop σ) (hgoes : s.workshop.Goes workshop) (h : t = s.adopt workshop)
  | watch (number : Nat) (h : s.watch? number = some t)
  | read (number : Nat) (f g : Feed) (hf : s.feeds.feeds[number]? = some f) (hg : Feed.Reads f g)
      (h : t = { s with feeds := s.feeds.change number fun _ => g })
  | draw (surroundings : σ) (h : t = { s with workshop := { s.workshop with surroundings } })

/-- A step of a run, of which its feed is told. -/
theorem Step.of_move {s t : Service σ} (isOpen : String → Bool) (m : Orchestrator.Move)
    (h : s.move? isOpen m = some t) :
  Step s t
  := by
  obtain ⟨o, ho, rfl⟩ := Option.map_eq_some_iff.mp h
  exact .advance _ (ReflTransGen.single (.move isOpen m ho)) rfl

/-- What can happen to a service: it answers a request, or takes a step. -/
inductive Event (s t : Service σ) : Prop where
  | request (env : Environment σ) (r : Request) (h : t = (s.answer env r).1)
  | step (h : Step s t)

/-! ### Schedules -/

section Schedule

variable (env : Environment σ) (s : Service σ)

theorem watchAll_schedule :
  ReflTransGen Step s s.watchAll
  := by
  rw [watchAll]
  induction List.range s.watchers.length generalizing s with
  | nil => apply ReflTransGen.refl
  | cons number numbers ih =>
      rw [List.foldl_cons]
      cases h : s.watch? number with
      | none => apply ih
      | some t =>
          apply ReflTransGen.head (.watch number h)
          apply ih

theorem begin_schedule (run : Nat) :
  ReflTransGen Step s (s.begin env run)
  := ReflTransGen.single (.advance _ (Workshop.goes_begin env s.workshop run) rfl)

theorem settle_schedule :
  ReflTransGen Step s (s.settle env)
  := by
  apply ReflTransGen.head (.advance _ (Workshop.goes_settle env s.workshop) rfl)
  apply watchAll_schedule

theorem during_schedule {α : Type} (work : Workshop σ → Workshop σ × α)
    (hwork : s.workshop.Goes (work s.workshop).1) :
  ReflTransGen Step s (s.during work).1
  := by
  apply ReflTransGen.head (.advance _ hwork rfl)
  apply watchAll_schedule

theorem reads_schedule {number : Nat} {f g : Feed} (hf : s.feeds.feeds[number]? = some f)
    (hreads : ReflTransGen Feed.Reads f g) :
  ReflTransGen Step s { s with feeds := s.feeds.change number fun _ => g }
  := by
  induction hreads with
  | refl =>
      rw [FeedStore.change_eq_self]
      intro f' hf'
      cases hf.symm.trans hf'
      rfl
  | @tail g g' _ hread ih =>
      apply ih.tail
      apply Step.read number g g' _ hread
      · simp only [FeedStore.change_change, Function.comp_def]
      · apply FeedStore.getElem?_change hf

/-- Reading a feed for some time is a schedule. -/
theorem change_schedule (number : Nat) {k : Feed → Feed}
    (hk : ∀ f, ReflTransGen Feed.Reads f (k f)) :
  ReflTransGen Step s { s with feeds := s.feeds.change number k }
  := by
  cases hf : s.feeds.feeds[number]? with
  | none =>
      rw [FeedStore.change_eq_self]
      intro f hf'
      cases hf.symm.trans hf'
  | some f =>
      have hsame : s.feeds.change number k = s.feeds.change number fun _ => k f := by
        apply FeedStore.change_congr
        intro f' hf'
        cases hf.symm.trans hf'
        rfl
      rw [hsame]
      apply reads_schedule s hf (hk f)

theorem followed_schedule (feed : Nat) :
  ReflTransGen Step s (s.followed env feed).1
  := by
  have hfollow := change_schedule s feed fun f => ReflTransGen.single (.follow (f := f) rfl)
  have hwait : ∀ t : Service σ,
      ReflTransGen Step t (if t.feeds.isFinished feed then t else t.settle env) := by
    intro t
    split
    · apply ReflTransGen.refl
    · apply settle_schedule
  have hlast := fun t : Service σ => change_schedule t feed Feed.settle_reads
  rw [followed]
  split
  · apply hfollow.trans
    apply (hwait _).trans
    apply hlast
  · apply hfollow.trans
    apply (hwait _).trans
    apply hlast

/-! ### Answers -/

theorem withBody_schedule {α : Type} (r : Request) {read : Validation.Fields → Validation.Checked α}
    {answer : α → Service σ × Response} (hanswer : ∀ a, ReflTransGen Step s (answer a).1) :
  ReflTransGen Step s (withBody s r read answer).1
  := by
  rw [withBody]
  split
  · apply ReflTransGen.refl
  · apply ReflTransGen.refl
  · apply ReflTransGen.refl
  · apply ReflTransGen.refl
  · split
    · apply hanswer
    · apply ReflTransGen.refl

theorem fresh_schedule :
  ReflTransGen Step s (s.fresh env).2
  := ReflTransGen.single (.draw (env.fresh s.workshop.surroundings).2 rfl)

/-- What the answer to a request for a run is: the request is refused, or it starts a run that
then goes on. -/
theorem answerExecute_cases (b : ExecuteBody) :
  ∃ id t, ReflTransGen Step s t ∧
    ((∃ u e, t.execute (b.request id) = (u, .error e) ∧
      answerExecute env s b = (u, .ofStartError e)) ∨
    (∃ u number, t.execute (b.request id) = (u, .ok number) ∧
      answerExecute env s b = ((u.begin env number).settle env,
        .ofData (.obj [("status", .str "started"), ("executionId", .str id)]))))
  := by
  rw [answerExecute]
  split
  rename_i id t hid
  use id, t
  constructor
  · split at hid
    · cases hid
      apply ReflTransGen.refl
    · have hdrawn := fresh_schedule env s
      rw [hid] at hdrawn
      apply hdrawn
  · split
    · rename_i u e h
      exact .inl ⟨u, e, h, rfl⟩
    · rename_i u number h
      exact .inr ⟨u, number, h, rfl⟩

theorem answerExecute_schedule (b : ExecuteBody) :
  ReflTransGen Step s (answerExecute env s b).1
  := by
  obtain ⟨id, t, hfresh, ⟨u, e, h, heq⟩ | ⟨u, number, h, heq⟩⟩ := answerExecute_cases env s b
  · rw [heq]
    apply hfresh.tail
    apply Step.execute (b.request id)
    rw [h]
  · rw [heq]
    have hstep : Step t u := by
      apply Step.execute (b.request id)
      rw [h]
    apply (hfresh.tail hstep).trans
    apply (begin_schedule env u number).trans
    apply settle_schedule

theorem answerCompare_schedule (b : CompareBody) :
  ReflTransGen Step s (answerCompare env s b).1
  := by
  rw [answerCompare]
  have hfirst := fresh_schedule env s
  rcases hid : s.fresh env with ⟨id, t⟩
  rw [hid] at hfirst
  apply hfirst.trans
  have hsecond := fresh_schedule env t
  simp only
  rcases hid' : t.fresh env with ⟨id', u⟩
  rw [hid'] at hsecond
  apply hsecond.trans
  have hduring := during_schedule u (fun w => w.compare env (b.request b.first id)
    (b.request b.second id')) (Workshop.goes_compare env u.workshop _ _)
  simp only
  split
  · rename_i h
    rw [h] at hduring
    apply hduring
  · rename_i h
    rw [h] at hduring
    apply hduring

theorem answerProfile_schedule (b : ProfileBody) :
  ReflTransGen Step s (answerProfile env s b).1
  := by
  rw [answerProfile]
  have hfresh := fresh_schedule env s
  rcases hid : s.fresh env with ⟨id, t⟩
  rw [hid] at hfresh
  apply hfresh.trans
  have hduring := during_schedule t (fun w => w.profile env (b.request id) b.samples)
    (Workshop.goes_profile env t.workshop _ _)
  simp only
  split
  · rename_i h
    rw [h] at hduring
    apply hduring
  · rename_i h
    rw [h] at hduring
    apply hduring

theorem answerEvents_schedule (id : String) :
  ReflTransGen Step s (answerEvents env s id).1
  := by
  rw [answerEvents]
  split
  · apply ReflTransGen.refl
  · apply followed_schedule

theorem answerRoute_schedule (r : Request) (route : Route) :
  ReflTransGen Step s (answerRoute env s r route).1
  := by
  cases route with
  | execute => apply withBody_schedule s r (answerExecute_schedule env s)
  | events id => apply answerEvents_schedule
  | report id => apply ReflTransGen.refl
  | callGraph id => apply ReflTransGen.refl
  | compare => apply withBody_schedule s r (answerCompare_schedule env s)
  | profile => apply withBody_schedule s r (answerProfile_schedule env s)
  | languages => apply ReflTransGen.refl
  | growth => apply withBody_schedule s r fun _ => ReflTransGen.refl
  | health => apply ReflTransGen.refl

theorem answerPlain_schedule (r : Request) :
  ReflTransGen Step s (answerPlain env s r).1
  := by
  rw [answerPlain]
  split
  · split
    · apply answerRoute_schedule
    · apply ReflTransGen.refl
  · split
    · apply ReflTransGen.refl
    · apply ReflTransGen.refl

/-- An answer is a schedule. -/
theorem answer_schedule (r : Request) :
  ReflTransGen Step s (s.answer env r).1
  := by
  rw [answer]
  split
  · apply ReflTransGen.refl
  · have hplain := answerPlain_schedule env s r
    rcases hanswer : answerPlain env s r with ⟨t, response⟩
    rw [hanswer] at hplain
    apply hplain

end Schedule

/-- What happens to a service is a schedule. -/
theorem schedule_of_events {s t : Service σ} (h : ReflTransGen Event s t) :
  ReflTransGen Step s t
  := by
  induction h with
  | refl => apply ReflTransGen.refl
  | tail _ hevent ih =>
      apply ih.trans
      cases hevent with
      | request env r ht =>
          rw [ht]
          apply answer_schedule
      | step hstep => apply ReflTransGen.single hstep

end Service

end SnippetProfiler
