import SnippetProfiler.Proofs.Orchestration.Claims
import SnippetProfiler.Proofs.Service.Steps

/-!
# Observing runs

The id of a run is free as soon as the run has ended, while its feed is ended later, by a watcher
that may be slow to wake.  Meanwhile the id may be used again; the new run has a feed of its own,
which takes the place of the old one on the shelf.

Every watcher has a feed of its own, and a run that has not ended has its feed on the shelf, not
finished.  A watcher ends no other feed than its own, and only after its run; news of a run do not
end a feed; and what makes room on the shelf leaves feeds alone that are not finished.
-/

namespace SnippetProfiler

open Relation (ReflTransGen)

/-! ### News -/

namespace Feed

theorem push_kept (f : Feed) (m : Message) :
  (f.push m).id = f.id ∧ (f.push m).report = f.report ∧ (f.push m).finished = f.finished
  := by
  rw [push]
  split
  · exact ⟨rfl, rfl, rfl⟩
  · exact ⟨rfl, rfl, rfl⟩

/-- News do not end a feed. -/
theorem foldl_push_kept (ms : List Message) (f : Feed) :
  (ms.foldl push f).id = f.id ∧ (ms.foldl push f).report = f.report ∧
    (ms.foldl push f).finished = f.finished
  := by
  induction ms generalizing f with
  | nil => exact ⟨rfl, rfl, rfl⟩
  | cons m ms ih =>
      obtain ⟨hid, hreport, hfinished⟩ := push_kept f m
      obtain ⟨hid', hreport', hfinished'⟩ := ih (f.push m)
      exact ⟨hid'.trans hid, hreport'.trans hreport, hfinished'.trans hfinished⟩

end Feed

namespace Service

variable {σ : Type} {s t : Service σ}

theorem tell_keeps (runs runs' : List Run) (feeds : FeedStore) (w : Watcher) :
  FeedStore.Keeps feeds (tell runs runs' feeds w)
  := by
  rw [tell]
  split
  · apply FeedStore.keeps_change
    intro f _
    apply Feed.foldl_push_kept
  · apply FeedStore.Keeps.refl

theorem adopt_keeps (s : Service σ) (workshop : Workshop σ) :
  FeedStore.Keeps s.feeds (s.adopt workshop).feeds
  := by
  rw [adopt]
  generalize s.feeds = feeds
  induction s.watchers generalizing feeds with
  | nil => apply FeedStore.Keeps.refl
  | cons w ws ih =>
      apply (tell_keeps _ _ feeds w).trans
      apply ih

/-! ### What steps do -/

/-- The runs that have watchers, each with the feed that its watcher ends. -/
def charges (s : Service σ) : List (Nat × Nat) := s.watchers.map fun w => (w.run, w.feed)

/-- What a request does: nothing; or it leaves a feed behind, when the service is shut down; or it
starts a run with a feed and a watcher. -/
theorem execute_cases (s : Service σ) (request : RunRequest) :
  (∃ e, s.execute request = (s, .error e)) ∨
  (s.workshop.orchestrator.registry.isRunning request.id = false ∧
    s.execute request = ({ s with feeds := (s.feeds.create request.id).1 }, .error .shutDown)) ∨
  (∃ orchestrator number, s.workshop.orchestrator.execute request = .ok (orchestrator, number) ∧
    s.execute request =
      ({ s with
          workshop := { s.workshop with orchestrator }
          feeds := (s.feeds.create request.id).1
          watchers := s.watchers ++ [{ run := number, feed := (s.feeds.create request.id).2 }] },
        .ok number))
  := by
  rw [execute]
  simp only
  cases hlanguage : s.workshop.orchestrator.registry.resolve request.language with
  | error e => exact .inl ⟨_, rfl⟩
  | ok handler =>
      cases hfree : s.workshop.orchestrator.registry.isRunning request.id with
      | true => exact .inl ⟨_, rfl⟩
      | false =>
          rw [if_neg Bool.false_ne_true]
          cases hexecute : s.workshop.orchestrator.execute request with
          | ok answer => exact .inr (.inr ⟨answer.1, answer.2, rfl, rfl⟩)
          | error e =>
              cases e with
              | shutDown => exact .inr (.inl ⟨rfl, rfl⟩)
              | refused e =>
                  -- The language and the id were looked up before.
                  rw [Orchestrator.execute, hlanguage] at hexecute
                  simp only [Registry.claim, hfree] at hexecute
                  split at hexecute
                  · rename_i hclaim
                    split at hclaim
                    · cases hclaim
                      cases hexecute
                    · cases hclaim
                  · cases hexecute

theorem watch?_eq_some {number : Nat} (h : s.watch? number = some t) :
  ∃ w result, s.watchers[number]? = some w ∧
    s.workshop.orchestrator.result? w.run = some result ∧
    t = { s with
      feeds := s.feeds.change w.feed (conclude · result)
      watchers := s.watchers.set number { w with done := true } }
  := by
  rw [watch?] at h
  split at h
  · cases h
  · rename_i w hw
    split at h
    · cases h
    · obtain ⟨result, hresult, rfl⟩ := Option.map_eq_some_iff.mp h
      exact ⟨w, result, hw, hresult, rfl⟩

/-- A watcher that has acted keeps its run and its feed. -/
theorem charges_set {number : Nat} {w : Watcher} (hw : s.watchers[number]? = some w) :
  (s.watchers.set number { w with done := true }).map (fun w => (w.run, w.feed)) = s.charges
  := by
  rw [charges, List.map_set]
  apply List.ext_getElem?
  intro n
  by_cases hn : number = n
  · subst hn
    rw [List.getElem?_set_self (by simpa using (List.getElem?_eq_some_iff.mp hw).1),
      List.getElem?_map, hw]
    rfl
  · rw [List.getElem?_set_ne hn]

/-- A run keeps its feed. -/
theorem Step.charges_subset (h : Step s t) :
  s.charges ⊆ t.charges
  := by
  cases h with
  | execute request h =>
      subst h
      obtain ⟨e, heq⟩ | ⟨-, heq⟩ | ⟨orchestrator, number, -, heq⟩ := s.execute_cases request
      · rw [heq]
        apply List.Subset.refl
      · rw [heq]
        apply List.Subset.refl
      · rw [heq]
        simp only [charges, List.map_append]
        apply List.subset_append_left
  | advance workshop hgoes h =>
      subst h
      apply List.Subset.refl
  | watch number h =>
      obtain ⟨w, result, hw, -, rfl⟩ := watch?_eq_some h
      rw [← charges_set hw]
      apply List.Subset.refl
  | read number f g hf hg h =>
      subst h
      apply List.Subset.refl
  | draw surroundings h =>
      subst h
      apply List.Subset.refl

/-! ### Tended feeds -/

/-- Every watcher has a feed of its own, and the feed of a run that has not ended is shown. -/
structure IsTended (s : Service σ) : Prop where
  sound : s.workshop.orchestrator.IsSound
  tidy : s.feeds.IsTidy
  apart : (s.charges.map Prod.snd).Nodup
  there : ∀ run feed, (run, feed) ∈ s.charges →
    run < s.workshop.orchestrator.runs.length ∧ feed < s.feeds.feeds.length
  shows : ∀ run feed id, (run, feed) ∈ s.charges →
    s.workshop.orchestrator.IsUnfinished run id → s.feeds.Shows id feed

/-- A service without runs. -/
def opened (handlers : List (String × Handler)) (closed : Bool) (capacity : Nat) (retention : Int)
    (surroundings : σ) : Service σ where
  workshop := ⟨{ registry := { handlers, closed }, capacity }, surroundings⟩
  feeds := { retention }

theorem isTended_opened (handlers : List (String × Handler)) (closed : Bool) (capacity : Nat)
    (retention : Int) (surroundings : σ) :
  (opened handlers closed capacity retention surroundings).IsTended
  := by
  constructor
  case sound => apply Orchestrator.isSound_new
  case tidy => apply List.nodup_nil
  case apart => apply List.nodup_nil
  case there => rintro run feed ⟨⟩
  case shows => rintro run feed id ⟨⟩

section Execute

variable {request : RunRequest}

/-- A feed for an id that is free takes none from a run. -/
theorem IsTended.shows_create (h : s.IsTended)
    (hfree : s.workshop.orchestrator.registry.isRunning request.id = false) {run feed : Nat}
    {id : String} (hcharge : (run, feed) ∈ s.charges)
    (hrun : s.workshop.orchestrator.IsUnfinished run id) :
  (s.feeds.create request.id).1.Shows id feed
  := by
  apply (h.shows run feed id hcharge hrun).create h.tidy
  rintro rfl
  rw [(h.sound.isRunning_iff _).mpr ⟨run, hrun⟩] at hfree
  cases hfree

/-- A feed may be created for an id that is free, also when there is no run for it. -/
theorem IsTended.create (h : s.IsTended)
    (hfree : s.workshop.orchestrator.registry.isRunning request.id = false) :
  IsTended { s with feeds := (s.feeds.create request.id).1 }
  := by
  constructor
  case sound => apply h.sound
  case tidy => apply h.tidy.create
  case apart => apply h.apart
  case there =>
    intro run feed hcharge
    obtain ⟨hrun, hfeed⟩ := h.there run feed hcharge
    rw [FeedStore.length_create]
    exact ⟨hrun, by omega⟩
  case shows =>
    intro run feed id hcharge hrun
    apply h.shows_create hfree hcharge hrun

/-- A run starts with a feed of its own. -/
theorem IsTended.start (h : s.IsTended) {orchestrator : Orchestrator} {number : Nat}
    (hexecute : s.workshop.orchestrator.execute request = .ok (orchestrator, number)) :
  IsTended { s with
    workshop := { s.workshop with orchestrator }
    feeds := (s.feeds.create request.id).1
    watchers := s.watchers ++ [{ run := number, feed := (s.feeds.create request.id).2 }] }
  := by
  obtain ⟨hfree, hnumber, -, run', hruns, -⟩ := Orchestrator.execute_eq_ok hexecute
  have hcases : ∀ run feed, (run, feed) ∈ (s.watchers ++
      [({ run := number, feed := (s.feeds.create request.id).2 } : Watcher)]).map
        (fun w => (w.run, w.feed)) →
      (run, feed) ∈ s.charges ∨ (run = number ∧ feed = s.feeds.feeds.length) := by
    intro run feed hcharge
    rw [List.map_append, List.mem_append] at hcharge
    refine hcharge.imp id ?_
    intro hnew
    cases List.mem_singleton.mp hnew
    exact ⟨rfl, rfl⟩
  constructor
  case sound => apply h.sound.execute hexecute
  case tidy => apply h.tidy.create
  case apart =>
    simp only [charges, List.map_append]
    rw [List.nodup_append]
    refine ⟨h.apart, by simp, ?_⟩
    rintro feed hfeed feed' hfeed' rfl
    obtain ⟨⟨run, feed⟩, hcharge, rfl⟩ := List.mem_map.mp hfeed
    have hlt := (h.there run feed hcharge).2
    cases List.mem_singleton.mp hfeed'
    apply Nat.lt_irrefl _ hlt
  case there =>
    intro run feed hcharge
    simp only [FeedStore.length_create, hruns, List.length_append, List.length_singleton]
    rcases hcases run feed hcharge with hold | ⟨rfl, rfl⟩
    · obtain ⟨hrun, hfeed⟩ := h.there run feed hold
      omega
    · omega
  case shows =>
    intro run feed id hcharge ⟨r, hr, hr', hid⟩
    rcases hcases run feed hcharge with hold | ⟨rfl, rfl⟩
    · have hlt := (h.there run feed hold).1
      rcases Orchestrator.runs_execute hexecute hr with hr | ⟨heq, -⟩
      · apply h.shows_create hfree hold ⟨r, hr, hr', hid⟩
      · omega
    · rcases Orchestrator.runs_execute hexecute hr with hr | ⟨-, hrequest, -⟩
      · have hlt := (List.getElem?_eq_some_iff.mp hr).1
        omega
      · rw [← hid, hrequest]
        apply h.tidy.shows_create

theorem IsTended.execute (h : s.IsTended) (request : RunRequest) :
  (s.execute request).1.IsTended
  := by
  obtain ⟨e, heq⟩ | ⟨hfree, heq⟩ | ⟨orchestrator, number, hexecute, heq⟩ := s.execute_cases request
  · rw [heq]
    apply h
  · rw [heq]
    apply h.create hfree
  · rw [heq]
    apply h.start hexecute

end Execute

/-- A run that has not ended after some time had not ended before. -/
theorem IsTended.isUnfinished (h : s.IsTended) {o : Orchestrator}
    (ho : Orchestrator.Continues s.workshop.orchestrator o) {run feed : Nat} {id : String}
    (hcharge : (run, feed) ∈ s.charges) (hrun : o.IsUnfinished run id) :
  s.workshop.orchestrator.IsUnfinished run id
  := by
  obtain ⟨q, hq, hq', hid⟩ := hrun
  have hlt := (h.there run feed hcharge).1
  obtain ⟨q₁, hq₁, hlater⟩ := ho run _ (List.getElem?_eq_getElem hlt)
  cases hq.symm.trans hq₁
  refine ⟨_, List.getElem?_eq_getElem hlt, ?_, ?_⟩
  · rw [← Bool.not_eq_true]
    intro hended
    rw [hlater.hasEnded hended] at hq'
    cases hq'
  · rw [← hid, hlater.request]

/-- News of runs, and readers, leave the feeds tended. -/
theorem IsTended.keeps (h : s.IsTended) {workshop : Workshop σ} {feeds : FeedStore}
    (hgoes : s.workshop.Goes workshop) (hkeeps : FeedStore.Keeps s.feeds feeds) :
  IsTended { s with workshop, feeds }
  := by
  have hcontinues := Orchestrator.continues_schedule hgoes
  constructor
  case sound => apply h.sound.schedule hgoes
  case tidy =>
    rw [FeedStore.IsTidy, hkeeps.shelf]
    apply h.tidy
  case apart => apply h.apart
  case there =>
    intro run feed hcharge
    obtain ⟨hrun, hfeed⟩ := h.there run feed hcharge
    obtain ⟨q, hq, -⟩ := hcontinues run _ (List.getElem?_eq_getElem hrun)
    refine ⟨(List.getElem?_eq_some_iff.mp hq).1, ?_⟩
    rw [hkeeps.length]
    apply hfeed
  case shows =>
    intro run feed id hcharge hrun
    apply (h.shows run feed id hcharge (h.isUnfinished hcontinues hcharge hrun)).of_keeps hkeeps

/-- A watcher ends the feed of its own run, which has ended. -/
theorem IsTended.watch (h : s.IsTended) {number : Nat} (ht : s.watch? number = some t) :
  t.IsTended
  := by
  obtain ⟨w, result, hw, hresult, rfl⟩ := watch?_eq_some ht
  have hmem : (w.run, w.feed) ∈ s.charges := by
    apply List.mem_map_of_mem (f := fun w : Watcher => (w.run, w.feed))
    apply List.mem_of_getElem? hw
  constructor
  case sound => apply h.sound
  case tidy => apply h.tidy
  case apart =>
    rw [charges, charges_set hw]
    apply h.apart
  case there =>
    intro run feed hcharge
    rw [charges, charges_set hw] at hcharge
    simp only [FeedStore.change, List.length_modify]
    apply h.there run feed hcharge
  case shows =>
    intro run feed id hcharge hrun
    rw [charges, charges_set hw] at hcharge
    apply (h.shows run feed id hcharge hrun).change
    intro heq
    cases List.inj_on_of_nodup_map h.apart hmem hcharge heq
    obtain ⟨r, hr, hr', -⟩ := hrun
    simp only at hr
    rw [Orchestrator.result?, hr, Option.bind_some, Run.result?_eq_none hr'] at hresult
    cases hresult

theorem IsTended.step (h : s.IsTended) (hstep : Step s t) :
  t.IsTended
  := by
  cases hstep with
  | execute request ht =>
      rw [ht]
      apply h.execute
  | advance workshop hgoes ht =>
      rw [ht]
      apply h.keeps hgoes (s.adopt_keeps workshop)
  | watch number ht => apply h.watch ht
  | read number f g hf hg ht =>
      rw [ht]
      apply h.keeps ReflTransGen.refl
      apply FeedStore.keeps_change
      intro f' hf'
      cases hf.symm.trans hf'
      obtain ⟨hid, -, hreport, hfinished⟩ := hg.kept
      exact ⟨hid, hreport, hfinished⟩
  | draw surroundings ht =>
      rw [ht]
      have hgoes : s.workshop.Goes { s.workshop with surroundings } := ReflTransGen.refl
      apply h.keeps hgoes (FeedStore.Keeps.refl _)

theorem IsTended.schedule (h : s.IsTended) (hsteps : ReflTransGen Step s t) :
  t.IsTended ∧ s.charges ⊆ t.charges
  := by
  induction hsteps with
  | refl => exact ⟨h, List.Subset.refl _⟩
  | tail _ hstep ih => exact ⟨ih.1.step hstep, List.Subset.trans ih.2 hstep.charges_subset⟩

/-! ### What can be observed -/

/-- The id that a route is about. -/
def Route.id? : Route → Option String
  | .events id | .report id | .callGraph id => some id
  | _ => none

/-- What can be observed of a run in flight for an id that has the feed with a number. -/
structure IsObservable (s : Service σ) (id : String) (feed : Nat) : Prop where
  /-- The store has the feed for the id. -/
  kept : s.feeds.number? id = some feed
  /-- The feed has no report and is not finished. -/
  isOpen : s.feeds.IsOpen feed id
  /-- The run is reported to be running. -/
  running : ∀ env (r : Request), r.method = "GET" → Route.ofPath? r.path = some (.report id) →
    (s.answer env r).2.body =
      .data (.obj [("status", .str "running"), ("executionId", .str id)])
  /-- Nobody is told that there is no run for the id. -/
  known : ∀ env (r : Request) route, Route.ofPath? r.path = some route → route.id? = some id →
    (s.answer env r).2.status ≠ 404

/-! ### Answers about a run -/

/-- A response with data has its status, or that of a failure. -/
theorem ofData_status (v : Json) (status : Nat) :
  (Response.ofData v status).status = status ∨ (Response.ofData v status).status = 500
  := by
  rw [Response.ofData]
  split
  · exact .inl rfl
  · exact .inr rfl

theorem ofData_status_ne (v : Json) {status : Nat} (h : status ≠ 404) :
  (Response.ofData v status).status ≠ 404
  := by
  rcases ofData_status v status with heq | heq
  · rw [heq]
    apply h
  · rw [heq]
    simp

/-- A request that is refused is not answered as one that is accepted. -/
theorem ofStartError_status_ne (e : StartError) :
  (Response.ofStartError e).status ≠ 200
  := by
  cases e with
  | shutDown => simp [Response.ofStartError, Response.failure]
  | refused e =>
      have hstatus : Response.statusOf e ≠ 200 := by
        fun_cases Response.statusOf e with
        | _ => simp
      rw [Response.ofStartError, Response.ofError]
      split
      · rcases ofData_status _ (Response.statusOf e) with heq | heq
        · rw [heq]
          apply hstatus
        · rw [heq]
          simp
      · simp [Response.failure]

/-- A feed that has no report and is not finished is that of a run that is running. -/
theorem answerReport_open {f : Feed} (hreport : f.report = none) (hfinished : f.finished = false)
    (id : String) :
  answerReport f id = ⟨200, some Response.dataType,
    .data (.obj [("status", .str "running"), ("executionId", .str id)]), []⟩
  := by
  rw [answerReport, hreport, hfinished]
  simp [Response.ofData, isFinite, fieldsFinite]

theorem answerReport_status_ne (f : Feed) (id : String) :
  (answerReport f id).status ≠ 404
  := by
  rw [answerReport]
  split
  · apply ofData_status_ne
    simp
  · apply ofData_status_ne
    simp

theorem answerCallGraph_status_ne (f : Feed) :
  (answerCallGraph f).status ≠ 404
  := by
  rw [answerCallGraph]
  split
  · simp
  · apply ofData_status_ne
    simp

theorem answerEvents_status_ne (env : Environment σ) {id : String} {feed : Nat}
    (h : s.feeds.number? id = some feed) :
  (answerEvents env s id).2.status ≠ 404
  := by
  rw [answerEvents, h]
  simp

/-- An answer for a route has the status that its method gets, unless the request announces
another one. -/
theorem answer_status_ne {env : Environment σ} {r : Request} {route : Route}
    (hroute : Route.ofPath? r.path = some route)
    (h : (answerRoute env s r route).2.status ≠ 404) :
  (s.answer env r).2.status ≠ 404
  := by
  have hplain : (answerPlain env s r).2.status ≠ 404 := by
    rw [answerPlain, hroute]
    simp only
    split
    · apply h
    · rw [headOnly]
      split
      · apply ofData_status_ne
        simp
      · apply ofData_status_ne
        simp
  rw [answer]
  split
  · split
    rename_i hstatus
    split at hstatus
    · cases hstatus
      simp
    · cases hstatus
      simp
  · split
    rename_i hresponse
    rw [hresponse] at hplain
    simp only
    split
    · apply hplain
    · apply hplain

theorem isObservable_of_shows {id : String} {feed : Nat} (htidy : s.feeds.IsTidy)
    (h : s.feeds.Shows id feed) :
  s.IsObservable id feed
  := by
  have hnumber := htidy.number?_eq h.1
  obtain ⟨f, hf, hreport, hfinished⟩ := h.get? htidy
  constructor
  case kept => apply hnumber
  case isOpen => apply h.2
  case running =>
    intro env r hmethod hroute
    have hannounced : r.announced? = none := by
      simp [Request.announced?, hmethod]
    rw [answer, hannounced]
    simp only [answerPlain, hroute, Route.method, hmethod, if_true, answerRoute, hf,
      Option.map_some, Option.getD_some, answerReport_open hreport hfinished]
    rfl
  case known =>
    intro env r route hroute hid
    apply answer_status_ne hroute
    cases route with
    | events id' =>
        cases hid
        apply answerEvents_status_ne env hnumber
    | report id' =>
        cases hid
        rw [answerRoute, hf]
        apply answerReport_status_ne
    | callGraph id' =>
        cases hid
        rw [answerRoute, hf]
        apply answerCallGraph_status_ne
    | execute => cases hid
    | compare => cases hid
    | profile => cases hid
    | languages => cases hid
    | growth => cases hid
    | health => cases hid

/-- A run that has started with a feed can be observed until its id is released. -/
theorem IsTended.isObservable (h : s.IsTended) {started : Service σ} {request : RunRequest}
    {number : Nat} (hexecute : s.execute request = (started, .ok number))
    (ht : ReflTransGen Step started t)
    (hflight : (request.id, some number) ∈ t.workshop.orchestrator.registry.inFlight) :
  t.IsObservable request.id (s.feeds.create request.id).2
  := by
  have hstarted : started.IsTended := by
    have hafter := h.execute request
    rw [hexecute] at hafter
    apply hafter
  have hcharge : (number, (s.feeds.create request.id).2) ∈ started.charges := by
    obtain ⟨e, heq⟩ | ⟨-, heq⟩ | ⟨orchestrator, run, -, heq⟩ := s.execute_cases request
    · cases hexecute.symm.trans heq
    · cases hexecute.symm.trans heq
    · cases hexecute.symm.trans heq
      simp [charges]
  obtain ⟨hafter, hkept⟩ := hstarted.schedule ht
  obtain ⟨run, heq, hrun⟩ := (hafter.sound.held _ _).mp hflight
  cases heq
  apply isObservable_of_shows hafter.tidy
  apply hafter.shows number _ _ (hkept hcharge) hrun

section Opened

variable {handlers : List (String × Handler)} {closed : Bool} {capacity : Nat} {retention : Int}
  {surroundings : σ}
  (hs : ReflTransGen Event (opened handlers closed capacity retention surroundings) s)
include hs

theorem isTended_of_events :
  s.IsTended
  := by
  apply ((isTended_opened handlers closed capacity retention surroundings).schedule _).1
  apply schedule_of_events hs

/-- From when a request for a run is accepted until the id is released, and whatever else happens
meanwhile, the run can be observed by the feed that was created for it. -/
theorem execute_isObservable {started : Service σ} {number : Nat} (request : RunRequest)
    (hexecute : s.execute request = (started, .ok number))
    (ht : ReflTransGen Event started t)
    (hflight : (request.id, some number) ∈ t.workshop.orchestrator.registry.inFlight) :
  t.IsObservable request.id (s.feeds.create request.id).2
  := by
  have htended := isTended_of_events hs
  apply htended.isObservable hexecute (schedule_of_events ht) hflight

/-- Whoever is told that a run has started can observe it by the id that the answer names. -/
theorem answerExecute_isObservable {env : Environment σ} {b : ExecuteBody} {answered : Service σ}
    {response : Response} (hanswer : answerExecute env s b = (answered, response))
    (hstatus : response.status = 200) :
  ∃ id number feed,
    response = .ofData (.obj [("status", .str "started"), ("executionId", .str id)]) ∧
    ∀ t, ReflTransGen Event answered t →
      (id, some number) ∈ t.workshop.orchestrator.registry.inFlight → t.IsObservable id feed
  := by
  obtain ⟨id, u, hfresh, ⟨started, e, -, heq⟩ | ⟨started, number, hexecute, heq⟩⟩ :=
    answerExecute_cases env s b
  · cases hanswer.symm.trans heq
    cases ofStartError_status_ne e hstatus
  · cases hanswer.symm.trans heq
    have htended := ((isTended_of_events hs).schedule hfresh).1
    refine ⟨id, number, (u.feeds.create (b.request id).id).2, rfl, ?_⟩
    intro t ht hflight
    apply htended.isObservable hexecute _ hflight
    apply (begin_schedule env started number).trans
    apply (settle_schedule env _).trans
    apply schedule_of_events ht

end Opened

/-- A run can be observed whose id was used before, also when the watcher of the earlier run wakes
only now, and though there is room for one feed only. -/
theorem execute_isObservable_reused :
  ∃ t : Service Unit, t.watchers.map Watcher.done = [true, false] ∧
    t.feeds.isFinished 0 = true ∧ t.IsObservable "" 1
  := by
  let request : RunRequest := { code := "", language := "", id := "" }
  have hs := ReflTransGen.refl (r := Event)
      (a := opened Orchestrator.unable.registry.handlers false 1 1 ())
    |>.tail (.step (.execute request rfl))
    |>.tail (.step (.of_move (fun _ => true) (.start 0) rfl))
  have h := execute_isObservable hs request rfl (.single (.step (.watch 0 rfl)))
    (List.mem_singleton_self _)
  exact ⟨_, rfl, rfl, h⟩

end Service

end SnippetProfiler
