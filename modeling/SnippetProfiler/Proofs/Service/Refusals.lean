import SnippetProfiler.Proofs.Service.Observation

/-!
# Refused requests

A request for a run that is not answered with a run leaves the ids in flight as they were.  It also
leaves the feeds as they were, as long as the registry is open: the language and the id are looked up
before a feed is created for the run, and nothing else can then keep the run from starting.

A registry that is shut down notices only when the run claims its id.  By then the feed is there, on the
shelf, in the place of an earlier feed of the id, and finished feeds have made way for it; but nobody
takes it away, and nobody will ever end it.
-/

namespace SnippetProfiler.Service

variable {σ : Type} {env : Environment σ} {s : Service σ}

/-- Whether a request for a run leaves a feed behind: the registry is shut down, but the language has a
handler and the id is free. -/
def Strands (s : Service σ) (language id : String) : Prop :=
  s.workshop.orchestrator.registry.closed = true
    ∧ (s.workshop.orchestrator.registry.handler? language).isSome = true
    ∧ s.workshop.orchestrator.registry.isRunning id = false

/-- The id of the run that a request asks for. -/
def idOf (env : Environment σ) (s : Service σ) (b : ExecuteBody) : String :=
  b.givenId?.getD (s.fresh env).1

/-! ### Runs that do not start -/

variable {request : RunRequest}

theorem execute_of_strands (h : s.Strands request.language request.id) :
  s.execute request = ({ s with feeds := (s.feeds.create request.id).1 }, .error .shutDown)
  := by
  obtain ⟨hclosed, hhandler, hfree⟩ := h
  obtain ⟨handler, hhandler⟩ := Option.isSome_iff_exists.mp hhandler
  have hresolve : s.workshop.orchestrator.registry.resolve request.language = .ok handler := by
    rw [Registry.resolve, hhandler]
  have hclaim : s.workshop.orchestrator.registry.claim request.id = .error .shutDown := by
    rw [Registry.claim, if_pos hclosed]
  have hexecute : s.workshop.orchestrator.execute request = .error .shutDown := by
    simp only [Orchestrator.execute, hresolve, hclaim]
  simp only [execute, hresolve, hfree, hexecute, Bool.false_eq_true, if_false]

/-- A run that does not start leaves nothing behind, unless it leaves a feed. -/
theorem execute_of_not_strands (h : ¬ s.Strands request.language request.id) {e : StartError}
    (herror : (s.execute request).2 = .error e) :
  (s.execute request).1 = s
  := by
  cases hhandler : s.workshop.orchestrator.registry.handler? request.language with
  | none => simp only [execute, Registry.resolve, hhandler]
  | some handler =>
      cases hfree : s.workshop.orchestrator.registry.isRunning request.id with
      | true => simp only [execute, Registry.resolve, hhandler, hfree, if_true]
      | false =>
          have hopen : s.workshop.orchestrator.registry.closed = false := by
            rw [Bool.eq_false_iff]
            intro hclosed
            exact h ⟨hclosed, by rw [hhandler]; rfl, hfree⟩
          obtain ⟨answer, hanswer⟩ := (Orchestrator.execute_isOk_iff _ _ {} hopen).mpr
            ⟨by rw [hhandler]; rfl, hfree⟩
          simp only [execute, Registry.resolve, hhandler, hfree, hanswer, Bool.false_eq_true,
            if_false] at herror
          cases herror

/-- A store has a new feed for the id for which it was created. -/
theorem get?_create {feeds : FeedStore} (h : feeds.IsTidy) (id : String) :
  (feeds.create id).1.get? id = some { id }
  := by
  rw [FeedStore.get?, (h.create id).number?_eq (h.mem_create id), Option.bind_some,
    FeedStore.create_eq]
  exact List.getElem?_concat_length

/-! ### Answers -/

/-- An answer that tells of no run is the one for the reason why the run does not start. -/
theorem answerExecute_refused {b : ExecuteBody} (hrefused : (answerExecute env s b).2.status ≠ 200) :
  ∃ (t : Service σ) (e : StartError), t.workshop.orchestrator = s.workshop.orchestrator
    ∧ t.feeds = s.feeds ∧ (t.execute (b.request (s.idOf env b))).2 = .error e
    ∧ answerExecute env s b = ((t.execute (b.request (s.idOf env b))).1, .ofStartError e)
  := by
  have hstarted (id : String) :
      (Response.ofData (.obj [("status", .str "started"), ("executionId", .str id)])).status = 200 := by
    simp [Response.ofData, isFinite, fieldsFinite]
  rw [answerExecute] at hrefused ⊢
  rw [idOf]
  cases hgiven : b.givenId? with
  | some id =>
      simp only [hgiven, Option.getD_some] at hrefused ⊢
      rcases hexecute : s.execute (b.request id) with ⟨u, e | number⟩
      · exact ⟨s, e, rfl, rfl, by rw [hexecute], by rw [hexecute]⟩
      · rw [hexecute] at hrefused
        exact absurd (hstarted _) hrefused
  | none =>
      simp only [hgiven, Option.getD_none] at hrefused ⊢
      rcases hexecute : (s.fresh env).2.execute (b.request (s.fresh env).1) with ⟨u, e | number⟩
      · exact ⟨(s.fresh env).2, e, rfl, rfl, by rw [hexecute], by rw [hexecute]⟩
      · rw [hexecute] at hrefused
        exact absurd (hstarted _) hrefused

/-- A request that is not answered with a run leaves the ids in flight as they were; and it leaves the
feeds as they were exactly if the registry is open, or the language has no handler, or the id is in
flight.  Otherwise a new feed for the id is left behind, and the answer is that something unforeseen has
happened. -/
theorem answerExecute_leaves_iff (env : Environment σ) (s : Service σ) (b : ExecuteBody)
    (htidy : s.feeds.IsTidy) (hrefused : (answerExecute env s b).2.status ≠ 200) :
  let t := (answerExecute env s b).1
  t.workshop.orchestrator = s.workshop.orchestrator
    ∧ (t.feeds = s.feeds ↔ ¬ s.Strands b.language (s.idOf env b))
    ∧ (s.Strands b.language (s.idOf env b) → t.feeds = (s.feeds.create (s.idOf env b)).1
      ∧ t.feeds.get? (s.idOf env b) = some { id := s.idOf env b }
      ∧ (answerExecute env s b).2 = .failure)
  := by
  obtain ⟨t, e, horchestrator, hfeeds, herror, heq⟩ := answerExecute_refused hrefused
  have hstrands : t.Strands b.language (s.idOf env b) ↔ s.Strands b.language (s.idOf env b) := by
    rw [Strands, Strands, horchestrator]
  rw [heq]
  by_cases h : s.Strands b.language (s.idOf env b)
  · have hexecute : t.execute (b.request (s.idOf env b)) = _ := execute_of_strands (hstrands.mpr h)
    rw [hexecute] at herror ⊢
    cases herror
    have hcreated : (t.feeds.create (b.request (s.idOf env b)).id).1
        = (s.feeds.create (s.idOf env b)).1 := by
      rw [hfeeds]
      rfl
    refine ⟨horchestrator, iff_of_false ?_ (not_not_intro h), ?_⟩
    · intro hsame
      have hlength := s.feeds.length_create (s.idOf env b)
      rw [← hcreated] at hlength
      have hkept := congrArg (fun feeds => feeds.feeds.length) hsame
      exact absurd (hlength.symm.trans hkept) (Nat.succ_ne_self _)
    · intro _
      refine ⟨hcreated, ?_, rfl⟩
      rw [← get?_create htidy, ← hcreated]
  · have hkept : (t.execute (b.request (s.idOf env b))).1 = t :=
      execute_of_not_strands (fun hstrand => h (hstrands.mp hstrand)) herror
    rw [hkept]
    exact ⟨horchestrator, iff_of_true hfeeds h, fun hstrand => absurd hstrand h⟩

/-- A request for a run, the only language being that without a name. -/
def anyRun : ExecuteBody := { code := "", language := "", id := some "a" }

/-- Surroundings that draw the same id again and again. -/
def still : Environment Unit := ⟨fun _ => ("", ()), fun _ _ _ => ((), ⟨[], .error .cancelled⟩), fun _ _ => true⟩

/-- A service that is shut down keeps a feed for a run that it refuses. -/
theorem answerExecute_leaves_iff_shutDown :
  let s : Service Unit := opened Orchestrator.unable.registry.handlers true 1 1 ()
  (answerExecute still s anyRun).2.status = 500
    ∧ (answerExecute still s anyRun).1.feeds.shelf = [("a", 0)]
    ∧ (answerExecute still s anyRun).1.feeds ≠ s.feeds
  := by
  intro s
  have hstatus : (answerExecute still s anyRun).2.status = 500 := by decide
  have hstrands : s.Strands anyRun.language (s.idOf still anyRun) := ⟨rfl, rfl, rfl⟩
  obtain ⟨-, hiff, hleft⟩ := answerExecute_leaves_iff still s anyRun List.nodup_nil (by
    rw [hstatus]
    decide)
  refine ⟨hstatus, ?_, ?_⟩
  · rw [(hleft hstrands).1]
    decide
  · intro hsame
    exact hiff.mp hsame hstrands

/-- Not every request that is refused leaves the feeds as they were. -/
theorem not_always_leaves_feeds :
  ¬ ∀ (env : Environment Unit) (s : Service Unit) (b : ExecuteBody),
    (answerExecute env s b).2.status ≠ 200 →
      (answerExecute env s b).1.feeds.shelf = s.feeds.shelf
        ∧ (answerExecute env s b).1.workshop.orchestrator.registry.ids
          = s.workshop.orchestrator.registry.ids
  := by
  intro h
  have hleft := (h still (opened Orchestrator.unable.registry.handlers true 1 1 ()) anyRun (by decide)).1
  have hkept : (answerExecute still (opened Orchestrator.unable.registry.handlers true 1 1 ())
      anyRun).1.feeds.shelf = [("a", 0)] := by decide
  rw [hkept] at hleft
  cases hleft

end SnippetProfiler.Service
