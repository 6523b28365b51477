import SnippetProfiler.Proofs.Braced.Sessions

/-!
# Deeds of JavaScript snippets

What a snippet does with the hooks while no call waits is a list of trees: it begins lines, and it
makes calls, which do the same until they return or throw.  A call that throws is left like one that
returns, and what its body would have done behind the throw is no deed.

When a call is left, the texts of its arguments are asked for, and they may do deeds as well.  By then
the line of the caller is open again.

A session whose steps begin lines and make calls does their deeds; its texts do none.
-/

namespace SnippetProfiler.Braced

open Probe (Instruments Note Scripted scripted)

/-! ### Deeds -/

/-- What a snippet has done: a line has begun, or a call has done the deeds of its body, and the texts
of its arguments have done the deeds that show them. -/
inductive Deed where
  | line (number : Int)
  | call (name : String) (arguments : List Value) (body shown : List Deed)

namespace Collector

variable {σ τ : Type} [Quantity τ] (env : Instruments σ τ)

mutual

/-- A collector after a deed. -/
def perform (c : Collector σ τ) : Deed → Collector σ τ
  | .line number => c.beginLine env number
  | .call name arguments body shown =>
    let (outer, c) := c.suspendLine
    let (entry, c) := c.enter env name
    ((c.performAll body).resumeLine env outer).andThen fun c =>
      atOnce (c.beginLeave env entry) fun c d => (c.performAll shown).endLeave env d arguments

/-- A collector after deeds. -/
def performAll (c : Collector σ τ) : List Deed → Collector σ τ
  | [] => c
  | d :: ds => (c.perform d).performAll ds

end

theorem performAll_append (c : Collector σ τ) (ds es : List Deed) :
  c.performAll env (ds ++ es) = (c.performAll env ds).performAll env es
  := by
  induction ds generalizing c with
  | nil => rfl
  | cons d ds ih => exact ih (c.perform env d)

/-- The notes of a snippet that starts, does deeds, and ends. -/
def notesOf (options : TrackingOptions) (lines : List String) (script : String) (offset : Int)
    (next : Nat) (surroundings : σ) (deeds : List Deed) (thrown : Option Thrown) :
    List (Note τ) :=
  ((((Collector.start env options lines script offset next surroundings).sample env true).performAll
    env deeds).finish env thrown).written

/-! ### Outputs that refuse nothing -/

variable {c : Collector σ τ}

omit [Quantity τ] in
theorem withRecorder_self (h : c.view.IsLive) :
  c.withRecorder { c.toRecorder with blocked := false, refused := false } = c
  := by
  have hblocked : c.blocked = false := h.blocked
  have hrefused : c.refused = false := h.refused
  calc c.withRecorder { c.toRecorder with blocked := false, refused := false }
    _ = c.withRecorder { c.toRecorder with blocked := c.blocked, refused := c.refused } := by
        rw [hblocked, hrefused]
    _ = c := rfl

theorem isLive_beginLine (h : c.view.IsLive) (line : Int) :
  (c.beginLine env line).view.IsLive
  := by
  have hclose : (c.closeLine env).view.IsLive := by
    rw [view_closeLine env h]
    exact h.closeLine
  rw [Collector.beginLine]
  split
  · rw [andThen_eq hclose]
    exact ⟨hclose.blocked, hclose.refused⟩
  · exact h

theorem isLive_resumeLine (h : c.view.IsLive) (outer : Option (OpenLine τ)) :
  (c.resumeLine env outer).view.IsLive
  := by
  rw [view_resumeLine env h]
  apply h.openNext

omit [Quantity τ] in
theorem isLive_enter (h : c.view.IsLive) (name : String) :
  (c.suspendLine.2.enter env name).2.view.IsLive
  := by
  rw [Collector.enter]
  split
  · exact ⟨h.blocked, h.refused⟩
  · exact ⟨h.blocked, h.refused⟩

theorem isLive_beginLeave (h : c.view.IsLive) (entry : Option (Entry τ)) :
  (c.beginLeave env entry).2.view.IsLive
  := by
  cases entry with
  | none => exact h
  | some e =>
      obtain ⟨-, -, -, hview⟩ := view_beginLeave env e (c := c)
      rw [hview]
      exact ⟨h.blocked, h.refused⟩

theorem isLive_endLeave (h : c.view.IsLive) (d : Departure τ) (arguments : List Value) :
  (c.endLeave env d arguments).view.IsLive
  := by
  rw [view_endLeave env h]
  exact ⟨h.blocked, h.refused⟩

/-- A call is left, whatever its texts do, and its output refuses nothing. -/
theorem isLive_atOnce (h : c.view.IsLive) (entry : Option (Entry τ)) (arguments : List Value)
    {f : Collector σ τ → Collector σ τ} (hf : ∀ c : Collector σ τ, c.view.IsLive → (f c).view.IsLive) :
  (atOnce (c.beginLeave env entry) fun c d => (f c).endLeave env d arguments).view.IsLive
  := by
  have hbegun := isLive_beginLeave env h entry
  cases entry with
  | none => exact h
  | some e =>
      show (atOnce (some _, (c.beginLeave env (some e)).2) _).view.IsLive
      rw [atOnce_eq hbegun]
      apply isLive_endLeave env (hf _ hbegun)

mutual

/-- An output that refuses nothing refuses nothing of a deed. -/
theorem isLive_perform {c : Collector σ τ} (h : c.view.IsLive) :
  (d : Deed) → (c.perform env d).view.IsLive
  | .line number => isLive_beginLine env h number
  | .call name arguments body shown => by
      have hbody := isLive_performAll (isLive_enter env h name) body
      have hresume := isLive_resumeLine env hbody c.openLine
      rw [Collector.perform]
      apply (congrArg (fun c => c.view.IsLive) (andThen_eq hresume _)).mpr
      exact isLive_atOnce env hresume _ arguments fun c hc => isLive_performAll hc shown

theorem isLive_performAll {c : Collector σ τ} (h : c.view.IsLive) :
  (ds : List Deed) → (c.performAll env ds).view.IsLive
  | [] => h
  | d :: ds => isLive_performAll (isLive_perform h d) ds

end

end Collector

/-! ### Actions -/

mutual

/-- Whether an action only begins lines and makes calls that do not wait. -/
def Action.isNested : Action → Bool
  | .beginLine _ => true
  | .call _ body => areNested body
  | _ => false

/-- Whether actions only begin lines and make calls that do not wait. -/
def areNested : List Action → Bool
  | [] => true
  | a :: as => a.isNested && areNested as

end

mutual

/-- Whether an action throws. -/
def Action.throws : Action → Bool
  | .call c body => throwAny body || c.throws.isSome
  | _ => false

/-- Whether one of the actions throws. -/
def throwAny : List Action → Bool
  | [] => false
  | a :: as => a.throws || throwAny as

end

mutual

/-- The deeds of an action.  The texts of its values do none. -/
def Action.deeds : Action → List Deed
  | .beginLine line => [.line line]
  | .call c body => [.call c.name c.arguments (deedsOf body) []]
  | _ => []

/-- The deeds of actions, up to the first that throws. -/
def deedsOf : List Action → List Deed
  | [] => []
  | a :: as => a.deeds ++ if a.throws then [] else deedsOf as

end

namespace Session

/-- A session whose hooks get a collector, whose output refuses nothing, and of whose calls none can
go on. -/
structure Runs (s : Session) (c : Collector Scripted Float) : Prop where
  unblocked : s.blocked = false
  current : s.current? = some c
  idle : s.failed ++ s.resumed = []

variable {s : Session} {c : Collector Scripted Float}

theorem Runs.isLive (h : s.Runs c) :
  c.view.IsLive
  := by
  obtain ⟨d, -, rfl⟩ := Option.map_eq_some_iff.mp h.current
  exact ⟨h.unblocked, rfl⟩

/-- A use of the collector gives what the collector gives. -/
theorem Runs.use {α : Type} (h : s.Runs c) (property : String)
    {f : Collector Scripted Float → α × Collector Scripted Float} (hf : (f c).2.view.IsLive) :
  (s.use property f).1.Runs (f c).2 ∧ (s.use property f).2 = .ok (f c).1
  := by
  have hrefused : (f c).2.refused = false := hf.refused
  rw [use_eq h.current, hrefused]
  constructor
  · constructor
    · exact h.unblocked
    · rw [current?, Option.map_some, h.unblocked]
      exact congrArg some (Collector.withRecorder_self hf)
    · exact h.idle
  · rfl

theorem Runs.hook (h : s.Runs c) (property : String)
    {f : Collector Scripted Float → Collector Scripted Float} (hf : (f c).view.IsLive) :
  (s.hook property f).1.Runs (f c) ∧ (s.hook property f).2 = .ok .nothing
  := h.use property hf

/-- A call is entered. -/
theorem Runs.enter (h : s.Runs c) (call : Call) :
  (s.enter call).1.Runs (c.suspendLine.2.enter scripted call.name).2
    ∧ (s.enter call).2 = .ok (c.openLine, (c.suspendLine.2.enter scripted call.name).1)
  := h.use "openLine" (f := fun c =>
      ((c.openLine, (c.suspendLine.2.enter scripted call.name).1),
        (c.suspendLine.2.enter scripted call.name).2))
    (Collector.isLive_enter scripted h.isLive call.name)

/-- A call is left. -/
theorem Runs.leave (h : s.Runs c) (call : Call) (outer : Option (OpenLine Float))
    (entry : Option (Entry Float)) :
  (s.leave call outer entry).1.Runs
      ((c.resumeLine scripted outer).andThen fun c => c.leave scripted entry call.arguments)
    ∧ (s.leave call outer entry).2 = .ok .nothing
  := by
  have hresume := Collector.isLive_resumeLine scripted h.isLive outer
  apply h.hook
  rw [Collector.andThen_eq hresume]
  exact Collector.isLive_atOnce scripted hresume entry call.arguments fun _ hc => hc

mutual

/-- A session does the deeds of an action, and stops when it throws. -/
theorem Runs.act {s : Session} {c : Collector Scripted Float} (h : s.Runs c) :
  (a : Action) → a.isNested = true →
    (s.act a).1.Runs (c.performAll scripted a.deeds) ∧ a.throws = !(s.act a).2.isOk
  | .beginLine line, _ => by
      obtain ⟨hruns, hok⟩ := h.hook "options" (f := fun c => c.beginLine scripted line)
        (Collector.isLive_beginLine scripted h.isLive line)
      rw [Session.act]
      constructor
      · exact hruns
      · rw [hok]
        rfl
  | .call call body, hbody => by
      obtain ⟨hentered, hgiven⟩ := h.enter call
      obtain ⟨hdone, hstop⟩ := hentered.actAll body hbody
      obtain ⟨hleft, hnothing⟩ := hdone.leave call c.openLine
        (c.suspendLine.2.enter scripted call.name).1
      rw [act_call (Prod.ext rfl hgiven) (Prod.ext rfl hnothing), Action.throws, ← hstop,
        throws_ending]
      refine ⟨hleft, ?_⟩
      cases ending call ((s.enter call).1.actAll body).2 with
      | ok v => rfl
      | error stop => rfl

/-- A session does the deeds of actions up to the first that throws. -/
theorem Runs.actAll {s : Session} {c : Collector Scripted Float} (h : s.Runs c) :
  (as : List Action) → areNested as = true →
    (s.actAll as).1.Runs (c.performAll scripted (deedsOf as)) ∧ (s.actAll as).2.isSome = throwAny as
  | [], _ => ⟨h, rfl⟩
  | a :: as, has => by
      rw [areNested, Bool.and_eq_true] at has
      obtain ⟨hdone, hok⟩ := h.act a has.1
      rw [Session.actAll, deedsOf, Collector.performAll_append, throwAny]
      split
      · rename_i hact
        rw [hact] at hdone hok
        have hthrows : a.throws = true := hok
        rw [hthrows]
        exact ⟨hdone, rfl⟩
      · rename_i hact
        rw [hact] at hdone hok
        have hthrows : a.throws = false := hok
        rw [hthrows]
        exact hdone.actAll as has.2

end

/-- When a step is over, no call goes on. -/
theorem Runs.step (h : s.Runs c) {a : Action} (ha : a.isNested = true) :
  (s.step a).1.Runs (c.performAll scripted a.deeds)
  := by
  obtain ⟨hdone, -⟩ := h.act a ha
  have hstep : (s.step a).1 = ((s.act a).1.failed ++ (s.act a).1.resumed).foldl conclude
      { (s.act a).1 with failed := [], resumed := [] } := rfl
  rw [hstep, hdone.idle]
  exact ⟨hdone.unblocked, hdone.current, rfl⟩

theorem Runs.steps (h : s.Runs c) {actions : List Action} (ha : areNested actions = true) :
  (s.steps actions).Runs (c.performAll scripted (actions.flatMap Action.deeds))
  := by
  induction actions generalizing s c with
  | nil => exact h
  | cons a actions ih =>
      rw [areNested, Bool.and_eq_true] at ha
      rw [List.flatMap_cons, Collector.performAll_append]
      apply ih (h.step ha.1) ha.2

/-- A session that starts has a collector that has sampled the memory. -/
theorem runs_start (instruments : Scripted) (options : TrackingOptions) (lines : List String)
    (script : String) (offset : Int) :
  (({ instruments } : Session).start options lines script offset).1.Runs
    ((Collector.start scripted options lines script offset 0 instruments).sample scripted true)
  := by
  let c := Collector.start scripted options lines script offset 0 instruments
  have hnew : ({ instruments := c.surroundings, collector := some c } : Session).Runs c :=
    ⟨rfl, rfl, rfl⟩
  have hsample : (c.sample scripted true).view.IsLive := by
    rw [Collector.view_sample scripted hnew.isLive]
    exact hnew.isLive
  exact (hnew.hook "options" hsample).1

/-- What a session has written in the end whose steps begin lines and make calls. -/
theorem written_of_areNested (instruments : Scripted) (options : TrackingOptions)
    (lines : List String) (script : String) (offset : Int) {actions : List Action}
    (ha : areNested actions = true) (thrown : Option Thrown) :
  (((({ instruments } : Session).start options lines script offset).1.steps actions).hook "finished"
      fun c => c.finish scripted thrown).1.written
    = Collector.notesOf scripted options lines script offset 0 instruments
        (actions.flatMap Action.deeds) thrown
  := by
  have hruns := (runs_start instruments options lines script offset).steps ha
  rw [Session.hook, use_eq hruns.current]
  rfl

end Session

end SnippetProfiler.Braced
