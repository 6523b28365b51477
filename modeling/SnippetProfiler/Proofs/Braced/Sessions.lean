import Mathlib.Data.List.Perm.Basic
import SnippetProfiler.Proofs.Braced.Conservation

/-!
# Sessions hook by hook

A session runs the actions of its snippet one inside the other, and lets the calls end that can go on
when a step is over.  It does so hook by hook: whatever the actions are, unless they start anew or
end the program, each state that it goes through is reached.  So it loses no line and no call.

What has happened then is known from the actions alone: a chronicle tells which lines have begun,
which calls were entered and left, and which wait, without a collector.
-/

namespace SnippetProfiler.Braced

open Probe (Scripted callsIn eventsOf linesIn scripted)

/-! ### Actions -/

mutual

/-- Whether an action neither starts anew nor ends the program. -/
def Action.isPlain : Action → Bool
  | .tick _ | .beginLine _ | .assign _ | .trace _ | .generate | .resume _ => true
  | .call _ body | .spawn _ _ body => arePlain body
  | .start .. | .finish _ | .fail _ | .uncaught _ | .exit _ => false

/-- Whether no action starts anew or ends the program. -/
def arePlain : List Action → Bool
  | [] => true
  | a :: as => a.isPlain && arePlain as

end

/-! ### Chronicles -/

/-- What is known from the actions of a snippet: what has happened, the calls that wait, with their
ids, and those that can end when the step is over, because they have thrown or were resumed.  Calls
are known by the numbers in which they were entered. -/
structure Chronicle where
  history : History := {}
  waiting : List (String × Nat) := []
  failed : List Nat := []
  resumed : List Nat := []

namespace Chronicle

/-- A call is left. -/
def leave (c : Chronicle) (number : Nat) : Chronicle :=
  { c with history := { c.history with calls := c.history.calls.step (.leave number) } }

/-- A call waits in place of those with its id, unless it has stopped. -/
def await (c : Chronicle) (id : String) (number : Nat) (stopped : Bool) : Chronicle :=
  let others := c.waiting.filter fun other => other.1 ≠ id
  if stopped then { c with waiting := others, failed := c.failed ++ [number] }
  else { c with waiting := others ++ [(id, number)] }

/-- The calls with an id go on. -/
def resume (c : Chronicle) (id : String) : Chronicle :=
  { c with
    waiting := c.waiting.filter fun other => other.1 ≠ id
    resumed := c.resumed ++ (c.waiting.filter fun other => other.1 = id).map Prod.snd }

mutual

/-- What is known after an action, and whether it has stopped the actions around it. -/
def act (c : Chronicle) : Action → Chronicle × Bool
  | .beginLine line => ({ c with history := c.history.line line }, false)
  | .resume id => (c.resume id, false)
  | .call call body =>
    let d := ({ c with history := c.history.enter call.name } : Chronicle).actAll body
    (d.1.leave c.history.calls.entered, d.2 || call.throws.isSome)
  | .spawn id call body =>
    let d := ({ c with history := c.history.enter call.name } : Chronicle).actAll body
    (d.1.await id c.history.calls.entered d.2, false)
  | _ => (c, false)

/-- What is known after actions, up to the first that stops. -/
def actAll (c : Chronicle) : List Action → Chronicle × Bool
  | [] => (c, false)
  | a :: as => if (c.act a).2 then ((c.act a).1, true) else (c.act a).1.actAll as

end

/-- What is known after a step: all calls end that can go on, first those that have thrown. -/
def step (c : Chronicle) (a : Action) : Chronicle :=
  let d := (c.act a).1
  (d.failed ++ d.resumed).foldl leave { d with failed := [], resumed := [] }

end Chronicle

/-- What has happened after the steps of a session. -/
def historyOf (actions : List Action) : History :=
  (actions.foldl Chronicle.step {}).history

/-- The number of a call that waits. -/
def Waiting.number? (w : Waiting) : Option Nat := w.entry.map Entry.number

namespace Session

/-- A session after steps. -/
def steps (s : Session) (actions : List Action) : Session :=
  actions.foldl (fun s a => (s.step a).1) s

/-- The entries of the calls that wait. -/
def entries (s : Session) : List (Option (Entry Float)) := s.pending.map Waiting.entry

/-- The calls of a session that wait or can end are those of a chronicle. -/
structure Knows (s : Session) (c : Chronicle) : Prop where
  waiting : s.waiting.map (fun w => (w.id, w.number?)) = c.waiting.map (Prod.map id some)
  failed : s.failed.map Waiting.number? = c.failed.map some
  resumed : s.resumed.map Waiting.number? = c.resumed.map some

/-- A session with calls in their synchronous part is reached by what a chronicle tells, and the calls
that it knows to wait are among those that wait. -/
structure IsUnderway (s : Session) (c : Chronicle) (frames : List Frame) : Prop where
  knows : s.Knows c
  reached : ∃ waiting, Reached ⟨s, frames, waiting⟩ c.history ∧ s.entries.Subperm waiting

variable {s t : Session} {c : Chronicle} {outer : Option (OpenLine Float)} {e : Entry Float}
  {frames : List Frame}

theorem entries_use {α : Type} (s : Session) (property : String)
    (f : Collector Scripted Float → α × Collector Scripted Float) :
  (s.use property f).1.entries = s.entries
  := by
  rw [entries, pending_use, entries]

/-- A use of the collector changes nothing about the calls that wait. -/
theorem Knows.use {α : Type} (h : s.Knows c) (history : History) (property : String)
    (f : Collector Scripted Float → α × Collector Scripted Float) :
  (s.use property f).1.Knows { c with history }
  := by
  obtain ⟨hwaiting, hfailed, hresumed⟩ := h
  rw [Session.use]
  cases s.collector with
  | none => exact ⟨hwaiting, hfailed, hresumed⟩
  | some d => exact ⟨hwaiting, hfailed, hresumed⟩

theorem IsUnderway.pass (h : s.IsUnderway c frames) (hknows : t.Knows c)
    (hcollector : t.collector = s.collector) (hwritten : t.written = s.written)
    (hblocked : t.blocked = s.blocked) (hentries : t.entries.Subperm s.entries) :
  t.IsUnderway c frames
  := by
  obtain ⟨waiting, hr, hsubperm⟩ := h.reached
  exact ⟨hknows, waiting, hr.pass hcollector hwritten hblocked, hentries.trans hsubperm⟩

theorem IsUnderway.beginLine (h : s.IsUnderway c frames) (line : Int) :
  (s.hook "options" fun c => c.beginLine scripted line).1.IsUnderway
      { c with history := c.history.line line } frames
    ∧ (s.hook "options" fun c => c.beginLine scripted line).2 = .ok .nothing
  := by
  obtain ⟨waiting, hr, hsubperm⟩ := h.reached
  obtain ⟨v, hshows, hb⟩ := hr.balanced
  constructor
  · refine ⟨h.knows.use _ _ _, waiting, hr.beginLine line, ?_⟩
    rw [hook, entries_use]
    exact hsubperm
  · exact (hshows.beginLine hb.flow line).2

theorem IsUnderway.assign (h : s.IsUnderway c frames)
    (assigned : List (String × Value × Option Int)) :
  (s.hook "options" fun c => c.assign scripted assigned).1.IsUnderway c frames
    ∧ (s.hook "options" fun c => c.assign scripted assigned).2 = .ok .nothing
  := by
  obtain ⟨waiting, hr, hsubperm⟩ := h.reached
  obtain ⟨v, hshows, hb⟩ := hr.balanced
  constructor
  · refine ⟨h.knows.use _ _ _, waiting, hr.assign assigned, ?_⟩
    rw [hook, entries_use]
    exact hsubperm
  · exact (hshows.assign assigned).2

/-- A call is entered, and its number is that of the calls before it. -/
theorem IsUnderway.enter (h : s.IsUnderway c frames) (call : Call) :
  ∃ outer e, (s.enter call).2 = .ok (outer, some e) ∧ e.number = c.history.calls.entered
    ∧ (s.enter call).1.IsUnderway { c with history := c.history.enter call.name }
      (⟨outer, some e⟩ :: frames)
  := by
  obtain ⟨waiting, hr, hsubperm⟩ := h.reached
  obtain ⟨v, hshows, hb⟩ := hr.balanced
  obtain ⟨-, ⟨outer, entry⟩, hgiven, -, hentry⟩ := hshows.enter hb.functions call
  obtain ⟨e, rfl, he⟩ := Option.map_eq_some_iff.mp hentry
  refine ⟨outer, e, hgiven, ?_, h.knows.use _ _ _, waiting, hr.enter hgiven, ?_⟩
  · rw [← hb.next]
    exact congrArg Probe.Call.number he
  · rw [Session.enter, entries_use]
    exact hsubperm

theorem IsUnderway.leave (h : s.IsUnderway c (⟨outer, some e⟩ :: frames)) (call : Call) :
  (s.leave call outer (some e)).1.IsUnderway (c.leave e.number) frames
    ∧ (s.leave call outer (some e)).2 = .ok .nothing
  := by
  obtain ⟨waiting, hr, hsubperm⟩ := h.reached
  obtain ⟨v, hshows, -⟩ := hr.balanced
  constructor
  · refine ⟨h.knows.use _ _ _, waiting, hr.leave call, ?_⟩
    rw [Session.leave, hook, entries_use]
    exact hsubperm
  · exact (hshows.leave call outer e).2

/-- The calls that wait with the same ids are the same. -/
theorem Knows.filter (h : s.Knows c) (p : String → Bool) :
  (s.waiting.filter fun w => p w.id).map (fun w => (w.id, w.number?))
    = (c.waiting.filter fun w => p w.1).map (Prod.map id some)
  := by
  have hfilter := congrArg (List.filter fun w => p w.1) h.waiting
  rw [List.filter_map, List.filter_map] at hfilter
  exact hfilter

/-- Hooks know nothing of a call that waits, and one more call waits, unless it takes the place of
another one. -/
theorem await_spec (s : Session) (id : String) (call : Call) (entry : Option (Entry Float))
    (stop : Option Stop) :
  (s.await id call entry stop).collector = s.collector
    ∧ (s.await id call entry stop).written = s.written
    ∧ (s.await id call entry stop).blocked = s.blocked
    ∧ (s.await id call entry stop).entries.Subperm (entry :: s.entries)
  := by
  let w : Waiting := ⟨id, entry, call.arguments, ending call stop⟩
  let others := s.waiting.filter fun other => other.id ≠ id
  have hkept : ((w :: (s.failed ++ s.resumed ++ others)).map Waiting.entry).Subperm
      (entry :: s.entries) := by
    apply (List.subperm_cons entry).mpr
    apply List.Sublist.subperm
    apply List.Sublist.map
    apply (List.Sublist.refl _).append
    apply List.filter_sublist
  cases stop with
  | none =>
      have hlast : (s.failed ++ s.resumed ++ (others ++ [w])).Perm
          (w :: (s.failed ++ s.resumed ++ others)) := by
        rw [← List.append_assoc]
        apply List.perm_append_singleton
      exact ⟨rfl, rfl, rfl, (hlast.map _).subperm.trans hkept⟩
  | some e =>
      have hfailed : (s.failed ++ [w] ++ s.resumed ++ others).Perm
          (w :: (s.failed ++ s.resumed ++ others)) := by
        simp only [List.append_assoc]
        apply List.perm_middle
      exact ⟨rfl, rfl, rfl, (hfailed.map _).subperm.trans hkept⟩

/-- A chronicle knows of a call that waits. -/
theorem Knows.await (h : s.Knows c) (id : String) (call : Call) (e : Entry Float)
    (stop : Option Stop) :
  (s.await id call (some e) stop).Knows (c.await id e.number stop.isSome)
  := by
  have hothers := h.filter fun other => other ≠ id
  cases stop with
  | none =>
      refine ⟨?_, h.failed, h.resumed⟩
      show (_ ++ [_]).map _ = (_ ++ [_]).map _
      rw [List.map_append, List.map_append]
      exact congrArg (· ++ _) hothers
  | some stop =>
      refine ⟨hothers, ?_, h.resumed⟩
      show (_ ++ [_]).map _ = (_ ++ [_]).map _
      rw [List.map_append, List.map_append]
      exact congrArg (· ++ _) h.failed

/-- A call gives its promise, and waits. -/
theorem IsUnderway.wait (h : s.IsUnderway c (⟨outer, some e⟩ :: frames)) (id : String) (call : Call)
    (stop : Option Stop) :
  ((s.hook "openLine" fun c => c.resumeLine scripted outer).1.await id call (some e)
      stop).IsUnderway (c.await id e.number stop.isSome) frames
    ∧ (s.hook "openLine" fun c => c.resumeLine scripted outer).2 = .ok .nothing
  := by
  obtain ⟨waiting, hr, hsubperm⟩ := h.reached
  obtain ⟨v, hshows, -⟩ := hr.balanced
  obtain ⟨hcollector, hwritten, hblocked, hawait⟩ := await_spec
    (s.hook "openLine" fun c => c.resumeLine scripted outer).1 id call (some e) stop
  have hknows : (s.hook "openLine" fun c => c.resumeLine scripted outer).1.Knows c :=
    h.knows.use _ _ _
  have hhistory : (c.await id e.number stop.isSome).history = c.history := by
    rw [Chronicle.await]
    split
    · rfl
    · rfl
  constructor
  · constructor
    · exact hknows.await id call e stop
    · rw [hhistory]
      refine ⟨_, hr.wait.pass hcollector hwritten hblocked, ?_⟩
      apply hawait.trans
      rw [hook, entries_use]
      apply (List.subperm_cons _).mpr hsubperm
  · exact (hshows.resumeLine outer).2

/-- The calls with an id go on, and the others wait. -/
theorem resume_eq (s : Session) (id : String) :
  s.resume id
    = { s with
        waiting := s.waiting.filter fun w => w.id ≠ id
        resumed := s.resumed ++ s.waiting.filter fun w => w.id = id }
  := by
  simp only [resume, List.partition_eq_filter_filter, ne_eq, decide_not]
  rfl

/-- A chronicle knows of calls that go on. -/
theorem Knows.resume (h : s.Knows c) (id : String) :
  (s.resume id).Knows (c.resume id)
  := by
  have hthese := congrArg (List.map Prod.snd) (h.filter fun other => other = id)
  rw [List.map_map, List.map_map] at hthese
  rw [resume_eq]
  constructor
  · exact h.filter fun other => other ≠ id
  · exact h.failed
  · show (s.resumed ++ _).map Waiting.number? = (c.resumed ++ _).map some
    rw [List.map_append, List.map_append, h.resumed, List.map_map]
    exact congrArg (c.resumed.map some ++ ·) hthese

/-- A call goes on. -/
theorem IsUnderway.resume (h : s.IsUnderway c frames) (id : String) :
  (s.resume id).IsUnderway (c.resume id) frames
  := by
  have hentries : (s.resume id).entries.Perm s.entries := by
    apply List.Perm.map
    rw [resume_eq]
    show (s.failed ++ (s.resumed ++ s.waiting.filter fun w => w.id = id)
      ++ s.waiting.filter fun w => w.id ≠ id).Perm s.pending
    simp only [List.append_assoc, pending, ne_eq, decide_not]
    apply List.Perm.append_left
    apply List.Perm.append_left
    apply List.filter_append_perm
  obtain ⟨waiting, hr, hsubperm⟩ := h.reached
  exact ⟨h.knows.resume id, waiting, hr.pass rfl rfl rfl, hentries.subperm.trans hsubperm⟩

/-! ### Runs -/

/-- A call stops when an action of its body stops, or when it throws itself. -/
theorem throws_ending (call : Call) (stop : Option Stop) :
  (stop.isSome || call.throws.isSome) = !(ending call stop).isOk
  := by
  cases stop with
  | some e => rfl
  | none =>
      rw [ending.eq_def]
      cases call.throws with
      | some t => rfl
      | none => rfl

/-- What a call does and gives: it is entered, its body runs, and it is left. -/
theorem act_call {s t u : Session} {call : Call} {body : List Action}
    {outer : Option (OpenLine Float)} {entry : Option (Entry Float)}
    (henter : s.enter call = (t, .ok (outer, entry)))
    (hleave : (t.actAll body).1.leave call outer entry = (u, .ok .nothing)) :
  s.act (.call call body) = (u, (ending call (t.actAll body).2).map fun _ => .returned call)
  := by
  simp only [Session.act, henter, hleave, andThen]

/-- What a call that waits does and gives: it is entered, its body runs, and it gives its promise. -/
theorem act_spawn {s t u : Session} {call : Call} {body : List Action}
    {outer : Option (OpenLine Float)} {entry : Option (Entry Float)}
    (henter : s.enter call = (t, .ok (outer, entry)))
    (hresume : ((t.actAll body).1.hook "openLine" fun c => c.resumeLine scripted outer)
      = (u, .ok .nothing)) (id : String) :
  s.act (.spawn id call body) = (u.await id call entry (t.actAll body).2, .ok .nothing)
  := by
  simp only [Session.act, henter, hresume, andThen]

mutual

/-- An action that neither starts anew nor ends the program goes from states that are reached to
states that are reached, and stops when its chronicle tells so. -/
theorem IsUnderway.act {s : Session} {c : Chronicle} {frames : List Frame}
    (h : s.IsUnderway c frames) :
  (a : Action) → a.isPlain = true →
    (s.act a).1.IsUnderway (c.act a).1 frames ∧ (c.act a).2 = !(s.act a).2.isOk
  | .tick amount, _ => by
      have hknows : (s.act (.tick amount)).1.Knows c := ⟨h.knows.waiting, h.knows.failed, h.knows.resumed⟩
      exact ⟨h.pass hknows rfl rfl rfl (List.Subperm.refl _), rfl⟩
  | .beginLine line, _ => by
      obtain ⟨hbegun, hok⟩ := h.beginLine line
      refine ⟨hbegun, ?_⟩
      rw [Session.act, hok]
      rfl
  | .assign entries, _ => by
      obtain ⟨hassigned, hok⟩ := h.assign entries
      refine ⟨hassigned, ?_⟩
      rw [Session.act, hok]
      rfl
  | .trace _, _ => ⟨h, rfl⟩
  | .generate, _ => ⟨h, rfl⟩
  | .resume id, _ => ⟨h.resume id, rfl⟩
  | .call call body, hbody => by
      obtain ⟨outer, e, hentered, hnumber, hinside⟩ := h.enter call
      obtain ⟨hdone, hstop⟩ := hinside.actAll body hbody
      obtain ⟨hleft, hok⟩ := hdone.leave call
      rw [act_call (Prod.ext rfl hentered) (Prod.ext rfl hok), Chronicle.act, ← hnumber, hstop,
        throws_ending]
      refine ⟨hleft, ?_⟩
      cases ending call ((s.enter call).1.actAll body).2 with
      | ok v => rfl
      | error stop => rfl
  | .spawn id call body, hbody => by
      obtain ⟨outer, e, hentered, hnumber, hinside⟩ := h.enter call
      obtain ⟨hdone, hstop⟩ := hinside.actAll body hbody
      obtain ⟨hwaits, hok⟩ := hdone.wait id call ((s.enter call).1.actAll body).2
      rw [act_spawn (Prod.ext rfl hentered) (Prod.ext rfl hok), Chronicle.act, ← hnumber, hstop]
      exact ⟨hwaits, rfl⟩

/-- Actions that neither start anew nor end the program go from states that are reached to states that
are reached, up to the first that stops. -/
theorem IsUnderway.actAll {s : Session} {c : Chronicle} {frames : List Frame}
    (h : s.IsUnderway c frames) :
  (as : List Action) → arePlain as = true →
    (s.actAll as).1.IsUnderway (c.actAll as).1 frames ∧ (c.actAll as).2 = (s.actAll as).2.isSome
  | [], _ => ⟨h, rfl⟩
  | a :: as, has => by
      rw [arePlain, Bool.and_eq_true] at has
      obtain ⟨hdone, hok⟩ := h.act a has.1
      rw [Session.actAll, Chronicle.actAll]
      split
      · rename_i hact
        rw [hact] at hdone hok
        have hstop : (c.act a).2 = true := hok
        rw [if_pos hstop]
        exact ⟨hdone, rfl⟩
      · rename_i hact
        rw [hact] at hdone hok
        have hgo : (c.act a).2 = false := hok
        rw [hgo, if_neg Bool.false_ne_true]
        exact hdone.actAll as has.2

end

/-- The promise of a call that has waited settles when the call is left. -/
theorem conclude_eq (s : Session) (w : Waiting) :
  ∃ p, s.conclude w
    = (s.hook "stack" fun c => c.leave scripted w.entry w.arguments).1.promise w.id p
  := by
  rw [conclude]
  split
  · rename_i hleave
    rw [hleave]
    exact ⟨_, rfl⟩
  · rename_i hleave
    rw [hleave]
    exact ⟨_, rfl⟩

/-- A known entry among those that wait can be taken out. -/
theorem exists_perm_cons {α : Type} {x : α} {xs ys : List α} (h : (x :: xs).Subperm ys) :
  ∃ others, ys.Perm (x :: others) ∧ xs.Subperm others
  := by
  obtain ⟨zs, hperm, hsublist⟩ := h
  obtain ⟨rest, hrest⟩ := hsublist.exists_perm_append
  use xs ++ rest
  constructor
  · exact hrest.trans (hperm.append_right rest)
  · exact (List.sublist_append_left xs rest).subperm

/-- Calls that can go on end one after the other. -/
theorem isUnderway_settle {ws : List Waiting} {numbers : List Nat}
    {waiting : List (Option (Entry Float))} (hknows : s.Knows c)
    (hr : Reached ⟨s, frames, waiting⟩ c.history)
    (hnumbers : ws.map Waiting.number? = numbers.map some)
    (hknown : (ws.map Waiting.entry ++ s.entries).Subperm waiting) :
  (ws.foldl conclude s).IsUnderway (numbers.foldl Chronicle.leave c) frames
  := by
  induction ws generalizing s c numbers waiting with
  | nil =>
      rw [List.map_eq_nil_iff.mp hnumbers.symm]
      exact ⟨hknows, waiting, hr, hknown⟩
  | cons w ws ih =>
      obtain ⟨number, numbers, rfl, hnumber, hnumbers⟩ := List.map_eq_cons_iff.mp hnumbers.symm
      obtain ⟨e, he, hnumber⟩ := Option.map_eq_some_iff.mp hnumber.symm
      obtain ⟨others, hperm, hothers⟩ := exists_perm_cons hknown
      obtain ⟨p, hconclude⟩ := s.conclude_eq w
      have hleft := (hr.settle hperm w.arguments).pass (t := s.conclude w)
        (by rw [hconclude]; rfl) (by rw [hconclude]; rfl) (by rw [hconclude]; rfl)
      have hhistory : c.history.leave w.entry = (c.leave number).history := by
        rw [he, ← hnumber]
        rfl
      have hentries : (s.conclude w).entries = s.entries := by
        rw [hconclude, ← entries_use s "stack"]
        rfl
      have hstill : (s.conclude w).Knows (c.leave number) := by
        obtain ⟨hwaiting, hfailed, hresumed⟩ : (s.hook "stack" fun c =>
            c.leave scripted w.entry w.arguments).1.Knows (c.leave number) := hknows.use _ _ _
        rw [hconclude]
        exact ⟨hwaiting, hfailed, hresumed⟩
      rw [hhistory] at hleft
      apply ih hstill hleft hnumbers.symm
      rw [hentries]
      exact hothers

/-- A step goes from a state that is reached to one that is reached. -/
theorem IsUnderway.step (h : s.IsUnderway c frames) {a : Action} (ha : a.isPlain = true) :
  (s.step a).1.IsUnderway (c.step a) frames
  := by
  obtain ⟨⟨hknows, waiting, hr, hknown⟩, -⟩ := h.act a ha
  let t := (s.act a).1
  have hemptied : Reached ⟨{ t with failed := [], resumed := [] }, frames, waiting⟩
      (c.act a).1.history := hr.pass rfl rfl rfl
  have hentries : (t.failed ++ t.resumed).map Waiting.entry
      ++ ({ t with failed := [], resumed := [] } : Session).entries = t.entries := by
    rw [entries, ← List.map_append]
    rfl
  apply isUnderway_settle (c := { (c.act a).1 with failed := [], resumed := [] })
  · exact ⟨hknows.waiting, rfl, rfl⟩
  · exact hemptied
  · rw [List.map_append, List.map_append, hknows.failed, hknows.resumed]
  · rw [hentries]
    exact hknown

/-- Steps go from states that are reached to states that are reached. -/
theorem IsUnderway.steps (h : s.IsUnderway c frames) {actions : List Action}
    (ha : arePlain actions = true) :
  (s.steps actions).IsUnderway (actions.foldl Chronicle.step c) frames
  := by
  induction actions generalizing s c with
  | nil => exact h
  | cons a actions ih =>
      rw [arePlain, Bool.and_eq_true] at ha
      apply ih (h.step ha.1) ha.2

end Session

/-! ### Conservation -/

/-- The lines that have begun and the calls that were entered in an activity with a collector are all
reported or kept. -/
structure Conserves (a : Activity) (c : Collector Scripted Float) (h : History) : Prop where
  collector : a.session.collector = some c
  /-- A line is reported, open, or put aside by a call in its synchronous part. -/
  lines : h.lines.Perm (linesIn (eventsOf a.session.written)
    ++ ((c.openLine.map OpenLine.line).toList ++ a.frames.filterMap Frame.line?))
  count : h.lines.length = (linesIn (eventsOf a.session.written)).length
    + (if c.openLine.isSome then 1 else 0) + (a.frames.filter fun f => f.outer.isSome).length
  /-- The stack has the calls that were entered and not left, in the order in which they were
  entered. -/
  stack : c.stack.map Entry.call = h.calls.opened
  /-- These calls are in their synchronous part, or wait. -/
  entries : ((a.frames.map Frame.entry ++ a.waiting).map (Option.map Entry.call)).Perm
    (h.calls.opened.map some)
  /-- A call that was left is reported once, with its caller. -/
  calls : callsIn (eventsOf a.session.written)
    = h.calls.left.map fun call => (call.name, some call.caller)
  /-- At the end of the program, outside the synchronous parts of all calls, each line is
  reported. -/
  finish : a.frames = [] → ∀ thrown,
    let s := (a.session.hook "finished" fun c => c.finish scripted thrown).1
    h.lines.Perm (linesIn (eventsOf s.written))
      ∧ callsIn (eventsOf s.written) = h.calls.left.map fun call => (call.name, some call.caller)

theorem length_filterMap_line? (frames : List Frame) :
  (frames.filterMap Frame.line?).length = (frames.filter fun f => f.outer.isSome).length
  := by
  induction frames with
  | nil => rfl
  | cons f frames ih =>
      obtain ⟨outer, entry⟩ := f
      cases outer with
      | none => exact ih
      | some l => exact congrArg (· + 1) ih

/-- What a session shows of lines and calls is what it has written. -/
theorem Session.Shows.account {s : Session} {v : View} (h : s.Shows v) :
  ∃ c, s.collector = some c ∧ v.stack = c.stack.map Entry.call
    ∧ v.openLine = c.openLine.map OpenLine.line ∧ v.account.lines = linesIn (eventsOf s.written)
    ∧ v.account.calls = callsIn (eventsOf s.written)
  := by
  obtain ⟨d, hd, rfl⟩ := Option.map_eq_some_iff.mp h.view
  obtain ⟨c, hc, rfl⟩ := Option.map_eq_some_iff.mp hd
  exact ⟨c, hc, rfl, rfl, rfl, rfl⟩

/-- Every state that is reached conserves lines and calls. -/
theorem Reached.conserves {a : Activity} {h : History} (hr : Reached a h) :
  ∃ c, Conserves a c h
  := by
  obtain ⟨v, hshows, hb⟩ := hr.balanced
  obtain ⟨c, hc, hstack, hopen, hlines, hcalls⟩ := hshows.account
  have hsum := hb.lines
  rw [hlines, hopen] at hsum
  use c
  constructor
  · exact hc
  · exact hsum
  · rw [hsum.length_eq, List.length_append, List.length_append, length_filterMap_line?,
      ← Nat.add_assoc]
    cases c.openLine with
    | none => rfl
    | some l => rfl
  · rw [← hstack, hb.stack]
  · rw [← hb.stack]
    exact hb.entries
  · rw [← hcalls, hb.calls]
  · intro hframes thrown
    obtain ⟨d, -, -, -, hfinished, hreported⟩ := (hshows.finish hb.unfinished thrown).account
    have hall := hb.lines
    rw [hframes, List.filterMap_nil, List.append_nil] at hall
    constructor
    · rw [← hfinished]
      exact hall
    · rw [← hreported]
      exact hb.calls

/-- A session that tracks lines and calls goes from states that are reached to states that are
reached, whatever its snippet does until the program ends, and what has happened is what the actions
tell; and every state that is reached conserves lines and calls. -/
theorem session_conserves :
  (∀ (instruments : Scripted) (options : TrackingOptions) (lines : List String) (script : String)
      (offset : Int) (actions : List Action), options.functions = true →
      options.executionFlow = true → arePlain actions = true →
      ∃ waiting, Reached
        ⟨(({ instruments } : Session).start options lines script offset).1.steps actions, [],
          waiting⟩ (historyOf actions))
    ∧ ∀ a h, Reached a h → ∃ c, Conserves a c h
  := by
  constructor
  · intro instruments options lines script offset actions hfunctions hflow hactions
    have hstart := Reached.start hfunctions hflow instruments lines script offset
    have hunderway : (({ instruments } : Session).start options lines script
        offset).1.IsUnderway {} [] := by
      let c := Collector.start scripted options lines script offset 0 instruments
      have hnew : ({ instruments := c.surroundings, collector := some c } : Session).Knows {} :=
        ⟨rfl, rfl, rfl⟩
      refine ⟨hnew.use {} "options" _, [], hstart, ?_⟩
      rw [Session.start, Session.hook, Session.entries_use]
      exact List.Subperm.refl []
    obtain ⟨waiting, hr, -⟩ := (hunderway.steps hactions).reached
    exact ⟨waiting, hr⟩
  · intro a h hr
    apply hr.conserves

/-- Calls that wait overlap, one of them with a call inside it, and another call throws. -/
def busy : List Action :=
  [.beginLine 1,
    .spawn "p" { name := "load", ownName := "load" }
      [.beginLine 5, .call { name := "parse", ownName := "parse" } [.beginLine 9]],
    .beginLine 2,
    .spawn "q" { name := "save", ownName := "save" } [.beginLine 6],
    .resume "p",
    .call { name := "check", ownName := "check", throws := some (.plain "no") } [.beginLine 8],
    .beginLine 3,
    .resume "q"]

/-- A busy session loses no line and no call. -/
theorem session_conserves_busy :
  ∃ waiting c, Reached ⟨(({} : Session).start {} [] "" 0).1.steps busy, [], waiting⟩ (historyOf busy)
    ∧ Conserves ⟨(({} : Session).start {} [] "" 0).1.steps busy, [], waiting⟩ c (historyOf busy)
    ∧ (historyOf busy).lines = [1, 5, 9, 2, 6, 8, 3]
    ∧ (historyOf busy).calls.left.map (fun call => (call.name, some call.caller))
      = [("parse", some "load"), ("load", some "global"), ("check", some "save"),
          ("save", some "load")]
    ∧ linesIn (eventsOf (((({} : Session).start {} [] "" 0).1.steps busy).hook "finished" fun c =>
        c.finish scripted none).1.written) = [9, 5, 1, 6, 8, 2, 3]
  := by
  have hplain : arePlain busy = true := rfl
  obtain ⟨waiting, hr⟩ := session_conserves.1 {} {} [] "" 0 busy rfl rfl hplain
  obtain ⟨c, hc⟩ := session_conserves.2 _ _ hr
  refine ⟨waiting, c, hr, hc, ?_, ?_, ?_⟩
  · decide +kernel
  · decide +kernel
  · decide +kernel

end SnippetProfiler.Braced
