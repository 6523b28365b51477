import SnippetProfiler.Proofs.Indented.Snippet
import SnippetProfiler.Proofs.Probe.Calls

/-!
# The callers of calls in Python snippets

The stack of a collector loses its top when a call is left, whichever call that is.  Calls that wait
may be left below calls that were entered after them.  Then the stack keeps the names of the calls
that are open only if those above the call have its name; if not, it names a call that has returned,
which may go on to be reported as a caller.

The stack loses its top before the texts of the arguments are made, and the call is reported behind
them.  A text that makes calls itself enters and leaves them in between.
-/

namespace SnippetProfiler.Indented

open Probe (CallEvent Calls Instruments callsIn eventsOf)

variable {σ τ : Type}

/-! ### Moves of calls -/

/-- What a move does to calls. -/
def Move.call? : Move σ → Option CallEvent
  | .enter name => some (.enter name)
  | .leave number => some (.leave number)
  | .argumentTexts number _ => some (.tell number)
  | _ => none

/-- The calls after moves. -/
def callsOf (moves : List (Move σ)) : Calls := .after (moves.filterMap Move.call?)

/-- Whether a call that a move leaves after other moves has a property. -/
def Move.Leaves (P : Calls → Nat → Prop) (before : List (Move σ)) : Move σ → Prop
  | .leave number => P (callsOf before) number
  | _ => True

/-- Moves all of which leave only calls with a property. -/
def EachLeaves (P : Calls → Nat → Prop) (moves : List (Move σ)) : Prop :=
  ∀ before m, before ++ [m] <+: moves → m.Leaves P before

/-- Moves that leave only calls that are open. -/
abbrev AreProper (moves : List (Move σ)) : Prop :=
  EachLeaves (fun c number => ∃ call ∈ c.opened, call.number = number) moves

/-- Moves that leave no call while one with another name is open that was entered after it. -/
abbrev AreLevel (moves : List (Move σ)) : Prop :=
  EachLeaves (fun c number => ∀ call ∈ c.opened, call.number = number →
    ∀ other ∈ c.opened, number < other.number → other.name = call.name) moves

theorem eachLeaves_iff {P : Calls → Nat → Prop} {moves : List (Move σ)} :
  EachLeaves P moves ↔ ∀ i : Fin moves.length, moves[i].Leaves P (moves.take i)
  := Probe.forall_prefix_iff

instance {P : Calls → Nat → Prop} [∀ c number, Decidable (P c number)] (before : List (Move σ)) :
    (m : Move σ) → Decidable (m.Leaves P before)
  | .leave number => inferInstanceAs (Decidable (P (callsOf before) number))
  | .pass _ | .now | .sample _ | .openLine _ | .closeLine _ | .assign .. | .valueText _ | .enter _
  | .argumentTexts .. | .finish _ | .crashText =>
    inferInstanceAs (Decidable True)

instance {P : Calls → Nat → Prop} [∀ c number, Decidable (P c number)] (moves : List (Move σ)) :
    Decidable (EachLeaves P moves) :=
  decidable_of_iff _ eachLeaves_iff.symm

theorem EachLeaves.before {P : Calls → Nat → Prop} {moves before : List (Move σ)}
    (h : EachLeaves P moves) (hbefore : before <+: moves) :
  EachLeaves P before
  := fun front m hfront => h front m (hfront.trans hbefore)

theorem callsOf_concat (moves : List (Move σ)) (m : Move σ) :
  callsOf (moves ++ [m]) = (m.call?.map (callsOf moves).step).getD (callsOf moves)
  := by
  rw [callsOf, List.filterMap_append]
  cases hm : m.call? with
  | none =>
      rw [List.filterMap_cons_none hm, List.filterMap_nil, List.append_nil]
      rfl
  | some event =>
      rw [List.filterMap_cons_some hm, List.filterMap_nil, Calls.after_concat]
      rfl

/-- What is left of a list without its last item is what stands behind the first one exactly when all
items are the same. -/
theorem dropLast_cons_eq_iff {α : Type} {x : α} {xs : List α} :
  (x :: xs).dropLast = xs ↔ ∀ y ∈ xs, y = x
  := by
  induction xs generalizing x with
  | nil => simp
  | cons y ys ih =>
      rw [List.dropLast_cons_cons, List.cons.injEq, ih, List.forall_mem_cons]
      constructor
      · rintro ⟨rfl, h⟩
        exact ⟨rfl, h⟩
      · rintro ⟨rfl, h⟩
        exact ⟨rfl, h⟩

/-- When a call is left, the names of the calls that are open lose the last one exactly when the calls
above it have its name. -/
theorem dropLast_names_iff {c : Calls} (hc : c.IsNumbered) {call : Probe.Call} (hcall : call ∈ c.opened) :
  (c.opened.map Probe.Call.name).dropLast = (c.step (.leave call.number)).opened.map Probe.Call.name
    ↔ ∀ other ∈ c.opened, call.number < other.number → other.name = call.name
  := by
  obtain ⟨front, back, hopened, hleft, hback⟩ := hc.leave hcall
  have hlevel : (∀ other ∈ c.opened, call.number < other.number → other.name = call.name)
      ↔ ∀ other ∈ back, other.name = call.name := by
    constructor
    · intro h other hother
      have hmem : other ∈ c.opened := by
        rw [hopened]
        exact List.mem_append_right _ (List.mem_cons_of_mem _ hother)
      apply h other hmem ((hback other hmem).mpr hother)
    · intro h other hother hlt
      apply h other ((hback other hother).mp hlt)
  rw [hlevel, hleft, hopened, List.map_append, List.map_cons,
    List.dropLast_append_of_ne_nil (List.cons_ne_nil _ _), List.map_append,
    List.append_cancel_left_eq, dropLast_cons_eq_iff, List.forall_mem_map]

/-! ### Snippets -/

namespace Snippet

variable {p : Snippet σ τ}

/-- The calls that a snippet has reported. -/
def reported (p : Snippet σ τ) : List (String × Option String) :=
  callsIn (eventsOf p.collector.written)

/-- A snippet has the stack and the calls of another one, and has reported the same calls. -/
structure HasCallsOf (p q : Snippet σ τ) : Prop where
  stack : q.collector.stack = p.collector.stack
  entries : q.entries = p.entries
  leaving : q.leaving = p.leaving
  account : q.collector.account.calls = p.collector.account.calls

variable [Quantity τ] (env : Instruments σ τ) {options : TrackingOptions}

theorem run_concat (p : Snippet σ τ) (moves : List (Move σ)) (m : Move σ) :
  p.run env (moves ++ [m]) = (p.run env moves).step env m
  := List.foldl_concat ..

/-- A move that is not about calls keeps the stack and the calls, and reports no call. -/
theorem step_of_call?_none (h : p.IsOrderly options) {m : Move σ} (hm : m.call? = none) :
  p.HasCallsOf (p.step env m)
  := by
  have hblocked := h.recorder.blocked
  have hemit (r : Probe.Recorder σ τ) (hr : r.account = p.collector.account) (e : TraceEvent τ)
      (he : callsIn [e] = []) : (r.emit e).account.calls = p.collector.account.calls := by
    have hopen : r.blocked = false := by
      rw [← hblocked]
      exact congrArg Probe.Account.blocked hr
    rw [Probe.Recorder.account_emit hopen, he, List.append_nil, hr]
  cases m with
  | pass surroundings => exact ⟨rfl, rfl, rfl, rfl⟩
  | now => exact ⟨rfl, rfl, rfl, rfl⟩
  | sample forced =>
      refine ⟨rfl, rfl, rfl, ?_⟩
      exact congrArg Probe.Account.calls (Probe.Recorder.account_sample env hblocked forced)
  | openLine line =>
      simp only [step, Collector.openLine]
      split
      · exact ⟨rfl, rfl, rfl, rfl⟩
      · exact ⟨rfl, rfl, rfl, rfl⟩
  | closeLine number =>
      simp only [step]
      split
      · refine ⟨rfl, rfl, rfl, hemit _ ?_ _ ?_⟩
        · rfl
        · rfl
      · exact ⟨rfl, rfl, rfl, rfl⟩
  | assign name value line =>
      simp only [step, Collector.beginAssign]
      split
      · exact ⟨rfl, rfl, rfl, rfl⟩
      · exact ⟨rfl, rfl, rfl, rfl⟩
  | valueText number =>
      simp only [step]
      split
      · refine ⟨rfl, rfl, rfl, hemit _ ?_ _ ?_⟩
        · rfl
        · rfl
      · exact ⟨rfl, rfl, rfl, rfl⟩
  | enter name => cases hm
  | leave number => cases hm
  | argumentTexts number summaries => cases hm
  | finish e =>
      have hfinished : ({ p.collector.toRecorder with finished := true }).blocked = false := hblocked
      simp only [step, Collector.beginFinish]
      split
      · exact ⟨rfl, rfl, rfl, rfl⟩
      · split
        · have hconclude := congrArg Probe.Account.calls
            (Probe.Recorder.account_conclude env hfinished)
          exact ⟨rfl, rfl, rfl, hconclude⟩
        · have hsample := congrArg Probe.Account.calls
            (Probe.Recorder.account_sample env hfinished true)
          exact ⟨rfl, rfl, rfl, hsample⟩
  | crashText =>
      simp only [step]
      split
      · refine ⟨rfl, rfl, rfl, ?_⟩
        exact congrArg Probe.Account.calls (Probe.Recorder.account_write hblocked rfl)
      · exact ⟨rfl, rfl, rfl, rfl⟩

/-- Entering a call pushes its name on the stack, the top of which is its caller. -/
theorem step_enter (h : p.IsOrderly options) (hfunctions : options.functions = true)
    (name : String) :
  (p.step env (.enter name)).collector.stack = p.collector.stack ++ [name]
    ∧ (∃ started, (p.step env (.enter name)).entries
        = p.entries ++ [some ⟨name, p.collector.stack.getLastD outermost, started⟩])
    ∧ (p.step env (.enter name)).leaving = p.leaving
    ∧ (p.step env (.enter name)).reported = p.reported
  := by
  have htracked : p.collector.options.functions = true := by rw [h.recorder.tracking, hfunctions]
  rw [step, Collector.enter, if_pos htracked]
  exact ⟨rfl, ⟨_, rfl⟩, rfl, rfl⟩

/-- Leaving a call pops the stack, and the call waits for the texts of its arguments. -/
theorem step_leave {number : Nat} {e : Entry τ} (he : p.entries[number]? = some (some e)) :
  (p.step env (.leave number)).collector.stack = p.collector.stack.dropLast
    ∧ (p.step env (.leave number)).entries = p.entries
    ∧ (∃ duration, (p.step env (.leave number)).leaving = p.leaving ++ [some ⟨e, duration⟩])
    ∧ (p.step env (.leave number)).reported = p.reported
  := by
  rw [step, he]
  exact ⟨rfl, rfl, ⟨_, rfl⟩, rfl⟩

/-- Behind the texts of its arguments, a call is reported. -/
theorem step_argumentTexts (h : p.IsOrderly options) {number : Nat} {d : Departure τ}
    (hd : p.leaving[number]? = some (some d)) (summaries : List String) :
  (p.step env (.argumentTexts number summaries)).collector.stack = p.collector.stack
    ∧ (p.step env (.argumentTexts number summaries)).entries = p.entries
    ∧ (p.step env (.argumentTexts number summaries)).leaving = p.leaving.set number none
    ∧ (p.step env (.argumentTexts number summaries)).reported
      = p.reported ++ [(d.entry.name, some d.entry.caller)]
  := by
  have hreport (r : Probe.Recorder σ τ) (hr : r.account = p.collector.account)
      (call : FunctionCall τ) :
      ((r.emit (.functionCall call)).sample env).account.calls
        = p.collector.account.calls ++ [(call.name, call.caller)] := by
    have hopen : r.blocked = false := by
      rw [← h.recorder.blocked]
      exact congrArg Probe.Account.blocked hr
    have hemit := Probe.Recorder.account_functionCall hopen call
    rw [Probe.Recorder.account_sample env _ _, hemit, hr]
    rw [← hopen]
    exact congrArg Probe.Account.blocked hemit
  rw [step, hd]
  refine ⟨rfl, rfl, rfl, hreport _ ?_ _⟩
  rfl

/-! ### Calls that are open -/

/-- A snippet has an entry for each call that was entered. -/
structure Numbers (p : Snippet σ τ) (c : Calls) : Prop where
  entered : p.entries.length = c.entered
  entries : ∀ entry ∈ p.entries, entry.isSome = true

/-- The stack of a snippet has the names of the calls that are open, and the calls that are told of are
reported with their callers. -/
structure Mirrors (p : Snippet σ τ) (c : Calls) : Prop where
  stack : p.collector.stack = c.opened.map Probe.Call.name
  entries : ∀ call ∈ c.opened, ∃ started,
    p.entries[call.number]? = some (some ⟨call.name, call.caller, started⟩)
  leaving : p.leaving.map (Option.map fun d => (d.entry.name, some d.entry.caller))
    = c.untold.map (Option.map fun call => (call.name, some call.caller))
  reported : p.reported = c.told.map fun call => (call.name, some call.caller)

variable {c : Calls}

omit [Quantity τ] in
theorem Numbers.entry (h : p.Numbers c) (hc : c.IsNumbered) {call : Probe.Call} (hcall : call ∈ c.opened) :
  ∃ e, p.entries[call.number]? = some (some e)
  := by
  have hlt : call.number < p.entries.length := by
    rw [h.entered]
    apply hc.below call hcall
  have hsome := h.entries p.entries[call.number] (List.getElem_mem hlt)
  obtain ⟨e, he⟩ := Option.isSome_iff_exists.mp hsome
  use e
  rw [List.getElem?_eq_getElem hlt, he]

/-- A move keeps the numbers of the entries. -/
theorem Numbers.step (h : p.Numbers c) (hp : p.IsOrderly options)
    (hfunctions : options.functions = true) (m : Move σ) :
  (p.step env m).Numbers ((m.call?.map c.step).getD c)
  := by
  have hkeep {d : Calls} (hd : d.entered = c.entered) (hentries : (p.step env m).entries = p.entries) :
      (p.step env m).Numbers d := by
    constructor
    · rw [hentries, hd, h.entered]
    · rw [hentries]
      apply h.entries
  cases m with
  | enter name =>
      obtain ⟨-, ⟨started, hentries⟩, -⟩ := step_enter env hp hfunctions name
      constructor
      · rw [hentries, List.length_append, h.entered]
        rfl
      · rw [hentries]
        intro entry hentry
        rcases List.mem_append.mp hentry with hentry | hentry
        · apply h.entries entry hentry
        · rw [List.mem_singleton.mp hentry]
          rfl
  | leave number =>
      apply hkeep
      · rfl
      · simp only [Snippet.step]
        split
        · rfl
        · rfl
  | argumentTexts number summaries =>
      apply hkeep
      · show (c.step (.tell number)).entered = c.entered
        rw [Calls.step]
        split
        · rfl
        · rfl
      · simp only [Snippet.step]
        split
        · rfl
        · rfl
  | _ => exact hkeep rfl (step_of_call?_none env hp rfl).entries

/-- Entering a call keeps a stack that has the names of the calls that are open. -/
theorem Mirrors.enter (h : p.Mirrors c) (hnumbers : p.Numbers c) (hc : c.IsNumbered)
    (hp : p.IsOrderly options) (hfunctions : options.functions = true) (name : String) :
  (p.step env (.enter name)).Mirrors (c.step (.enter name))
  := by
  obtain ⟨hstack, ⟨started, hentries⟩, hleaving, hreported⟩ := step_enter env hp hfunctions name
  have htop : p.collector.stack.getLastD outermost = c.top := by
    rw [h.stack, List.getLastD_eq_getLast?, List.getLast?_map]
    rfl
  constructor
  · rw [hstack, h.stack, Calls.step, List.map_append]
    rfl
  · intro call hcall
    rw [hentries]
    rcases List.mem_append.mp hcall with hcall | hcall
    · have hlt : call.number < p.entries.length := by
        rw [hnumbers.entered]
        apply hc.below call hcall
      rw [List.getElem?_append_left hlt]
      apply h.entries call hcall
    · use started
      rw [List.mem_singleton.mp hcall, htop]
      show (p.entries ++ _)[c.entered]? = _
      rw [← hnumbers.entered, List.getElem?_concat_length]
  · rw [hleaving]
    apply h.leaving
  · rw [hreported]
    apply h.reported

/-- Leaving a call that is open keeps such a stack when the calls above it have its name. -/
theorem Mirrors.leave (h : p.Mirrors c) (hc : c.IsNumbered) {call : Probe.Call}
    (hcall : call ∈ c.opened)
    (hlevel : ∀ other ∈ c.opened, call.number < other.number → other.name = call.name) :
  (p.step env (.leave call.number)).Mirrors (c.step (.leave call.number))
  := by
  obtain ⟨started, he⟩ := h.entries call hcall
  obtain ⟨hstack, hentries, ⟨duration, hleaving⟩, hreported⟩ := step_leave env he
  obtain ⟨front, back, -, hleft, -⟩ := hc.leave hcall
  constructor
  · rw [hstack, h.stack]
    apply (dropLast_names_iff hc hcall).mpr hlevel
  · intro other hother
    rw [hentries]
    apply h.entries other (List.mem_of_mem_filter hother)
  · rw [hleaving, hleft, List.map_append, List.map_append, h.leaving]
    rfl
  · rw [hreported]
    apply h.reported

/-- Telling of a call that was left keeps such a stack. -/
theorem Mirrors.tell (h : p.Mirrors c) (hp : p.IsOrderly options) (number : Nat)
    (summaries : List String) :
  (p.step env (.argumentTexts number summaries)).Mirrors (c.step (.tell number))
  := by
  have hnumber : p.leaving[number]?.map (Option.map fun d => (d.entry.name, some d.entry.caller))
      = c.untold[number]?.map (Option.map fun call => (call.name, some call.caller)) := by
    rw [← List.getElem?_map, ← List.getElem?_map, h.leaving]
  rw [Calls.step]
  split
  · rename_i call hcall
    rw [hcall] at hnumber
    obtain ⟨waiting, hd, hsome⟩ := Option.map_eq_some_iff.mp hnumber
    obtain ⟨d, rfl, hnames⟩ := Option.map_eq_some_iff.mp hsome
    obtain ⟨hstack, hentries, hleaving, hreported⟩ := step_argumentTexts env hp hd summaries
    constructor
    · rw [hstack, h.stack]
    · rw [hentries]
      apply h.entries
    · rw [hleaving, List.map_set, List.map_set, h.leaving]
      rfl
    · rw [hreported, h.reported, hnames, List.map_append]
      rfl
  · rename_i hnone
    have hkeep : p.step env (.argumentTexts number summaries) = p := by
      rw [Snippet.step]
      split
      · rename_i d hd
        -- a call that waits for its texts is untold
        rw [hd] at hnumber
        obtain ⟨waiting, hcall, hsome⟩ := Option.map_eq_some_iff.mp hnumber.symm
        obtain ⟨call, rfl, -⟩ := Option.map_eq_some_iff.mp hsome
        exact absurd hcall (hnone call)
      · rfl
    rw [hkeep]
    exact h

omit [Quantity τ] in
/-- A move that is not about calls keeps such a stack. -/
theorem Mirrors.keep (h : p.Mirrors c) {q : Snippet σ τ} (hkeeps : p.HasCallsOf q) :
  q.Mirrors c
  := by
  constructor
  · rw [hkeeps.stack, h.stack]
  · rw [hkeeps.entries]
    apply h.entries
  · rw [hkeeps.leaving]
    apply h.leaving
  · rw [← h.reported]
    apply hkeeps.account

end Snippet

/-! ### Runs -/

variable [Quantity τ] {options : TrackingOptions}

/-- After any moves, a snippet has an entry for each call that was entered. -/
theorem numbers_run (hfunctions : options.functions = true) (env : Instruments σ τ)
    {p : Snippet σ τ} (hp : p.IsOrderly options) (hentries : p.entries = [])
    (moves : List (Move σ)) :
  (p.run env moves).Numbers (callsOf moves)
  := by
  induction moves using List.reverseRecOn with
  | nil =>
      constructor
      · show p.entries.length = 0
        rw [hentries, List.length_nil]
      · show ∀ entry ∈ p.entries, _
        rw [hentries]
        rintro entry ⟨⟩
  | append_singleton moves m ih =>
      rw [Snippet.run_concat, callsOf_concat]
      apply ih.step env (hp.run moves) hfunctions

/-- After moves that leave no call below one with another name, the stack has the names of the calls
that are open. -/
theorem mirrors_run (hfunctions : options.functions = true) (env : Instruments σ τ)
    {p : Snippet σ τ} (hp : p.IsOrderly options) (hmirrors : p.Mirrors {}) (hentries : p.entries = [])
    {moves : List (Move σ)} (hproper : AreProper moves) (hlevel : AreLevel moves) :
  (p.run env moves).Mirrors (callsOf moves)
  := by
  -- the moves before the last one are proper and level, too
  induction moves using List.reverseRecOn with
  | nil => exact hmirrors
  | append_singleton moves m ih =>
      have hprefix := List.prefix_append moves [m]
      have ih := ih (hproper.before hprefix) (hlevel.before hprefix)
      have horderly : (p.run env moves).IsOrderly options := hp.run moves
      have hnumbered : (callsOf moves).IsNumbered := Calls.isNumbered_after _
      rw [Snippet.run_concat, callsOf_concat]
      cases m with
      | enter name =>
          apply ih.enter env (numbers_run hfunctions env hp hentries moves) hnumbered horderly
            hfunctions
      | leave number =>
          obtain ⟨call, hcall, rfl⟩ := hproper moves _ (List.prefix_refl _)
          apply ih.leave env hnumbered hcall
          apply hlevel moves _ (List.prefix_refl _) call hcall rfl
      | argumentTexts number summaries => exact ih.tell env horderly number summaries
      | _ => exact ih.keep (Snippet.step_of_call?_none env horderly rfl)

/-- The stack of a snippet always has the names of the calls that are open exactly when no call is
left below one with another name; and then every call is reported with the caller that it had. -/
theorem stack_isExact_iff (hfunctions : options.functions = true) {moves : List (Move σ)}
    (hproper : AreProper moves) (env : Instruments σ τ) (mapping : Option (List (Int × Option Int)))
    (lines : List String) (script : String) (surroundings : σ) :
  ((∀ before, before <+: moves →
      ((Snippet.start env options mapping lines script surroundings).run env
        before).collector.stack = (callsOf before).opened.map Probe.Call.name) ↔ AreLevel moves)
    ∧ (AreLevel moves →
      ((Snippet.start env options mapping lines script surroundings).run env moves).reported
        = (callsOf moves).told.map fun call => (call.name, some call.caller))
  := by
  have hp : (Snippet.start env options mapping lines script surroundings).IsOrderly options := by
    apply Snippet.isOrderly_start
  have hmirrors : (Snippet.start env options mapping lines script surroundings).Mirrors {} := by
    constructor
    · rfl
    · rintro call ⟨⟩
    · rfl
    · exact congrArg Probe.Account.calls (Probe.Recorder.account_sample env rfl true)
  constructor
  · constructor
    · intro hstack before m hprefix
      cases m with
      | leave number =>
          -- the stack loses its top, while the calls that are open lose the one that is left
          rintro call hcall rfl
          have hbefore : before <+: moves := (List.prefix_append _ _).trans hprefix
          have hnumbered : (callsOf before).IsNumbered := Calls.isNumbered_after _
          obtain ⟨e, he⟩ := (numbers_run hfunctions env hp rfl before).entry hnumbered hcall
          have hpop := (Snippet.step_leave env he).1
          rw [← Snippet.run_concat, hstack _ hprefix, hstack _ hbefore, callsOf_concat] at hpop
          apply (dropLast_names_iff hnumbered hcall).mp hpop.symm
      | _ => trivial
    · intro hlevel before hprefix
      apply Snippet.Mirrors.stack
      apply mirrors_run hfunctions env hp hmirrors rfl (hproper.before hprefix)
        (hlevel.before hprefix)
  · intro hlevel
    apply (mirrors_run hfunctions env hp hmirrors rfl hproper hlevel).reported

/-- Two calls of one function that overlap, and a call that the text of an argument of the first one
makes, which is told of before that one. -/
def overlapping : List (Move Unit) :=
  [.enter "main", .enter "f", .enter "f", .leave 1, .enter "g", .leave 3, .argumentTexts 1 [],
    .argumentTexts 0 [], .leave 2, .argumentTexts 2 [], .leave 0, .argumentTexts 3 []]

/-- Calls that overlap are reported with their callers when they have one name. -/
theorem stack_isExact_iff_overlapping :
  AreProper overlapping ∧ AreLevel overlapping
    ∧ (∀ before, before <+: overlapping →
      ((Snippet.start Probe.still {} none [] "" ()).run Probe.still before).collector.stack
        = (callsOf before).opened.map Probe.Call.name)
    ∧ ((Snippet.start Probe.still {} none [] "" ()).run Probe.still overlapping).reported
      = [("g", some "f"), ("f", some "main"), ("f", some "f"), ("main", some "global")]
  := by
  have hproper : AreProper overlapping := by decide
  have hlevel : AreLevel overlapping := by decide
  have hfunctions : ({} : TrackingOptions).functions = true := rfl
  have h := stack_isExact_iff hfunctions hproper Probe.still none [] "" ()
  refine ⟨hproper, hlevel, h.1.mpr hlevel, ?_⟩
  rw [h.2 hlevel]
  decide

/-- A call that is left below another one, and a call that is made then. -/
def crossing : List (Move Unit) := [.enter "first", .enter "second", .leave 0, .argumentTexts 0 [], .enter "third"]

/-- The stack does not always have the names of the calls that are open: a call that has returned can
be the caller of one that is entered then. -/
theorem stack_not_always_isExact :
  ¬ ∀ (options : TrackingOptions) (moves : List (Move Unit)), options.functions = true →
      AreProper moves → ∀ (env : Instruments Unit Float) (lines : List String) (script : String),
        ((Snippet.start env options none lines script ()).run env moves).collector.stack
          = (callsOf moves).opened.map Probe.Call.name
  := by
  intro h
  have hproper : AreProper crossing := by decide
  have hcrossing := h {} crossing rfl hproper Probe.still [] ""
  have hopened : (callsOf crossing).opened = [⟨1, "second", "first"⟩, ⟨2, "third", "second"⟩] := by
    decide
  have hstack : ((Snippet.start Probe.still {} none [] "" ()).run Probe.still
      crossing).collector.stack = ["first", "third"] := rfl
  rw [hstack, hopened] at hcrossing
  revert hcrossing
  decide

end SnippetProfiler.Indented
