import SnippetProfiler.Proofs.Sandbox.Ending
import SnippetProfiler.Proofs.Trace.Sentinel

/-!
# What a run takes from its stream

A line of output has a plain text, and may have an event or a terminal frame.  Of a stream that
is read to its end a run takes

* the plain texts of all lines,
* the events of the lines in front of the first terminal frame, at times that are clamped one
  by one,
* and the first terminal frame, whose payload alone decides the outcome.

`run_conveys` says so of every run with an outcome whose output was read to its end.
-/

namespace SnippetProfiler

/-! ### Clamped times -/

/-- An event at a time that is not before `t`. -/
def TraceEvent.clamp (t : Float) (e : TraceEvent Float) : TraceEvent Float :=
  if e.time < t then e.withTime t else e

/-- Events of which each that is earlier than the one before it is moved to the time of that
one; the first one is not to be before `t`. -/
def Trace.clampedFrom (t : Float) : Trace Float → Trace Float
  | [] => []
  | e :: es => e.clamp t :: clampedFrom (e.clamp t).time es

/-- The time that is reached when events are clamped. -/
def Trace.latestFrom (t : Float) : Trace Float → Float
  | [] => t
  | e :: es => latestFrom (e.clamp t).time es

/-- Clamping goes on from the time that was reached. -/
theorem Trace.clampedFrom_append (t : Float) (es fs : Trace Float) :
  clampedFrom t (es ++ fs) = clampedFrom t es ++ clampedFrom (latestFrom t es) fs
  := by
  induction es generalizing t with
  | nil => rfl
  | cons e es ih =>
      rw [List.cons_append, clampedFrom, clampedFrom, latestFrom, ih, List.cons_append]

/-- An event whose time does not matter. -/
def TraceEvent.untimed (e : TraceEvent Float) : TraceEvent Float := e.withTime 0

theorem TraceEvent.untimed_clamp (t : Float) (e : TraceEvent Float) :
  (e.clamp t).untimed = e.untimed
  := by
  rw [clamp]
  split
  · cases e with
    | _ => rfl
  · rfl

/-- Clamping changes nothing but times. -/
theorem Trace.untimed_clampedFrom (t : Float) (es : Trace Float) :
  (clampedFrom t es).map TraceEvent.untimed = es.map TraceEvent.untimed
  := by
  induction es generalizing t with
  | nil => rfl
  | cons e es ih => rw [clampedFrom, List.map_cons, List.map_cons, ih, e.untimed_clamp]

namespace Sandbox

/-! ### Lines -/

/-- The text of a line in front of its first sentinel, or the whole line if it has none. -/
def plainText (line : String) : String :=
  match findSentinel line.toList with
  | some m => .ofList m.before
  | none => line

/-- The event behind a sentinel. -/
def eventAt (m : Marked) : Option (TraceEvent Float) :=
  match m.kind, Json.parse m.body with
  | .event, .ok (.obj payload) =>
    (decodeEvent (entry payload "event") (entry payload "data")).toOption
  | _, _ => none

/-- The event of a line. -/
def eventOf (line : String) : Option (TraceEvent Float) :=
  (findSentinel line.toList).bind eventAt

/-- The first terminal frame of a stream. -/
def firstTerminal (lines : List String) : Option Terminal := lines.findSome? terminalOf

/-- The events of a stream in front of its first terminal frame. -/
def liveEvents (lines : List String) : Trace Float :=
  (lines.takeWhile fun line => (terminalOf line).isNone).filterMap eventOf

/-- The event that a part of a line is. -/
def eventPart? : Frame → Option (TraceEvent Float)
  | .event e _ => some e
  | _ => none

/-- The event behind a sentinel is the frame that is read there, if that is an event. -/
theorem eventAt_eq (m : Marked) :
  eventAt m = (readFrame m.kind m.body).toOption.bind eventPart?
  := by
  cases hp : Json.parse m.body with
  | error cause =>
      have hread : readFrame m.kind m.body = .error (.unreadable m.body cause) := by
        simp only [readFrame, hp]
      rw [hread, eventAt, hp]
      cases m.kind with
      | _ => rfl
  | ok v =>
      cases v with
      | obj payload =>
          have hread : readFrame m.kind m.body = frameOf m.kind payload := by
            simp only [readFrame, hp]
          rw [hread, eventAt, hp]
          cases m.kind with
          | event =>
              simp only [frameOf, entry]
              cases decodeEvent _ _ with
              | _ => rfl
          | complete => rfl
          | error => rfl
      | _ =>
          have hread : readFrame m.kind m.body = .error .notAnObject := by
            simp only [readFrame, hp]
          rw [hread, eventAt, hp]
          cases m.kind with
          | _ => rfl

/-- A frame that is read is no ordinary output. -/
theorem readFrame_ne_output {kind : FrameKind} {body : List Char} {text : String} :
  readFrame kind body ≠ .ok (.output text)
  := by
  rw [readFrame]
  split
  · rintro ⟨⟩
  · cases kind with
    | event =>
        simp only [frameOf]
        split
        · rintro ⟨⟩
        · rintro ⟨⟩
    | complete => rintro ⟨⟩
    | error => rintro ⟨⟩
  · rintro ⟨⟩

/-! ### Readings -/

namespace Reading

variable (accepts : TraceEvent Float → Bool)

/-- A reading after a text, an event and a terminal frame.  Behind a terminal frame nothing
but the text counts. -/
def take (r : Reading) (text : String) (event : Option (TraceEvent Float))
    (terminal : Option Terminal) : Reading :=
  let news := if r.terminal.isSome then [] else event.toList
  { output := r.output ++ text
    delivered := r.delivered ++ Trace.clampedFrom r.latest news
    terminal := r.terminal.or terminal
    latest := Trace.latestFrom r.latest news }

/-- A reading after a line that is read without a fault. -/
def after (r : Reading) (line : String) : Reading :=
  r.take (plainText line) (eventOf line) (terminalOf line)

theorem take_text (r : Reading) (text : String) :
  r.take text none none = { r with output := r.output ++ text }
  := by
  simp [take, Trace.clampedFrom, Trace.latestFrom]

/-- A frame that is no ordinary output is taken, unless the receiver refuses it; and then
nothing is delivered. -/
theorem frame_cases (r : Reading) {f : Frame} (hf : ∀ text, f ≠ .output text) :
  r.frame accepts f = (r.take "" (eventPart? f) (terminalPart? f), none) ∨
    ∃ r' fault, r.frame accepts f = (r', some fault) ∧ r'.delivered = r.delivered
  := by
  cases f with
  | output text => cases hf text rfl
  | event e payload =>
      obtain ⟨output, delivered, terminal, latest⟩ := r
      cases terminal with
      | some t =>
          left
          simp [Reading.frame, deliver, take, terminalPart?, Trace.clampedFrom, Trace.latestFrom]
      | none =>
          simp only [Reading.frame, deliver]
          split
          · left
            simp [take, eventPart?, terminalPart?, Trace.clampedFrom, Trace.latestFrom,
              TraceEvent.clamp, clamp]
          · right
            exact ⟨_, _, rfl, rfl⟩
  | complete payload =>
      left
      simp [Reading.frame, finish, take, eventPart?, terminalPart?, Trace.clampedFrom, Trace.latestFrom]
  | error payload =>
      left
      simp [Reading.frame, finish, take, eventPart?, terminalPart?, Trace.clampedFrom, Trace.latestFrom]

/-- A text in front of an event and a terminal frame is taken with them. -/
theorem take_take (r : Reading) (text : String) (event : Option (TraceEvent Float))
    (terminal : Option Terminal) :
  (r.take text none none).take "" event terminal = r.take text event terminal
  := by
  simp [take, Trace.clampedFrom, Trace.latestFrom]

theorem frames_singleton (r : Reading) (f : Frame) :
  r.frames accepts [f] = r.frame accepts f
  := by
  simp only [Reading.frames]
  split
  · rename_i h
    rw [h]
  · rename_i h
    rw [h]

/-- The parts of a line with a frame behind a text, which may be empty. -/
theorem frames_behind (r : Reading) (before : List Char) (f : Frame) :
  r.frames accepts (if before.isEmpty then [f] else [.output (.ofList before), f])
    = (r.take (.ofList before) none none).frame accepts f
  := by
  rw [take_text]
  cases before with
  | nil => simp [frames_singleton]
  | cons c cs =>
      rw [← frames_singleton]
      rfl

/-- A line is read as its plain text, its event and its terminal frame, or it is a fault; and
then nothing is delivered. -/
theorem line_cases (r : Reading) (line : String) :
  r.line accepts line = (r.after line, none) ∨
    ∃ r' fault, r.line accepts line = (r', some fault) ∧ r'.delivered = r.delivered
  := by
  cases hm : findSentinel line.toList with
  | none =>
      left
      simp [Reading.line, split, Reading.frames, Reading.frame, after, plainText, eventOf,
        terminalOf, hm, take_text]
  | some m =>
      have hafter : r.after line = r.take (.ofList m.before) (eventAt m) (terminalAt m) := by
        simp only [after, plainText, eventOf, terminalOf, hm, Option.bind_some]
      rw [hafter, eventAt_eq, terminalAt_eq]
      cases hr : readFrame m.kind m.body with
      | error cause =>
          rw [Marked.body] at hr
          simp only [Reading.line, split, hm, hr]
          split
          · left
            rw [← take_text]
            rfl
          · right
            exact ⟨_, _, rfl, rfl⟩
      | ok f =>
          have hf : ∀ text, f ≠ .output text := by
            rintro text rfl
            apply readFrame_ne_output hr
          rw [Marked.body] at hr
          simp only [Reading.line, split, hm, hr, frames_behind]
          have hframe := (r.take (.ofList m.before) none none).frame_cases accepts hf
          rw [take_take] at hframe
          rcases hframe with hframe | ⟨r', fault, hframe, hdelivered⟩
          · left
            apply hframe
          · right
            use r', fault, hframe
            rw [hdelivered, take_text]

/-! ### Streams -/

variable {accepts} in
/-- Lines that are read without a fault are taken one after the other. -/
theorem lines_of_read {r r' : Reading} {ls : List String}
    (h : r.lines accepts ls = (r', none)) :
  r' = ls.foldl after r
  := by
  induction ls generalizing r with
  | nil =>
      cases h
      rfl
  | cons l ls ih =>
      rcases r.line_cases accepts l with hl | ⟨r₁, fault, hl, -⟩
      · simp only [Reading.lines, hl] at h
        apply ih h
      · simp only [Reading.lines, hl, Prod.mk.injEq, reduceCtorEq, and_false] at h

theorem output_foldl_after (r : Reading) (ls : List String) :
  (ls.foldl after r).output = r.output ++ String.join (ls.map plainText)
  := by
  induction ls generalizing r with
  | nil => simp
  | cons l ls ih =>
      rw [List.foldl_cons, ih, List.map_cons, String.join_cons, ← String.append_assoc]
      rfl

theorem terminal_foldl_after (r : Reading) (ls : List String) :
  (ls.foldl after r).terminal = r.terminal.or (firstTerminal ls)
  := by
  induction ls generalizing r with
  | nil => simp [firstTerminal]
  | cons l ls ih =>
      have hafter : (r.after l).terminal = r.terminal.or (terminalOf l) := rfl
      rw [List.foldl_cons, ih, hafter, Option.or_assoc, firstTerminal, firstTerminal,
        List.findSome?_cons]
      cases terminalOf l with
      | none => rfl
      | some t => rfl

/-- The events in front of the first terminal frame, line by line. -/
theorem liveEvents_cons (l : String) (ls : List String) :
  liveEvents (l :: ls)
    = if (terminalOf l).isNone then (eventOf l).toList ++ liveEvents ls else []
  := by
  rw [liveEvents, liveEvents, List.takeWhile_cons]
  split
  · rw [List.filterMap_cons]
    cases eventOf l with
    | _ => rfl
  · rfl

/-- A line with a terminal frame has no event. -/
theorem eventOf_of_terminal {l : String} {t : Terminal} (h : terminalOf l = some t) :
  eventOf l = none
  := by
  obtain ⟨m, hm, ht⟩ := Option.bind_eq_some_iff.mp h
  rw [eventOf, hm, Option.bind_some, eventAt]
  rw [terminalAt] at ht
  split
  · rename_i hk _
    rw [hk] at ht
    cases ht
  · rfl

/-- Nothing is delivered behind a terminal frame. -/
theorem delivered_foldl_of_terminal {r : Reading} (h : r.terminal.isSome = true)
    (ls : List String) :
  (ls.foldl after r).delivered = r.delivered
  := by
  induction ls generalizing r with
  | nil => rfl
  | cons l ls ih =>
      rw [List.foldl_cons, ih]
      · simp [after, take, h, Trace.clampedFrom]
      · simp [after, take, h]

/-- In front of a terminal frame all events are delivered, at clamped times. -/
theorem delivered_foldl_after {r : Reading} (h : r.terminal = none) (ls : List String) :
  (ls.foldl after r).delivered
    = r.delivered ++ Trace.clampedFrom r.latest (liveEvents ls)
  := by
  induction ls generalizing r with
  | nil => simp [liveEvents, Trace.clampedFrom]
  | cons l ls ih =>
      rw [List.foldl_cons, liveEvents_cons]
      cases ht : terminalOf l with
      | some t =>
          rw [delivered_foldl_of_terminal]
          · simp [after, take, h, eventOf_of_terminal ht, Trace.clampedFrom, Trace.latestFrom]
          · simp [after, take, h, ht]
      | none =>
          rw [ih]
          · simp [after, take, h, Trace.clampedFrom_append]
          · simp [after, take, h, ht]

end Reading

/-! ### Runs -/

/-- The octets of lines and those of the line that is not over yet are those of the output,
when that is read to its end. -/
theorem flatten_cutLines {limit : Int} {overruns : Bool} {line : Octets} {length : Nat}
    {output : Octets} (h : (cutLines limit overruns line length output).2 = .closed) :
  (cutLines limit overruns line length output).1.flatten = line.reverse ++ output
  := by
  induction output generalizing line length with
  | nil =>
      rw [cutLines] at h ⊢
      split
      · rename_i hlong
        rw [if_pos hlong] at h
        cases h
      · rename_i hlong
        rw [if_neg hlong] at h
        split
        · rename_i hover
          rw [if_pos hover] at h
          cases h
        · cases line with
          | nil => rfl
          | cons b bs => simp
  | cons b bs ih =>
      rw [cutLines] at h ⊢
      split
      · rename_i hb
        rw [if_pos hb] at h
        split
        · rename_i hlong
          rw [if_pos hlong] at h
          cases h
        · rename_i hlong
          rw [if_neg hlong] at h
          rw [List.flatten_cons, ih h]
          simp
      · rename_i hb
        rw [if_neg hb] at h
        rw [ih h]
        simp

/-- What comes of a run whose output was read to its end, with the lines `lines`. -/
structure Conveys (lines : List String) (run : Run) (outcome : Outcome) : Prop where
  /-- The events in front of the first terminal frame are delivered, at clamped times. -/
  delivered : run.delivered = Trace.clampedFrom 0 (liveEvents lines)
  /-- Up to their times, they are delivered as they were written. -/
  untimed : run.delivered.map TraceEvent.untimed = (liveEvents lines).map TraceEvent.untimed
  /-- The run succeeds when the first terminal frame says that the program has completed. -/
  success_iff : (∃ s, outcome = .success s) ↔
    ∃ payload, firstTerminal lines = some (.complete payload)
  /-- The first terminal frame decides the trace and the duration. -/
  completed : ∀ payload s, firstTerminal lines = some (.complete payload) →
    outcome = .success s →
      traceOf payload = .ok s.trace ∧ reportedNumber (entry payload "executionTime") = .ok s.duration
  /-- The first terminal frame decides the message, the line and the stack. -/
  failed : ∀ payload, firstTerminal lines = some (.error payload) →
    ∃ f, outcome = .failure f ∧ reportedFailure payload = .valid f
  /-- The output is what stands in front of sentinels, in all lines. -/
  output : ∀ s, outcome = .success s → s.output = String.join (lines.map plainText)

/-- A sandbox that settles on an outcome gives that outcome. -/
theorem settle_eq_ok {s : Sandbox} {outcome o : Outcome} (h : (s.settle outcome).2 = .ok o) :
  o = outcome
  := by
  rw [Sandbox.settle] at h
  split at h
  · cases h
    rfl
  · cases h

variable {host : Host} {s : Sandbox} {spawn : Spawn} {child : Child}
  {arguments input : List String} {accepts : TraceEvent Float → Bool} {outcome : Outcome}

/-- A conversation that has an outcome, with a child whose output is read to its end, has read
all lines without a fault. -/
theorem converse_of_closed (hc : (child.lines s.limits.lineLength).2 = .closed)
    (h : (s.converse spawn child input accepts).2.outcome = .ok outcome) :
  ∃ r : Reading, Reading.lines accepts {} (child.texts s.limits.lineLength) = (r, none) ∧
    r.outcome child = .ok outcome ∧
    (s.converse spawn child input accepts).2.delivered = r.delivered
  := by
  obtain ⟨spawn', alive, -, heq⟩ := exists_converse_eq s spawn child input accepts
  rw [heq] at h
  rw [heq, conclude_delivered]
  cases hr : Reading.lines accepts {} (child.texts s.limits.lineLength) with
  | mk r fault =>
      rw [hr] at h
      cases fault with
      | some fault => cases h
      | none =>
          use r, rfl
          rw [judgement, hc, verdict] at h
          cases ho : r.outcome child with
          | error fault =>
              rw [ho] at h
              cases h
          | ok o =>
              rw [ho] at h
              rw [settle_eq_ok h]
              exact ⟨rfl, rfl⟩

/-- A run that has an outcome, of a child whose output is read to its end, has read all lines
without a fault. -/
theorem run_of_closed (hr : child.refused = none)
    (hc : (child.lines s.limits.lineLength).2 = .closed)
    (h : (s.run host child arguments input accepts).2.outcome = .ok outcome) :
  ∃ r : Reading, Reading.lines accepts {} (child.texts s.limits.lineLength) = (r, none) ∧
    r.outcome child = .ok outcome ∧
    (s.run host child arguments input accepts).2.delivered = r.delivered
  := by
  have hruns := runsTo_run s child input host arguments accepts
  generalize s.run host child arguments input accepts = result at hruns h ⊢
  cases hruns with
  | refused => cases h
  | unspawned => cases h
  | unreadable => cases h
  | unstarted _ _ hrefused =>
      rw [hr] at hrefused
      cases hrefused
  | started hmove =>
      obtain ⟨state, rfl⟩ := exists_eq_of_move hmove
      exact converse_of_closed (s := { s with state }) hc h

/-- The outcome of a completed program. -/
theorem outcome_of_complete {payload : Validation.Fields} {output errors : String}
    (h : (Terminal.complete payload).outcome output errors = .ok outcome) :
  ∃ success, outcome = .success success ∧ success.output = output ∧
    traceOf payload = .ok success.trace ∧
    reportedNumber (entry payload "executionTime") = .ok success.duration
  := by
  rw [Terminal.outcome] at h
  split at h
  · cases h
  · rename_i trace htrace
    split at h
    · cases h
    · rename_i duration hduration
      cases h
      exact ⟨_, rfl, rfl, htrace, hduration⟩

/-- The outcome of a program that reports an error. -/
theorem outcome_of_error {payload : Validation.Fields} {output errors : String}
    (h : (Terminal.error payload).outcome output errors = .ok outcome) :
  ∃ failure, outcome = .failure failure ∧ reportedFailure payload = .valid failure
  := by
  rw [Terminal.outcome] at h
  split at h
  · rename_i failure hfailure
    cases h
    exact ⟨failure, rfl, hfailure⟩
  · cases h

/-- What a reading of all lines has taken decides what comes of the run. -/
theorem conveys_of_read {lines : List String} {run : Run} {r : Reading}
    (hl : Reading.lines accepts {} lines = (r, none)) (ho : r.outcome child = .ok outcome)
    (hd : run.delivered = r.delivered) :
  Conveys lines run outcome
  := by
  have hr := Reading.lines_of_read hl
  have hdelivered : run.delivered = Trace.clampedFrom 0 (liveEvents lines) := by
    rw [hd, hr, Reading.delivered_foldl_after rfl, List.nil_append]
  have huntimed : run.delivered.map TraceEvent.untimed
      = (liveEvents lines).map TraceEvent.untimed := by
    rw [hdelivered, Trace.untimed_clampedFrom]
  have houtput : r.output = String.join (lines.map plainText) := by
    rw [hr, Reading.output_foldl_after, String.empty_append]
  have hterminal : r.terminal = firstTerminal lines := by
    rw [hr, Reading.terminal_foldl_after, Option.none_or]
  rw [Reading.outcome, hterminal] at ho
  cases ht : firstTerminal lines with
  | none =>
      rw [ht] at ho
      cases ho
      constructor
      case delivered => apply hdelivered
      case untimed => apply huntimed
      all_goals simp [ht, silentOutcome, failureOf]
  | some t =>
      rw [ht] at ho
      cases t with
      | complete payload =>
          obtain ⟨success, rfl, hs, htrace, hduration⟩ := outcome_of_complete ho
          constructor
          case delivered => apply hdelivered
          case untimed => apply huntimed
          all_goals simp [ht, hs, houtput, htrace, hduration]
      | error payload =>
          obtain ⟨failure, rfl, hfailure⟩ := outcome_of_error ho
          constructor
          case delivered => apply hdelivered
          case untimed => apply huntimed
          all_goals simp [ht, hfailure]

/-- A run that has an outcome, of a child whose output is read to its end, has read the whole
output, and takes from its lines the events in front of the first terminal frame, the outcome
that this frame decides, and the plain texts of all lines. -/
theorem run_conveys (host : Host) (s : Sandbox) (child : Child) (arguments input : List String)
    (accepts : TraceEvent Float → Bool) {outcome : Outcome} (hr : child.refused = none)
    (hc : (child.lines s.limits.lineLength).2 = .closed)
    (h : (s.run host child arguments input accepts).2.outcome = .ok outcome) :
  (child.lines s.limits.lineLength).1.flatten = child.output ∧
    Conveys (child.texts s.limits.lineLength) (s.run host child arguments input accepts).2 outcome
  := by
  obtain ⟨r, hl, ho, hd⟩ := run_of_closed hr hc h
  constructor
  · apply flatten_cutLines hc
  · apply conveys_of_read hl ho hd

/-- The octets of a text. -/
def octetsOf (text : String) : Octets := text.toByteArray.data.toList.map UInt8.toNat

/-- A child that writes an event behind some text, a malformed frame, and two terminal frames, of
which the second one does not count. -/
def talkative : Child :=
  { output := octetsOf
      "a__PERFSCOPE_EVENT__\x7b\"event\":\"memory\",\"data\":\x7b\"timestampMs\":7,\"rss\":1\x7d\x7d\n"
      ++ octetsOf "b__PERFSCOPE_EVENT__[]\n" ++ octetsOf "__PERFSCOPE_COMPLETE__\x7b\x7d\n"
      ++ octetsOf "c__PERFSCOPE_ERROR__\x7b\x7d\n" }

/-- What comes of the run of a talkative child. -/
theorem run_conveys_talkative :
  ∃ outcome,
    (briefly.run .bare talkative ["a.py"] [] Reading.takesAll).2.outcome = .ok outcome ∧
    (talkative.lines briefly.limits.lineLength).1.flatten = talkative.output ∧
    Conveys (talkative.texts briefly.limits.lineLength)
      (briefly.run .bare talkative ["a.py"] [] Reading.takesAll).2 outcome
  := by
  have hclosed : (talkative.lines briefly.limits.lineLength).2 = .closed := by decide +kernel
  have hok : (briefly.run .bare talkative ["a.py"] []
      Reading.takesAll).2.outcome.toOption.isSome = true := by
    decide +kernel
  cases ho : (briefly.run .bare talkative ["a.py"] [] Reading.takesAll).2.outcome with
  | error fault =>
      rw [ho] at hok
      cases hok
  | ok outcome =>
      use outcome, rfl
      apply run_conveys .bare briefly talkative ["a.py"] [] Reading.takesAll rfl hclosed ho

end Sandbox

end SnippetProfiler
