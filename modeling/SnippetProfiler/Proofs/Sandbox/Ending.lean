import SnippetProfiler.Proofs.Validation.Records
import SnippetProfiler.Sandbox.Basic

/-!
# Runs that end with an outcome

A run of a child ends with an outcome unless the child writes something that was not
foreseen.

* A line breaks a run when its frame is nested too deeply, or when it is an event whose
  kind is a list or an object.
* The first terminal frame has to be sound: the lists of a completed run are values that
  have items and its duration is a number, and the message, the line and the stack of an
  error are of the types that a failure has.

A child whose lines do not break the run and whose first terminal frame is sound is
orderly.  `run_ends_iff` says that the runs that end are those of orderly children whose
time has an end, and that a run that ends leaves the sandbox in a final state.
-/

namespace SnippetProfiler

open Validation (Checked)

/-- The text of a frame, behind its sentinel. -/
def Marked.body (m : Marked) : List Char := Text.dropRightWhile endsLine m.after

/-- A value that is made of other values. -/
inductive Json.IsComposite : Json → Prop where
  | list (items : List Json) : IsComposite (.arr items)
  | object (fields : List (String × Json)) : IsComposite (.obj fields)

namespace Sandbox

/-! ### Lines -/

/-- A line breaks a run when its frame is nested too deeply, or is an event whose kind is
a list or an object. -/
def Breaks (line : String) : Prop :=
  ∃ m, findSentinel line.toList = some m ∧
    ((∃ kind, Json.parse m.body = .error (.tooDeep kind)) ∨
      m.kind = .event ∧ ∃ payload, Json.parse m.body = .ok (.obj payload) ∧
        (entry payload "event").IsComposite)

/-- The terminal frame behind a sentinel. -/
def terminalAt (m : Marked) : Option Terminal :=
  match m.kind, Json.parse m.body with
  | .complete, .ok (.obj payload) => some (.complete payload)
  | .error, .ok (.obj payload) => some (.error payload)
  | _, _ => none

/-- The terminal frame of a line. -/
def terminalOf (line : String) : Option Terminal := (findSentinel line.toList).bind terminalAt

/-- The reason for which an event is refused is not foreseen exactly when its kind is a
list or an object. -/
theorem decodeEvent_unforeseen_iff (kind data : Json) :
  (∃ e, decodeEvent kind data = .error e ∧ e.isForeseen = false) ↔ kind.IsComposite
  := by
  constructor
  · rintro ⟨e, he, hf⟩
    cases kind with
    | arr items => apply Json.IsComposite.list
    | obj fields => apply Json.IsComposite.object
    | str word =>
        simp only [decodeEvent] at he
        split at he
        · cases he
          cases hf
        · split at he
          · cases he
          · cases he
            cases hf
    | null => cases he; cases hf
    | bool b => cases he; cases hf
    | int n => cases he; cases hf
    | float x => cases he; cases hf
  · rintro (items | fields)
    · use .compositeKind (.arr items), rfl
      rfl
    · use .compositeKind (.obj fields), rfl
      rfl

/-- The frame of a kind with an object is refused for a reason that is not foreseen
exactly when it is an event whose kind is a list or an object. -/
theorem frameOf_unforeseen_iff (kind : FrameKind) (payload : Validation.Fields) :
  (∃ e, frameOf kind payload = .error e ∧ e.isForeseen = false)
    ↔ kind = .event ∧ (entry payload "event").IsComposite
  := by
  cases kind with
  | event =>
      rw [← decodeEvent_unforeseen_iff _ (entry payload "data")]
      constructor
      · rintro ⟨e, he, hf⟩
        simp only [frameOf] at he
        split at he
        · cases he
        · rename_i cause hcause
          cases he
          use rfl, cause, hcause, hf
      · rintro ⟨-, cause, hcause, hf⟩
        use .event cause
        constructor
        · simp only [entry] at hcause
          simp only [frameOf, hcause]
        · apply hf
  | complete =>
      constructor
      · rintro ⟨e, he, -⟩
        cases he
      · rintro ⟨h, -⟩
        cases h
  | error =>
      constructor
      · rintro ⟨e, he, -⟩
        cases he
      · rintro ⟨h, -⟩
        cases h

/-- The frame of a text is refused for a reason that is not foreseen exactly when the
text is nested too deeply or its object is an event whose kind is a list or an object. -/
theorem readFrame_unforeseen_iff (kind : FrameKind) (body : List Char) :
  (∃ e, readFrame kind body = .error e ∧ e.isForeseen = false)
    ↔ (∃ word, Json.parse body = .error (.tooDeep word)) ∨
      kind = .event ∧ ∃ payload, Json.parse body = .ok (.obj payload) ∧
        (entry payload "event").IsComposite
  := by
  cases hp : Json.parse body with
  | error cause =>
      constructor
      · rintro ⟨e, he, hf⟩
        simp only [readFrame, hp, Except.error.injEq] at he
        subst he
        cases cause with
        | fault _ _ => cases hf
        | tooManyDigits _ => cases hf
        | tooDeep word =>
            left
            use word
      · rintro (⟨word, hw⟩ | ⟨-, payload, hw, -⟩)
        · cases hw
          use .unreadable body (.tooDeep word)
          constructor
          · simp only [readFrame, hp]
          · rfl
        · cases hw
  | ok v =>
      cases v with
      | obj fields =>
          have hread : readFrame kind body = frameOf kind fields := by
            simp only [readFrame, hp]
          rw [hread, frameOf_unforeseen_iff]
          constructor
          · rintro ⟨hk, hc⟩
            right
            use hk, fields
          · rintro (⟨word, hw⟩ | ⟨hk, payload, hw, hc⟩)
            · cases hw
            · cases hw
              use hk
      | _ =>
          constructor
          · rintro ⟨e, he, hf⟩
            simp only [readFrame, hp, Except.error.injEq] at he
            subst he
            cases hf
          · rintro (⟨word, hw⟩ | ⟨-, payload, hw, -⟩)
            · cases hw
            · cases hw

/-- A line is refused for a reason that is not foreseen exactly when it breaks a run. -/
theorem split_unforeseen_iff (line : String) :
  (∃ e, split line = .error e ∧ e.cause.isForeseen = false) ↔ Breaks line
  := by
  cases hm : findSentinel line.toList with
  | none =>
      constructor
      · rintro ⟨e, he, -⟩
        simp only [split, hm] at he
        cases he
      · rintro ⟨m, h, -⟩
        rw [hm] at h
        cases h
  | some m =>
      have hbreaks : Breaks line ↔
          ∃ e, readFrame m.kind m.body = .error e ∧ e.isForeseen = false := by
        rw [readFrame_unforeseen_iff]
        constructor
        · rintro ⟨n, hn, h⟩
          rw [hm] at hn
          cases hn
          apply h
        · intro h
          use m
      rw [hbreaks]
      constructor
      · rintro ⟨e, he, hf⟩
        simp only [split, hm] at he
        split at he
        · rename_i cause hcause
          cases he
          use cause, hcause
        · cases he
      · rintro ⟨cause, hcause, hf⟩
        use ⟨m.kind, cause, .ofList m.before⟩
        constructor
        · simp only [Marked.body] at hcause
          simp only [split, hm, hcause]
        · apply hf

/-! ### Terminal frames of lines -/

/-- The terminal frame that a part of a line is. -/
def terminalPart? : Frame → Option Terminal
  | .complete payload => some (.complete payload)
  | .error payload => some (.error payload)
  | _ => none

/-- The terminal frame behind a sentinel is the frame that is read there, if that is
terminal. -/
theorem terminalAt_eq (m : Marked) :
  terminalAt m = (readFrame m.kind m.body).toOption.bind terminalPart?
  := by
  cases hp : Json.parse m.body with
  | error cause =>
      have hread : readFrame m.kind m.body = .error (.unreadable m.body cause) := by
        simp only [readFrame, hp]
      rw [hread, terminalAt, hp]
      cases m.kind with
      | event => rfl
      | complete => rfl
      | error => rfl
  | ok v =>
      cases v with
      | obj payload =>
          have hread : readFrame m.kind m.body = frameOf m.kind payload := by
            simp only [readFrame, hp]
          rw [hread, terminalAt, hp]
          cases m.kind with
          | event =>
              simp only [frameOf]
              split
              · rfl
              · rfl
          | complete => rfl
          | error => rfl
      | _ =>
          have hread : readFrame m.kind m.body = .error .notAnObject := by
            simp only [readFrame, hp]
          rw [hread, terminalAt, hp]
          cases m.kind with
          | event => rfl
          | complete => rfl
          | error => rfl

/-- The terminal frame of a line is the first terminal part of the line. -/
theorem terminalOf_eq (line : String) :
  terminalOf line = (split line).toOption.bind (·.findSome? terminalPart?)
  := by
  cases hm : findSentinel line.toList with
  | none =>
      simp only [terminalOf, split, hm]
      rfl
  | some m =>
      simp only [terminalOf, split, hm, Option.bind_some, terminalAt_eq]
      cases hread : readFrame m.kind m.body with
      | error e =>
          simp only [Marked.body] at hread
          simp only [hread]
          rfl
      | ok frame =>
          simp only [Marked.body] at hread
          simp only [hread]
          cases hb : m.before.isEmpty with
          | true => cases frame <;> rfl
          | false => cases frame <;> rfl

/-! ### Readings -/

namespace Reading

/-- A receiver that takes every event. -/
def takesAll (_ : TraceEvent Float) : Bool := true

/-- A part of a line is read without a fault, and counts as the terminal frame when it is
one and there was none before. -/
theorem frame_takesAll (r : Reading) (f : Frame) :
  ∃ r', r.frame takesAll f = (r', none) ∧ r'.terminal = r.terminal.or (terminalPart? f)
  := by
  cases f with
  | output text =>
      use { r with output := r.output ++ text }, rfl
      simp only [terminalPart?, Option.or_none]
  | event e payload =>
      cases ht : r.terminal with
      | some t =>
          use r
          simp only [Reading.frame, deliver, ht, terminalPart?, Option.or_none, and_self]
      | none =>
          simp only [Reading.frame, deliver, ht, takesAll, if_true]
          use { r with delivered := r.delivered ++ [r.clamp e], latest := (r.clamp e).time }
          constructor
          · rw [ht]
          · apply ht
  | complete payload =>
      use r.finish (.complete payload)
      constructor
      · rfl
      · rfl
  | error payload =>
      use r.finish (.error payload)
      constructor
      · rfl
      · rfl

/-- The parts of a line are read without a fault, and the first terminal one counts when
there was none before. -/
theorem frames_takesAll (r : Reading) (fs : List Frame) :
  ∃ r', r.frames takesAll fs = (r', none) ∧
    r'.terminal = r.terminal.or (fs.findSome? terminalPart?)
  := by
  induction fs generalizing r with
  | nil =>
      use r, rfl
      simp only [List.findSome?_nil, Option.or_none]
  | cons f fs ih =>
      obtain ⟨r₁, h₁, ht₁⟩ := r.frame_takesAll f
      obtain ⟨r₂, h₂, ht₂⟩ := ih r₁
      use r₂
      constructor
      · simp only [Reading.frames, h₁, h₂]
      · rw [ht₂, ht₁, Option.or_assoc]
        congr 1
        cases hf : terminalPart? f with
        | none => simp only [List.findSome?_cons, hf, Option.none_or]
        | some t => simp only [List.findSome?_cons, hf, Option.some_or]

/-- A line that breaks a run is a fault. -/
theorem line_of_breaks (r : Reading) {line : String} (h : Breaks line) :
  ∃ cause, r.line takesAll line = (r, some (.frame cause))
  := by
  obtain ⟨e, he, hf⟩ := (split_unforeseen_iff line).mpr h
  use e.cause
  simp only [Reading.line, he, hf, Bool.false_eq_true, if_false]

/-- A line that does not break a run is read without a fault, and its terminal frame
counts when there was none before. -/
theorem line_of_not_breaks (r : Reading) {line : String} (h : ¬ Breaks line) :
  ∃ r', r.line takesAll line = (r', none) ∧ r'.terminal = r.terminal.or (terminalOf line)
  := by
  rw [terminalOf_eq]
  cases hs : split line with
  | ok fs =>
      simp only [Reading.line, hs]
      apply frames_takesAll
  | error e =>
      have hf : e.cause.isForeseen = true := by
        by_contra hn
        apply h
        apply (split_unforeseen_iff line).mp
        use e, hs
        simpa using hn
      use { r with output := r.output ++ e.output }
      constructor
      · simp only [Reading.line, hs, hf, if_true]
      · simp only [Except.toOption, Option.bind_none, Option.or_none]

/-- Lines are read without a fault when none of them breaks the run, and the first
terminal frame counts. -/
theorem lines_of_not_breaks (r : Reading) (ls : List String) (h : ∀ l ∈ ls, ¬ Breaks l) :
  ∃ r', r.lines takesAll ls = (r', none) ∧
    r'.terminal = r.terminal.or (ls.findSome? terminalOf)
  := by
  induction ls generalizing r with
  | nil =>
      use r, rfl
      simp only [List.findSome?_nil, Option.or_none]
  | cons l ls ih =>
      obtain ⟨r₁, h₁, ht₁⟩ := r.line_of_not_breaks (h l (List.mem_cons_self ..))
      obtain ⟨r₂, h₂, ht₂⟩ := ih r₁ fun k hk => h k (List.mem_cons_of_mem _ hk)
      use r₂
      constructor
      · simp only [Reading.lines, h₁, h₂]
      · rw [ht₂, ht₁, Option.or_assoc]
        congr 1
        cases hl : terminalOf l with
        | none => simp only [List.findSome?_cons, hl, Option.none_or]
        | some t => simp only [List.findSome?_cons, hl, Option.some_or]

/-- Lines of which one breaks the run are a fault. -/
theorem lines_of_breaks (r : Reading) {ls : List String} (h : ∃ l ∈ ls, Breaks l) :
  ∃ r' fault, r.lines takesAll ls = (r', some fault)
  := by
  induction ls generalizing r with
  | nil =>
      obtain ⟨l, hl, -⟩ := h
      cases hl
  | cons k ls ih =>
      by_cases hk : Breaks k
      · obtain ⟨cause, hcause⟩ := r.line_of_breaks hk
        use r, .frame cause
        simp only [Reading.lines, hcause]
      · obtain ⟨r₁, h₁, -⟩ := r.line_of_not_breaks hk
        obtain ⟨l, hl, hb⟩ := h
        have hrest : ∃ l ∈ ls, Breaks l := by
          use l
          constructor
          · rcases List.mem_cons.mp hl with rfl | hl
            · cases hk hb
            · apply hl
          · apply hb
        obtain ⟨r₂, fault, h₂⟩ := ih r₁ hrest
        use r₂, fault
        simp only [Reading.lines, h₁, h₂]

end Reading

/-! ### Sound terminal frames -/

/-- A value that has items: it counts as absent, or is a list, a text or an object. -/
inductive HasItems : Json → Prop where
  | absent {v : Json} (h : v.truthy = false) : HasItems v
  | list (items : List Json) : HasItems (.arr items)
  | text (s : String) : HasItems (.str s)
  | object (fields : List (String × Json)) : HasItems (.obj fields)

/-- A value that is a duration: it counts as absent, or is a float, a truth value, an
integer that is not too large for a float, or a text that denotes a float. -/
inductive IsDuration : Json → Prop where
  | absent {v : Json} (h : v.truthy = false) : IsDuration v
  | float (x : Float) : IsDuration (.float x)
  | truth (b : Bool) : IsDuration (.bool b)
  | integer {n : Int} {x : Float} (h : Decimal.ofInt? n = some x) : IsDuration (.int n)
  | text {s : String} {x : Float}
      (h : Decimal.readSpacedFloat? ((Validation.trim s.toList).map Text.plainDigit) = some x) :
      IsDuration (.str s)

/-- A value that is a message: it counts as absent, or is a text. -/
inductive IsMessage : Json → Prop where
  | absent {v : Json} (h : v.truthy = false) : IsMessage v
  | text (s : String) : IsMessage (.str s)

/-- A value that is the line of a failure: null, a text, or what is read as an integer. -/
inductive IsLine : Json → Prop where
  | unknown : IsLine .null
  | word (s : String) : IsLine (.str s)
  | number {v : Json} {n : Int} (h : Validation.int v = .valid n) : IsLine v

/-- A value that is a stack: null or a text. -/
inductive IsStack : Json → Prop where
  | none : IsStack .null
  | text (s : String) : IsStack (.str s)

/-- A terminal frame is sound when all that an outcome takes from its payload has a type
that an outcome allows for. -/
def Terminal.IsSound : Terminal → Prop
  | complete payload =>
    (∀ kind : EventKind, HasItems (entry payload kind.listKey)) ∧
      IsDuration (entry payload "executionTime")
  | error payload =>
    IsMessage (entry payload "message") ∧ IsLine (entry payload "line") ∧
      IsStack (entry payload "stack")

/-- The items of a value can be taken exactly when it has some. -/
theorem entries_isOk_iff (v : Json) :
  (∃ items, entries v = .ok items) ↔ HasItems v
  := by
  cases ht : v.truthy with
  | false =>
      constructor
      · intro _
        apply HasItems.absent ht
      · intro _
        use []
        simp only [entries, ht, Bool.not_false, if_true]
  | true =>
      constructor
      · rintro ⟨items, h⟩
        simp only [entries, ht, Bool.not_true, Bool.false_eq_true, if_false] at h
        cases v with
        | arr _ => apply HasItems.list
        | str _ => apply HasItems.text
        | obj _ => apply HasItems.object
        | null => cases h
        | bool _ => cases h
        | int _ => cases h
        | float _ => cases h
      · rintro (h | items | s | fields)
        · rw [ht] at h
          cases h
        · use items
          simp only [entries, ht, Bool.not_true, Bool.false_eq_true, if_false]
        · use s.toList.map fun c => .str (.singleton c)
          simp only [entries, ht, Bool.not_true, Bool.false_eq_true, if_false]
        · use fields.map fun f => .str f.1
          simp only [entries, ht, Bool.not_true, Bool.false_eq_true, if_false]

/-- The events of some kinds can be collected exactly when the values of all their keys
have items. -/
theorem collect_isOk_iff (payload : Validation.Fields) (kinds : List EventKind) :
  (∃ trace, collect payload kinds = .ok trace)
    ↔ ∀ kind ∈ kinds, HasItems (entry payload kind.listKey)
  := by
  induction kinds with
  | nil =>
      constructor
      · rintro - kind ⟨⟩
      · intro _
        use []
        rfl
  | cons kind kinds ih =>
      rw [List.forall_mem_cons, ← entries_isOk_iff, ← ih]
      constructor
      · rintro ⟨trace, h⟩
        simp only [collect] at h
        split at h
        · cases h
        · rename_i items hitems
          cases hc : collect payload kinds with
          | error e =>
              rw [hc] at h
              cases h
          | ok rest => exact ⟨⟨items, hitems⟩, rest, rfl⟩
      · rintro ⟨⟨items, hitems⟩, rest, hrest⟩
        use validEvents kind items ++ rest
        simp only [entry] at hitems
        simp only [collect, hitems, hrest]
        rfl

/-- A trace can be read from a payload exactly when the values of its four keys have
items. -/
theorem traceOf_isOk_iff (payload : Validation.Fields) :
  (∃ trace, traceOf payload = .ok trace)
    ↔ ∀ kind : EventKind, HasItems (entry payload kind.listKey)
  := by
  have hall : (∀ kind : EventKind, HasItems (entry payload kind.listKey))
      ↔ ∀ kind ∈ EventKind.all, HasItems (entry payload kind.listKey) := by
    constructor
    · intro h kind _
      apply h
    · intro h kind
      apply h
      cases kind <;> decide
  rw [hall, ← collect_isOk_iff]
  cases hc : collect payload EventKind.all with
  | error e =>
      constructor
      · rintro ⟨trace, h⟩
        simp only [traceOf, hc] at h
        cases h
      · rintro ⟨trace, h⟩
        cases h
  | ok trace =>
      constructor
      · intro _
        use trace
      · intro _
        use sortByTime trace
        simp only [traceOf, hc]
        rfl

/-- A value is read as a duration exactly when it is one. -/
theorem reportedNumber_isOk_iff (v : Json) :
  (∃ x, reportedNumber v = .ok x) ↔ IsDuration v
  := by
  cases ht : v.truthy with
  | false =>
      constructor
      · intro _
        apply IsDuration.absent ht
      · intro _
        use 0
        simp only [reportedNumber, ht, Bool.not_false, if_true]
  | true =>
      constructor
      · rintro ⟨x, h⟩
        simp only [reportedNumber, ht, Bool.not_true, Bool.false_eq_true, if_false] at h
        cases v with
        | float y => apply IsDuration.float
        | bool b => apply IsDuration.truth
        | int n =>
            simp only at h
            split at h
            · rename_i y hy
              apply IsDuration.integer hy
            · cases h
        | str s =>
            simp only at h
            split at h
            · rename_i y hy
              apply IsDuration.text hy
            · cases h
        | null => cases h
        | arr _ => cases h
        | obj _ => cases h
      · rintro (h | x | b | ⟨h⟩ | ⟨h⟩)
        · rw [ht] at h
          cases h
        · use x
          simp only [reportedNumber, ht, Bool.not_true, Bool.false_eq_true, if_false]
        · use 1
          simp only [reportedNumber, ht, Bool.not_true, Bool.false_eq_true, if_false]
        · rename_i n x
          use x
          simp only [reportedNumber, ht, Bool.not_true, Bool.false_eq_true, if_false, h]
        · rename_i s x
          use x
          simp only [reportedNumber, ht, Bool.not_true, Bool.false_eq_true, if_false, h]

/-- A text is read from a message, or from the words for an unnamed error, exactly when
the message is one. -/
theorem message_isValid_iff (v : Json) :
  (Validation.string (if v.truthy then v else .str unnamedError)).IsValid ↔ IsMessage v
  := by
  cases ht : v.truthy with
  | false =>
      constructor
      · intro _
        apply IsMessage.absent ht
      · intro _
        use unnamedError
        rfl
  | true =>
      simp only [if_true]
      constructor
      · rintro ⟨s, h⟩
        cases v with
        | str s => apply IsMessage.text
        | _ => cases h
      · rintro (h | s)
        · rw [ht] at h
          cases h
        · use s
          rfl

/-- The line of a failure is read from a value exactly when it is one. -/
theorem line_isValid_iff (v : Json) :
  (match v with
    | .null => Checked.valid (some unknownLine)
    | v => (FailureLine.read v).under (.key "source_line")).IsValid ↔ IsLine v
  := by
  cases v with
  | null =>
      constructor
      · intro _
        apply IsLine.unknown
      · intro _
        use some unknownLine
  | str s =>
      constructor
      · intro _
        apply IsLine.word
      · intro _
        use some (.word s)
        rfl
  | _ =>
      simp only [Checked.isValid_under]
      constructor
      · rintro ⟨line, h⟩
        simp only [FailureLine.read] at h
        split at h
        · rename_i n hn
          apply IsLine.number hn
        · cases h
      · rintro (⟨⟩ | ⟨⟩ | ⟨h⟩)
        rename_i n
        use some (.number n)
        simp only [FailureLine.read, h]

/-- A stack is read from a value exactly when it is one. -/
theorem stack_isValid_iff (v : Json) :
  (Validation.nullable Validation.string v).IsValid ↔ IsStack v
  := by
  cases v with
  | null =>
      constructor
      · intro _
        apply IsStack.none
      · intro _
        use Option.none
        rfl
  | str s =>
      constructor
      · intro _
        apply IsStack.text
      · intro _
        use some s
        rfl
  | _ =>
      constructor
      · rintro ⟨_, h⟩
        cases h
      · rintro ⟨⟩

/-- A terminal frame decides an outcome exactly when it is sound. -/
theorem Terminal.outcome_isOk_iff (output errors : String) (t : Terminal) :
  (∃ outcome, t.outcome output errors = .ok outcome) ↔ t.IsSound
  := by
  cases t with
  | complete payload =>
      rw [IsSound, ← traceOf_isOk_iff, ← reportedNumber_isOk_iff]
      constructor
      · rintro ⟨outcome, h⟩
        simp only [Terminal.outcome] at h
        split at h
        · cases h
        · rename_i trace htrace
          split at h
          · cases h
          · rename_i duration hduration
            exact ⟨⟨trace, htrace⟩, duration, hduration⟩
      · rintro ⟨⟨trace, htrace⟩, duration, hduration⟩
        use .success ⟨output, trace, duration, errors⟩
        simp only [Terminal.outcome, htrace, hduration]
  | error payload =>
      have hvalid : (reportedFailure payload).IsValid ↔ (error payload).IsSound := by
        simp only [reportedFailure, Checked.isValid_seq, Checked.isValid_map,
          Checked.isValid_under, message_isValid_iff, stack_isValid_iff, IsSound, and_assoc]
        apply and_congr_right
        intro _
        apply and_congr_left
        intro _
        apply line_isValid_iff
      rw [← hvalid]
      constructor
      · rintro ⟨outcome, h⟩
        simp only [Terminal.outcome] at h
        split at h
        · rename_i failure hfailure
          use failure
        · cases h
      · rintro ⟨failure, hfailure⟩
        use .failure failure
        simp only [Terminal.outcome, hfailure]

/-! ### Orderly children -/

/-- The lines that a child writes, as texts. -/
def Child.texts (child : Child) (limit : Int) : List String := (child.lines limit).1.map textOf

/-- A child is orderly when its lines may have octets, none of them breaks the run and, unless the
run is cut off, the first terminal frame is sound. -/
structure Child.IsOrderly (child : Child) (limit : Int) : Prop where
  readable : 0 < limit
  lines : ∀ line ∈ child.texts limit, ¬ Breaks line
  terminal : (child.lines limit).2 = .closed →
    ∀ t, (child.texts limit).findSome? terminalOf = some t → t.IsSound

/-- The state that an outcome leads to is final. -/
theorem finalState_isFinal (outcome : Outcome) :
  (finalState outcome).isFinal = true
  := by
  cases outcome with
  | success s => rfl
  | failure f =>
      simp only [finalState]
      split
      · rfl
      · rfl

/-- A running sandbox takes the final state of its outcome. -/
theorem settle_running (s : Sandbox) (h : s.state = .running) (outcome : Outcome) :
  s.settle outcome = ({ s with state := finalState outcome }, .ok outcome)
  := by
  have hallows : State.running.allows (finalState outcome) = true := by
    apply finalState_isFinal
  have hmove : s.state.move (finalState outcome) = .ok (finalState outcome, true) := by
    rw [h, State.move, hallows]
    rfl
  simp only [Sandbox.settle, Sandbox.move, hmove, Except.map]

/-- The outcome of a child whose output is over is there exactly when its terminal frame, if
it has any, is sound. -/
theorem outcome_isOk_iff (r : Reading) (child : Child) :
  (∃ outcome, r.outcome child = .ok outcome) ↔ ∀ t, r.terminal = some t → t.IsSound
  := by
  cases ht : r.terminal with
  | none =>
      constructor
      · rintro - t ⟨⟩
      · intro _
        simp only [Reading.outcome, ht]
        use silentOutcome child.exitCode (textOf child.errors)
  | some t =>
      simp only [Reading.outcome, ht, Terminal.outcome_isOk_iff, Option.some.injEq,
        forall_eq']

/-- The outcome of a child whose lines were read without a fault. -/
def verdict (s : Sandbox) (r : Reading) (child : Child) : OutputEnd → Except RunFault Outcome
  | .tooLong => .ok (tooLongOutcome s.limits.lineLength)
  | .outOfTime => .ok (timeoutOutcome s.limits.timeout)
  | .closed => r.outcome child

/-! ### Conversations -/

/-- What comes of the lines of a child when they have been read: a fault, or the verdict. -/
def judgement (s : Sandbox) (child : Child) : Reading × Option RunFault → Except RunFault Outcome
  | (_, some fault) => .error fault
  | (r, none) => verdict s r child (child.lines s.limits.lineLength).2

/-- A sandbox settles on an outcome, and stays as it is behind a fault. -/
def conclude (s : Sandbox) (delivered : Trace Float) :
    Except RunFault Outcome → Sandbox × Run
  | .error fault => (s, ⟨delivered, .error fault⟩)
  | .ok outcome => ((s.settle outcome).1, ⟨delivered, (s.settle outcome).2⟩)

theorem conclude_delivered (s : Sandbox) (delivered : Trace Float)
    (result : Except RunFault Outcome) :
  (s.conclude delivered result).2.delivered = delivered
  := by
  cases result with
  | error fault => rfl
  | ok outcome => rfl

theorem conclude_running (s : Sandbox) (h : s.state = .running) (delivered : Trace Float)
    (outcome : Outcome) :
  s.conclude delivered (.ok outcome)
    = ({ s with state := finalState outcome }, ⟨delivered, .ok outcome⟩)
  := by rw [conclude, settle_running s h]

variable (s : Sandbox) (spawn : Spawn) (child : Child) (input : List String)

/-- A conversation is with a child that has started, delivers what is delivered when its lines are read,
and concludes with what comes of them. -/
theorem exists_converse_eq (accepts : TraceEvent Float → Bool) :
  ∃ spawn' alive, spawn'.sent.isSome = true ∧
    s.converse spawn child input accepts =
      ({ s with spawns := s.spawns ++ [spawn'], alive } : Sandbox).conclude
        (Reading.lines accepts {} (child.texts s.limits.lineLength)).1.delivered
        (judgement s child (Reading.lines accepts {} (child.texts s.limits.lineLength)))
  := by
  rw [Child.texts]
  cases hl : child.lines s.limits.lineLength with
  | mk lines ending =>
      cases hr : Reading.lines accepts {} (lines.map textOf) with
      | mk r fault =>
          simp only [Sandbox.converse, hl, hr]
          cases fault with
          | some fault => exact ⟨{ spawn with sent := some "" }, true, rfl, rfl⟩
          | none =>
              rw [judgement, hl]
              cases ending with
              | tooLong => exact ⟨{ spawn with sent := some _, killed := true }, false, rfl, rfl⟩
              | outOfTime => exact ⟨{ spawn with sent := some _, killed := true }, false, rfl, rfl⟩
              | closed =>
                  rw [verdict]
                  cases r.outcome child with
                  | error fault => exact ⟨{ spawn with sent := some _ }, false, rfl, rfl⟩
                  | ok outcome => exact ⟨{ spawn with sent := some _ }, false, rfl, rfl⟩

/-- In a running sandbox a conversation gives what comes of the lines of the child. -/
theorem converse_outcome (hs : s.state = .running) (accepts : TraceEvent Float → Bool) :
  (s.converse spawn child input accepts).2.outcome
    = judgement s child (Reading.lines accepts {} (child.texts s.limits.lineLength))
  := by
  obtain ⟨spawn', alive, -, heq⟩ := exists_converse_eq s spawn child input accepts
  rw [heq]
  cases judgement s child _ with
  | error fault => rfl
  | ok outcome =>
      rw [conclude_running]
      exact hs

/-- The conversation with a child whose lines may have octets has an outcome exactly when the child
is orderly. -/
theorem converse_isOk_iff (hs : s.state = .running) (hlimit : 0 < s.limits.lineLength) :
  (∃ outcome, (s.converse spawn child input Reading.takesAll).2.outcome = .ok outcome)
    ↔ child.IsOrderly s.limits.lineLength
  := by
  rw [converse_outcome s spawn child input hs]
  by_cases hb : ∃ line ∈ child.texts s.limits.lineLength, Breaks line
  · obtain ⟨r, fault, hr⟩ := Reading.lines_of_breaks {} hb
    rw [hr, judgement]
    constructor
    · rintro ⟨outcome, ⟨⟩⟩
    · intro h
      obtain ⟨line, hline, hbreaks⟩ := hb
      cases h.lines line hline hbreaks
  · have hlines : ∀ line ∈ child.texts s.limits.lineLength, ¬ Breaks line := by
      intro line hline hbreaks
      apply hb
      use line
    obtain ⟨r, hr, ht⟩ := Reading.lines_of_not_breaks {} _ hlines
    rw [hr, judgement]
    have hiff : child.IsOrderly s.limits.lineLength ↔
        ((child.lines s.limits.lineLength).2 = .closed → ∀ t, r.terminal = some t → t.IsSound) := by
      rw [ht]
      constructor
      · intro h
        apply h.terminal
      · intro h
        exact ⟨hlimit, hlines, h⟩
    rw [hiff]
    cases (child.lines s.limits.lineLength).2 with
    | tooLong =>
        constructor
        · rintro - ⟨⟩
        · intro _
          use tooLongOutcome s.limits.lineLength
          rfl
    | outOfTime =>
        constructor
        · rintro - ⟨⟩
        · intro _
          use timeoutOutcome s.limits.timeout
          rfl
    | closed =>
        rw [verdict, outcome_isOk_iff]
        constructor
        · intro h _
          apply h
        · intro h
          apply h rfl

/-- An outcome of the conversation with a child decides the state of the sandbox. -/
theorem converse_state (hs : s.state = .running) {accepts : TraceEvent Float → Bool}
    {outcome : Outcome} (h : (s.converse spawn child input accepts).2.outcome = .ok outcome) :
  (s.converse spawn child input accepts).1.state = finalState outcome
  := by
  rw [converse_outcome s spawn child input hs] at h
  obtain ⟨spawn', alive, -, heq⟩ := exists_converse_eq s spawn child input accepts
  rw [heq, h, conclude_running]
  exact hs

/-! ### Commands -/

/-- Whether a system can start a command as a child with some limits: the command names a program,
its words have no null characters, and the child can be limited. -/
structure Host.Starts (host : Host) (l : Limits) (arguments : List String) : Prop where
  named : arguments ≠ []
  plain : ∀ word ∈ arguments, '\x00' ∉ word.toList
  limited : ∃ bounds, host.bounds? l = some bounds

variable {host : Host} {arguments : List String}

theorem plain_iff (arguments : List String) :
  (arguments.any fun word => word.toList.contains '\x00') = false
    ↔ ∀ word ∈ arguments, '\x00' ∉ word.toList
  := by simp only [List.any_eq_false, List.contains_iff_mem]

/-- A child is asked for only when the directory is there and the system can start the command, and
it has not started then. -/
theorem starts_of_spawn {spawn : Spawn} (h : s.spawn host arguments input = .ok spawn) :
  s.files.isSome = true ∧ host.Starts s.limits arguments ∧ spawn.sent = none
  := by
  rw [Sandbox.spawn] at h
  split at h
  · cases h
  · rename_i hnamed
    split at h
    · cases h
    · rename_i hthere
      split at h
      · cases h
      · rename_i hplain
        split at h
        · cases h
        · rename_i bounds hbounds
          cases h
          refine ⟨?_, ⟨?_, ?_, bounds, hbounds⟩, rfl⟩
          · apply Option.ne_none_iff_isSome.mp
            apply mt Option.isNone_iff_eq_none.mpr hthere
          · intro hempty
            apply hnamed
            rw [hempty]
            rfl
          · apply (plain_iff arguments).mp
            apply Bool.not_eq_true _ ▸ hplain

/-- A child is asked for when the directory is there and the system can start the command. -/
theorem exists_spawn (hthere : s.files.isSome = true) (h : host.Starts s.limits arguments) :
  ∃ spawn, s.spawn host arguments input = .ok spawn
  := by
  obtain ⟨bounds, hbounds⟩ := h.limited
  have hgone : s.files.isNone = false := by
    rw [← Option.not_isSome, hthere]
    rfl
  have hnamed : arguments.isEmpty = false := by
    rw [List.isEmpty_eq_false_iff]
    apply h.named
  rw [Sandbox.spawn, hnamed, hgone, (plain_iff arguments).mpr h.plain, hbounds]
  exact ⟨_, rfl⟩

/-- A child is asked for exactly when the directory is there and the system can start the
command. -/
theorem spawn_isOk_iff :
  (∃ spawn, s.spawn host arguments input = .ok spawn) ↔
    s.files.isSome = true ∧ host.Starts s.limits arguments
  := by
  constructor
  · rintro ⟨spawn, h⟩
    obtain ⟨hthere, hstarts, -⟩ := starts_of_spawn s input h
    exact ⟨hthere, hstarts⟩
  · rintro ⟨hthere, hstarts⟩
    apply exists_spawn s input hthere hstarts

/-! ### Runs -/

/-- What a run can come to: it is refused, or its command cannot be started, or the program is not
started by the system, or its output cannot be read, or it is a conversation with a child. -/
inductive RunsTo (host : Host) (arguments : List String) (accepts : TraceEvent Float → Bool) :
    Sandbox × Run → Prop
  | refused {e : IllegalMove} (hmove : s.move .running = .error e) :
      RunsTo host arguments accepts (s, ⟨[], .error (.move e)⟩)
  | unspawned {t : Sandbox} {heeded : Bool} {e : SpawnError}
      (hmove : s.move .running = .ok (t, heeded))
      (hspawn : s.spawn host arguments input = .error e) :
      RunsTo host arguments accepts (t, ⟨[], .error (.spawn e)⟩)
  | unstarted {t : Sandbox} {heeded : Bool} {e : StartError} {spawn : Spawn}
      (hmove : s.move .running = .ok (t, heeded))
      (hspawn : s.spawn host arguments input = .ok spawn) (hrefused : child.refused = some e)
      (outcome : Outcome) :
      RunsTo host arguments accepts
        (({ t with spawns := t.spawns ++ [spawn] } : Sandbox).conclude [] (.ok outcome))
  | unreadable {t : Sandbox} {heeded : Bool} {spawn : Spawn}
      (hmove : s.move .running = .ok (t, heeded))
      (hspawn : s.spawn host arguments input = .ok spawn) (hstarts : child.refused = none)
      (hlimit : ¬ 0 < s.limits.lineLength) :
      RunsTo host arguments accepts
        ({ t with spawns := t.spawns ++ [{ spawn with sent := some "" }], alive := true },
          ⟨[], .error .unreadable⟩)
  | started {t : Sandbox} {heeded : Bool} {spawn : Spawn}
      (hmove : s.move .running = .ok (t, heeded))
      (hspawn : s.spawn host arguments input = .ok spawn) (hstarts : child.refused = none)
      (hlimit : 0 < s.limits.lineLength) :
      RunsTo host arguments accepts (t.converse spawn child input accepts)

/-- A request for a state changes no more than the state. -/
theorem exists_eq_of_move {s t : Sandbox} {new : State} {heeded : Bool}
    (h : s.move new = .ok (t, heeded)) :
  ∃ state, t = { s with state }
  := by
  rw [Sandbox.move] at h
  cases hs : s.state.move new with
  | error e =>
      rw [hs] at h
      cases h
  | ok result =>
      rw [hs] at h
      cases h
      exact ⟨result.1, rfl⟩

theorem runsTo_run (host : Host) (arguments : List String) (accepts : TraceEvent Float → Bool) :
  RunsTo s child input host arguments accepts (s.run host child arguments input accepts)
  := by
  rw [Sandbox.run]
  split
  · rename_i hmove
    exact .refused hmove
  · rename_i hmove
    obtain ⟨state, rfl⟩ := exists_eq_of_move hmove
    split
    · rename_i hspawn
      exact .unspawned hmove hspawn
    · rename_i hspawn
      split
      · rename_i hrefused
        exact .unstarted hmove hspawn hrefused _
      · rename_i hstarts
        split
        · rename_i hlimit
          exact .started hmove hspawn hstarts hlimit
        · rename_i hlimit
          exact .unreadable hmove hspawn hstarts hlimit

theorem move_instrumented (hs : s.state = .instrumented) :
  s.move .running = .ok ({ s with state := .running }, true)
  := by
  rw [Sandbox.move, hs]
  rfl

/-- A run of an instrumented sandbox with a receiver that takes every event has an outcome
exactly when the directory is there, the system can start the command, and the child, if it
starts, is orderly. -/
theorem run_isOk_iff (host : Host) (arguments : List String) (hs : s.state = .instrumented) :
  (∃ outcome, (s.run host child arguments input Reading.takesAll).2.outcome = .ok outcome)
    ↔ s.files.isSome = true ∧ host.Starts s.limits arguments ∧
      (child.refused = none → child.IsOrderly s.limits.lineLength)
  := by
  have hmoves := move_instrumented s hs
  have hruns := runsTo_run s child input host arguments Reading.takesAll
  generalize s.run host child arguments input Reading.takesAll = result at hruns ⊢
  rw [← and_assoc, ← spawn_isOk_iff s input]
  cases hruns with
  | refused hmove =>
      rw [hmoves] at hmove
      cases hmove
  | unspawned hmove hspawn =>
      rw [hspawn]
      constructor
      · rintro ⟨outcome, ⟨⟩⟩
      · rintro ⟨⟨spawn, ⟨⟩⟩, -⟩
  | unstarted hmove hspawn hrefused outcome =>
      rw [hmoves] at hmove
      cases hmove
      rw [conclude_running _ rfl]
      constructor
      · intro _
        use ⟨_, hspawn⟩
        intro hstarts
        rw [hrefused] at hstarts
        cases hstarts
      · intro _
        use outcome
  | unreadable hmove hspawn hstarts hlimit =>
      constructor
      · rintro ⟨outcome, ⟨⟩⟩
      · rintro ⟨-, horderly⟩
        cases hlimit (horderly hstarts).readable
  | started hmove hspawn hstarts hlimit =>
      rw [hmoves] at hmove
      cases hmove
      rw [converse_isOk_iff { s with state := .running } _ _ _ rfl hlimit]
      constructor
      · intro horderly
        exact ⟨⟨_, hspawn⟩, fun _ => horderly⟩
      · rintro ⟨-, horderly⟩
        exact horderly hstarts

/-- A run of an instrumented sandbox that has an outcome leaves the sandbox in the state that
the outcome leads to. -/
theorem run_state (host : Host) (arguments : List String) (hs : s.state = .instrumented)
    {accepts : TraceEvent Float → Bool} {outcome : Outcome}
    (h : (s.run host child arguments input accepts).2.outcome = .ok outcome) :
  (s.run host child arguments input accepts).1.state = finalState outcome
  := by
  have hmoves := move_instrumented s hs
  have hruns := runsTo_run s child input host arguments accepts
  generalize s.run host child arguments input accepts = result at hruns h ⊢
  cases hruns with
  | refused => cases h
  | unspawned => cases h
  | unreadable => cases h
  | unstarted hmove hspawn hrefused outcome =>
      rw [hmoves] at hmove
      cases hmove
      rw [conclude_running _ rfl] at h ⊢
      cases h
      rfl
  | started hmove =>
      rw [hmoves] at hmove
      cases hmove
      apply converse_state _ _ _ _ rfl h

/-- A run of an instrumented sandbox with a receiver that takes every event ends with an outcome
exactly when the directory is there, the system can start the command as a child with the limits of
the sandbox, and the child, if it starts, is orderly; and then the sandbox is in a final state. -/
theorem run_ends_iff (host : Host) (s : Sandbox) (child : Child) (arguments input : List String)
    (accepts : TraceEvent Float → Bool) (hs : s.state = .instrumented)
    (ha : ∀ e, accepts e = true) :
  ((∃ outcome, (s.run host child arguments input accepts).2.outcome = .ok outcome)
      ↔ s.files.isSome = true ∧ host.Starts s.limits arguments ∧
        (child.refused = none → child.IsOrderly s.limits.lineLength)) ∧
    ∀ outcome, (s.run host child arguments input accepts).2.outcome = .ok outcome →
      (s.run host child arguments input accepts).1.state = finalState outcome ∧
        (finalState outcome).isFinal = true
  := by
  obtain rfl : accepts = Reading.takesAll := funext ha
  constructor
  · apply run_isOk_iff _ _ _ _ _ hs
  · intro outcome h
    constructor
    · apply run_state _ _ _ _ _ hs h
    · apply finalState_isFinal

/-- A system with no directories of programs. -/
def Host.bare : Host := { path := "" }

/-- A sandbox with a program that may run for a second. -/
def briefly : Sandbox := { directory := "", limits := { timeout := 1 }, state := .instrumented }

/-- A system that starts a program for a second. -/
theorem starts_briefly :
  Host.bare.Starts briefly.limits ["a.py"]
  := by
  constructor
  · apply List.cons_ne_nil
  · decide
  · apply Option.isSome_iff_exists.mp
    decide +kernel

/-- A silent child is orderly, and its run ends. -/
theorem run_ends_silent :
  ∃ outcome, (briefly.run .bare {} ["a.py"] [] Reading.takesAll).2.outcome = .ok outcome
  := by
  have h := run_ends_iff .bare briefly {} ["a.py"] [] Reading.takesAll rfl fun _ => rfl
  apply h.1.mpr
  refine ⟨rfl, starts_briefly, fun _ => ?_⟩
  constructor
  · decide
  · rintro line ⟨⟩
  · rintro - t ⟨⟩

/-- A child that writes an event whose kind is a list. -/
def listing : Child :=
  { output := "__PERFSCOPE_EVENT__\x7b\"event\": []\x7d\n".toList.map Char.toNat }

/-- Not every run ends with an outcome: the kind of an event may be a list. -/
theorem run_not_always_ends :
  ¬ ∀ (host : Host) (s : Sandbox) (child : Child) (arguments input : List String)
      (accepts : TraceEvent Float → Bool), s.state = .instrumented → s.files.isSome = true →
        host.Starts s.limits arguments → (∀ e, accepts e = true) →
          ∃ outcome, (s.run host child arguments input accepts).2.outcome = .ok outcome
  := by
  intro h
  obtain ⟨outcome, ho⟩ := h .bare briefly listing ["a.py"] [] Reading.takesAll rfl rfl
    starts_briefly fun _ => rfl
  have hnone : (briefly.run .bare listing ["a.py"] []
      Reading.takesAll).2.outcome.toOption.isNone = true := by
    decide +kernel
  rw [ho] at hnone
  cases hnone

end Sandbox

end SnippetProfiler
