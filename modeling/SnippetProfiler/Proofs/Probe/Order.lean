import SnippetProfiler.Proofs.Probe.Recorder

/-!
# Notes in order

The notes of a recorder are in order when at most one of them is of the end, when everything that
is reported in the end is what was written before, right behind a sample of the memory if that is
tracked, and when only events of tracked kinds are written.

A recorder is orderly when its notes are in order, its record is that of the events among them,
and none of them is of the end before the end is recorded.  However it advances, it stays orderly,
whatever the clock and the meter show.

An error need not come right behind a sample: when its text is made, more may be written first.
-/

namespace SnippetProfiler.Probe

variable {σ τ : Type}

/-- Notes that are in order. -/
structure InOrder (options : TrackingOptions) (ns : List (Note τ)) : Prop where
  /-- At most one note is of the end. -/
  single : (ns.filter Note.isEnd).length ≤ 1
  /-- A program that completes does so right behind a sample of the memory, if that is tracked. -/
  completed : options.memory = true → ∀ before time record after,
    ns = before ++ .complete time record :: after →
      ∃ s, before.getLast? = some (.event (.memory s))
  /-- It reports, kind by kind, the events that were written before it. -/
  recorded : ∀ before time record after, ns = before ++ .complete time record :: after →
    record = Record.ofTrace (eventsOf before)
  /-- Only events of tracked kinds are written. -/
  tracked : ∀ e, .event e ∈ ns → options.tracks e.kind = true

/-- Each note of the end comes right behind a sample of the memory, if that is tracked. -/
def IsSampled (options : TrackingOptions) (ns : List (Note τ)) : Prop :=
  options.memory = true → ∀ before n after, ns = before ++ n :: after → n.isEnd = true →
    ∃ s, before.getLast? = some (.event (.memory s))

/-- If an error is written late, the last note before it is a sample of the memory, if that is
tracked. -/
def Late.IsSampled (options : TrackingOptions) (ns : List (Note τ)) (late : Late τ) : Prop :=
  late = .crash → options.memory = true → ∃ s, ns.getLast? = some (.event (.memory s))

variable {options : TrackingOptions} {ns : List (Note τ)}

theorem Late.isSampled_nothing :
  Late.IsSampled options ns .nothing
  := by
  rintro ⟨⟩

theorem Late.isSampled_event (kind : EventKind) (time : τ) :
  Late.IsSampled options ns (.event kind time)
  := by
  rintro ⟨⟩

theorem inOrder_nil (options : TrackingOptions) :
  InOrder options ([] : List (Note τ))
  := by
  have hnil {before after : List (Note τ)} {n : Note τ} (h : [] = before ++ n :: after) : False :=
    List.append_ne_nil_of_right_ne_nil before (List.cons_ne_nil _ _) h.symm
  constructor
  · apply Nat.zero_le
  · intro _ before time record after h
    cases hnil h
  · intro before time record after h
    cases hnil h
  · rintro e ⟨⟩

/-- Notes stay in order when an event of a tracked kind is written. -/
theorem InOrder.event (h : InOrder options ns) {e : TraceEvent τ}
    (he : options.tracks e.kind = true) :
  InOrder options (ns ++ [.event e])
  := by
  constructor
  · rw [List.filter_append, List.length_append]
    apply h.single
  · intro hm before time record after hsplit
    rcases concat_eq_append_cons hsplit with ⟨_, hn⟩ | ⟨rest, hrest⟩
    · cases hn
    · apply h.completed hm _ _ _ _ hrest
  · intro before time record after hsplit
    rcases concat_eq_append_cons hsplit with ⟨_, hn⟩ | ⟨rest, hrest⟩
    · cases hn
    · apply h.recorded _ _ _ _ hrest
  · intro d hd
    rcases List.mem_append.mp hd with hd | hd
    · apply h.tracked d hd
    · cases List.mem_singleton.mp hd
      apply he

/-- Notes stay in order when the end is written, if it was not before. -/
theorem InOrder.ending (h : InOrder options ns) {n : Note τ}
    (hnone : ∀ m ∈ ns, m.isEnd = false) (hn : n.event? = none)
    (hr : ∀ time record, n = .complete time record → record = Record.ofTrace (eventsOf ns)
      ∧ (options.memory = true → ∃ s, ns.getLast? = some (.event (.memory s)))) :
  InOrder options (ns ++ [n])
  := by
  have hlast {before after : List (Note τ)} {m : Note τ} (hm : m.isEnd = true)
      (hsplit : ns ++ [n] = before ++ m :: after) : ns = before ∧ n = m := by
    rcases concat_eq_append_cons hsplit with heq | ⟨rest, hrest⟩
    · apply heq
    · rw [hnone m (by rw [hrest]; simp)] at hm
      cases hm
  constructor
  · have hempty : ns.filter Note.isEnd = [] := by
      rw [List.filter_eq_nil_iff]
      intro m hm
      rw [hnone m hm]
      exact Bool.false_ne_true
    rw [List.filter_append, hempty]
    apply List.length_filter_le
  · intro hm before time record after hsplit
    obtain ⟨hbefore, heq⟩ := hlast rfl hsplit
    rw [← hbefore]
    apply (hr time record heq).2 hm
  · intro before time record after hsplit
    obtain ⟨hbefore, heq⟩ := hlast rfl hsplit
    rw [← hbefore]
    apply (hr time record heq).1
  · intro d hd
    rcases List.mem_append.mp hd with hd | hd
    · apply h.tracked d hd
    · rw [← List.mem_singleton.mp hd] at hn
      cases hn

theorem isSampled_nil (options : TrackingOptions) :
  IsSampled options ([] : List (Note τ))
  := by
  intro _ before n after h
  cases List.append_ne_nil_of_right_ne_nil before (List.cons_ne_nil _ _) h.symm

/-- One more note matters only if it is of the end. -/
theorem isSampled_concat (n : Note τ) :
  IsSampled options (ns ++ [n]) ↔ IsSampled options ns
    ∧ (n.isEnd = true → options.memory = true → ∃ s, ns.getLast? = some (.event (.memory s)))
  := by
  constructor
  · intro h
    constructor
    · intro hm before m after hsplit
      apply h hm before m (after ++ [n])
      rw [hsplit, List.append_assoc]
      rfl
    · intro hn hm
      apply h hm ns n [] rfl hn
  · rintro ⟨h, hlast⟩ hm before m after hsplit hend
    rcases concat_eq_append_cons hsplit with ⟨rfl, rfl⟩ | ⟨rest, hrest⟩
    · apply hlast hend hm
    · apply h hm before m rest hrest hend

namespace Recorder

/-- A recorder whose notes are in order. -/
structure IsOrderly (options : TrackingOptions) (r : Recorder σ τ) : Prop where
  tracking : r.options = options
  blocked : r.blocked = false
  refused : r.refused = false
  record : r.record = Record.ofTrace (eventsOf r.written)
  notes : InOrder options r.written
  unended : r.finished = false → r.IsUnended

variable {r s : Recorder σ τ}

/-- A recorder is orderly when it has what an orderly one has. -/
theorem IsOrderly.congr (h : r.IsOrderly options) (ho : s.options = r.options)
    (hb : s.blocked = r.blocked) (hu : s.refused = r.refused) (hr : s.record = r.record)
    (hw : s.written = r.written) (hf : s.finished = r.finished) :
  s.IsOrderly options
  := by
  constructor
  · rw [ho, h.tracking]
  · rw [hb, h.blocked]
  · rw [hu, h.refused]
  · rw [hr, hw, h.record]
  · rw [hw]
    apply h.notes
  · rw [hf, IsUnended, hw]
    apply h.unended

theorem IsOrderly.pass (h : r.IsOrderly options) (surroundings : σ) :
  ({ r with surroundings } : Recorder σ τ).IsOrderly options
  := h.congr rfl rfl rfl rfl rfl rfl

/-! ### Writing -/

theorem IsOrderly.write_eq (h : r.IsOrderly options) (n : Note τ) :
  r.write n = { r with written := r.written ++ [n] }
  := write_of_open h.blocked n

theorem IsOrderly.emit_eq (h : r.IsOrderly options) (e : TraceEvent τ) :
  r.emit e = { r with record := r.record.push e, written := r.written ++ [.event e] }
  := emit_of_open h.blocked e

/-- An event is not of the end. -/
theorem IsUnended.emit (h : r.IsUnended) (e : TraceEvent τ) :
  (r.emit e).IsUnended
  := by
  intro n hn
  simp only [Recorder.emit, Recorder.write] at hn
  split at hn
  · apply h n hn
  · rcases List.mem_append.mp hn with hn | hn
    · apply h n hn
    · rw [List.mem_singleton.mp hn]
      rfl

theorem finished_emit (r : Recorder σ τ) (e : TraceEvent τ) :
  (r.emit e).finished = r.finished
  := by
  simp only [Recorder.emit, Recorder.write]
  split
  · rfl
  · rfl

/-- Recording an event of a tracked kind keeps a recorder orderly. -/
theorem IsOrderly.emit (h : r.IsOrderly options) {e : TraceEvent τ}
    (he : options.tracks e.kind = true) :
  (r.emit e).IsOrderly options
  := by
  rw [h.emit_eq]
  constructor
  · apply h.tracking
  · apply h.blocked
  · apply h.refused
  · rw [eventsOf_append, h.record]
    symm
    apply Record.ofTrace_concat
  · apply h.notes.event he
  · intro hf
    rw [← h.emit_eq]
    apply (h.unended hf).emit

/-- Writing the end for the first time keeps a recorder orderly. -/
theorem IsOrderly.ending (h : r.IsOrderly options) {n : Note τ} (hf : r.finished = true)
    (hnone : r.IsUnended) (hn : n.event? = none)
    (hr : ∀ time record, n = .complete time record → record = r.record
      ∧ (options.memory = true → ∃ s, r.written.getLast? = some (.event (.memory s)))) :
  (r.write n).IsOrderly options
  := by
  rw [h.write_eq]
  constructor
  · apply h.tracking
  · apply h.blocked
  · apply h.refused
  · rw [eventsOf_concat_other _ hn]
    apply h.record
  · apply h.notes.ending hnone hn
    intro time record heq
    rw [← h.record]
    apply hr time record heq
  · intro hunfinished
    rw [hf] at hunfinished
    cases hunfinished

/-! ### Going on -/

theorem IsOrderly.finish (h : r.IsOrderly options) :
  ({ r with finished := true } : Recorder σ τ).IsOrderly options
  := by
  constructor
  · apply h.tracking
  · apply h.blocked
  · apply h.refused
  · apply h.record
  · apply h.notes
  · rintro ⟨⟩

variable [Quantity τ] {env : Instruments σ τ} {late : Late τ} {forced : Bool}

/-- A recorder that goes on stays orderly. -/
theorem IsOrderly.goes (h : r.IsOrderly options) (hgoes : Goes env r s) :
  s.IsOrderly options
  := by
  induction hgoes with
  | refl => exact h
  | pass _ surroundings ih => exact ih.pass surroundings
  | now _ ih => exact ih.congr rfl rfl rfl rfl rfl rfl
  | emit _ _ htracked _ ih =>
      apply ih.emit
      rw [← ih.tracking]
      apply htracked

theorem Goes.finished (hgoes : Goes env r s) :
  s.finished = r.finished
  := by
  induction hgoes with
  | refl => rfl
  | pass _ surroundings ih => exact ih
  | now _ ih => exact ih
  | emit _ _ _ _ ih => rw [finished_emit, ih]

theorem IsUnended.goes (h : r.IsUnended) (hgoes : Goes env r s) :
  s.IsUnended
  := by
  induction hgoes with
  | refl => exact h
  | pass _ surroundings ih => exact ih
  | now _ ih => exact ih
  | emit _ _ _ _ ih => apply ih.emit

/-- Events of a recorder that goes on matter to no note of the end. -/
theorem Goes.isSampled_iff (hgoes : Goes env r s) (h : r.IsOrderly options) :
  IsSampled options s.written ↔ IsSampled options r.written
  := by
  induction hgoes with
  | refl => rfl
  | pass _ surroundings ih => exact ih
  | now _ ih => exact ih
  | emit hgoes _ _ _ ih =>
      rw [(h.goes hgoes).emit_eq, isSampled_concat, ← ih]
      apply and_iff_left
      rintro ⟨⟩

/-! ### Samples -/

/-- Sampling the memory keeps a recorder orderly. -/
theorem IsOrderly.sample (h : r.IsOrderly options) (forced : Bool) :
  (r.sample env forced).IsOrderly options
  := by
  obtain heq | heq | ⟨q, s, heq, hq, -, hmemory⟩ := sample_cases r forced
  · rw [heq]
    exact h
  · rw [heq]
    exact h.congr rfl rfl rfl rfl rfl rfl
  · rw [heq]
    apply IsOrderly.emit
    · rw [hq]
      exact h.congr rfl rfl rfl rfl rfl rfl
    · rw [← h.tracking]
      apply hmemory

theorem finished_sample (r : Recorder σ τ) (forced : Bool) :
  (r.sample env forced).finished = r.finished
  := by
  obtain heq | heq | ⟨q, s, heq, hq, -⟩ := sample_cases r forced
  · rw [heq]
  · rw [heq]
    rfl
  · rw [heq, finished_emit, hq]
    rfl

theorem IsUnended.sample (h : r.IsUnended) (forced : Bool) :
  (r.sample env forced).IsUnended
  := by
  obtain heq | heq | ⟨q, s, heq, hq, -⟩ := sample_cases r forced
  · rw [heq]
    exact h
  · rw [heq]
    exact h
  · rw [heq]
    apply IsUnended.emit
    rw [hq]
    exact h

theorem IsOrderly.isSampled_sample_iff (h : r.IsOrderly options) (forced : Bool) :
  IsSampled options (r.sample env forced).written ↔ IsSampled options r.written
  := by
  obtain heq | heq | ⟨q, s, heq, hq, -⟩ := sample_cases r forced
  · rw [heq]
  · rw [heq]
    rfl
  · have horderly : q.IsOrderly options := by
      rw [hq]
      exact h.congr rfl rfl rfl rfl rfl rfl
    have hwritten : q.written = r.written := by
      rw [hq]
      rfl
    rw [heq, horderly.emit_eq, isSampled_concat, hwritten]
    apply and_iff_left
    rintro ⟨⟩

/-- A forced sample of the memory is the last note, if the memory is tracked. -/
theorem IsOrderly.getLast?_sample (h : r.IsOrderly options) (hm : options.memory = true) :
  ∃ s, (r.sample env true).written.getLast? = some (.event (.memory s))
  := by
  have hemit (s : Recorder σ τ) (hs : s.blocked = false) (e : TraceEvent τ) :
      (s.emit e).written.getLast? = some (.event e) := by
    rw [Recorder.emit, Recorder.write, hs]
    apply List.getLast?_concat
  simp only [Recorder.sample, h.tracking, hm, if_true, Bool.not_true, Bool.false_and,
    Bool.false_eq_true, if_false]
  rw [hemit]
  · exact ⟨_, rfl⟩
  · apply h.blocked

/-! ### The end -/

theorem IsOrderly.conclude_eq (h : r.IsOrderly options) :
  r.conclude env = (r.sample env true).complete env
  := by
  rw [Recorder.conclude, andThen, (h.sample true).refused]
  rfl

/-- Everything is written once more right behind a sample of the memory. -/
theorem IsOrderly.conclude (h : r.IsOrderly options) (hf : r.finished = true)
    (hnone : r.IsUnended) :
  (r.conclude env).IsOrderly options
  := by
  have hsample : ((r.sample env true).now env).2.IsOrderly options :=
    (h.sample true).congr rfl rfl rfl rfl rfl rfl
  have hfinished : (r.sample env true).finished = true := by rw [finished_sample, hf]
  rw [h.conclude_eq, complete]
  apply hsample.ending hfinished (hnone.sample true) rfl
  rintro time record ⟨⟩
  exact ⟨rfl, h.getLast?_sample⟩

theorem IsOrderly.isSampled_conclude_iff (h : r.IsOrderly options) :
  IsSampled options (r.conclude env).written ↔ IsSampled options r.written
  := by
  have hsample : ((r.sample env true).now env).2.IsOrderly options :=
    (h.sample true).congr rfl rfl rfl rfl rfl rfl
  have hwritten : ((r.sample env true).complete env).written
      = (r.sample env true).written ++ [.complete ((r.sample env true).now env).1 _] :=
    congrArg written (hsample.write_eq _)
  rw [h.conclude_eq, hwritten, isSampled_concat, ← h.isSampled_sample_iff true]
  apply and_iff_left
  intro _
  exact h.getLast?_sample

/-! ### Hooks -/

theorem IsOrderly.acts (h : r.IsOrderly options) (hacts : Acts env r late s) :
  s.IsOrderly options
  := by
  cases hacts with
  | goes hgoes => exact h.goes hgoes
  | finishes _ hgoes => exact h.finish.goes hgoes
  | event htracked _ =>
      apply (h.pass _).emit
      rw [← h.tracking]
      apply htracked
  | crash hfinished hunended crash =>
      apply h.ending hfinished hunended rfl
      rintro time record ⟨⟩

/-- A hook keeps a recorder orderly. -/
theorem IsOrderly.advance (h : r.IsOrderly options) (hadvance : Advance env r forced late s) :
  s.IsOrderly options
  := by
  cases hadvance with
  | acts hacts => exact h.acts hacts
  | samples hacts => exact (h.acts hacts).sample forced
  | completes _ hunfinished hgoes =>
      apply (h.finish.goes hgoes).conclude
      · rw [hgoes.finished]
      · exact IsUnended.goes (r := { r with finished := true }) (h.unended hunfinished) hgoes

theorem IsOrderly.isSampled_acts_iff (h : r.IsOrderly options) (hacts : Acts env r late s) :
  IsSampled options s.written
    ↔ IsSampled options r.written ∧ late.IsSampled options r.written
  := by
  cases hacts with
  | goes hgoes => rw [hgoes.isSampled_iff h, and_iff_left Late.isSampled_nothing]
  | finishes _ hgoes => rw [hgoes.isSampled_iff h.finish, and_iff_left Late.isSampled_nothing]
  | event _ _ =>
      rw [(h.pass _).emit_eq, isSampled_concat, and_iff_left (Late.isSampled_event _ _)]
      apply and_iff_left
      rintro ⟨⟩
  | crash hfinished hunended crash =>
      rw [h.write_eq, isSampled_concat, Late.IsSampled]
      simp only [Note.isEnd, true_imp_iff]

/-- After a hook, each note of the end comes right behind a sample exactly when that was so before
and an error that is written late comes right behind one. -/
theorem IsOrderly.isSampled_advance_iff (h : r.IsOrderly options)
    (hadvance : Advance env r forced late s) :
  IsSampled options s.written
    ↔ IsSampled options r.written ∧ late.IsSampled options r.written
  := by
  cases hadvance with
  | acts hacts => exact h.isSampled_acts_iff hacts
  | samples hacts =>
      rw [(h.acts hacts).isSampled_sample_iff, h.isSampled_acts_iff hacts]
  | completes _ _ hgoes =>
      rw [(h.finish.goes hgoes).isSampled_conclude_iff, hgoes.isSampled_iff h.finish,
        and_iff_left Late.isSampled_nothing]

/-- As long as the error is not written with which a program has ended, no note of the end is. -/
theorem IsUnended.advance (h : r.IsUnended) (hf : r.finished = true)
    (hadvance : Advance env r forced late s) (hlate : late ≠ .crash) :
  s.finished = true ∧ s.IsUnended
  := by
  have hacts {late : Late τ} {s : Recorder σ τ} (hacts : Acts env r late s) (hlate : late ≠ .crash) :
      s.finished = true ∧ s.IsUnended := by
    cases hacts with
    | goes hgoes => exact ⟨hgoes.finished.trans hf, h.goes hgoes⟩
    | finishes hunfinished _ =>
        rw [hf] at hunfinished
        cases hunfinished
    | @event surroundings e _ _ =>
        have hpassed : ({ r with surroundings } : Recorder σ τ).IsUnended := h
        exact ⟨(finished_emit _ _).trans hf, hpassed.emit _⟩
    | crash => cases hlate rfl
  cases hadvance with
  | acts h => exact hacts h hlate
  | samples h =>
      obtain ⟨hfinished, hunended⟩ := hacts h hlate
      exact ⟨(finished_sample _ _).trans hfinished, hunended.sample forced⟩
  | completes _ hunfinished _ =>
      rw [hf] at hunfinished
      cases hunfinished

/-- A recorder is orderly when it starts. -/
theorem isOrderly_start (env : Instruments σ τ) (scale : τ) (options : TrackingOptions)
    (surroundings : σ) :
  (start env scale options surroundings).IsOrderly options
  := by
  constructor
  · rfl
  · rfl
  · rfl
  · rfl
  · apply inOrder_nil
  · rintro - n ⟨⟩

end Recorder

end SnippetProfiler.Probe
