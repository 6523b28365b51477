import Mathlib.Logic.Relation
import SnippetProfiler.Feed.Basic

/-!
# Following a feed

Whoever tells of a run calls its feed, and any number of followers read the feed.  A schedule is
any order of calls, of new followers, and of steps of followers.

In whatever order they come, a feed is finished by its last message, and a follower that waits
has got every message there is: no call passes it unnoticed, though all followers clear the same
flag.
-/

namespace SnippetProfiler

open Relation (ReflTransGen)

namespace Feed

/-! ### Calls -/

/-- A call of the one who tells of a run. -/
inductive Call where
  | progress (stage status : String)
  | update (event : TraceEvent Float)
  | complete (report : RunReport)
  | error (text : String)

/-- A feed after a call. -/
def call (f : Feed) : Call → Feed
  | .progress stage status => f.progress stage status
  | .update event => f.update event
  | .complete report => (f.complete report).1
  | .error text => f.error text

variable {f g : Feed}

theorem push_of_finished (h : f.finished = true) (m : Message) :
  f.push m = f
  := by
  rw [push, h]
  rfl

/-- The feed with a message added, which finishes it if it is final. -/
def add (f : Feed) (m : Message) : Feed :=
  { f.push m with finished := m.isFinal }

/-- The last message for a report is final. -/
theorem isFinal_lastMessage {report : RunReport} {m : Message} (h : lastMessage report = .ok m) :
  m.isFinal = true
  := by
  rw [lastMessage] at h
  split at h
  · cases h
    rfl
  · cases h
    rfl
  · cases h

/-- What a call can be for a feed that is not finished: it adds a message, which is final exactly
if the feed is finished then; or it does no more than bring a report. -/
theorem call_of_open (h : f.finished = false) (c : Call) :
  (∃ report m, f.call c = ({ f with report } : Feed).add m) ∨
  (∃ report, f.call c = { f with report })
  := by
  have hpush : ∀ m : Message, m.isFinal = false →
      f.push m = ({ f with report := f.report } : Feed).add m := by
    intro m hm
    simp only [add, push, h, hm, Bool.false_eq_true, if_false]
  cases c with
  | progress stage status =>
      left
      exact ⟨f.report, .progress stage status, hpush _ rfl⟩
  | update event =>
      left
      exact ⟨f.report, .update event, hpush _ rfl⟩
  | error text =>
      left
      exact ⟨f.report, .error text, rfl⟩
  | complete report =>
      simp only [call, complete]
      cases hm : lastMessage report with
      | ok m =>
          left
          use some report, m
          simp only [finish, add, isFinal_lastMessage hm]
      | error e =>
          right
          use some report

/-- A call does no more to a finished feed than bring a report. -/
theorem call_of_finished (h : f.finished = true) (c : Call) :
  ∃ report, f.call c = { f with report }
  := by
  cases c with
  | progress stage status =>
      use f.report
      apply push_of_finished h
  | update event =>
      use f.report
      apply push_of_finished h
  | error text =>
      use f.report
      simp only [call, error, finish, push_of_finished h, ← h]
  | complete report =>
      use some report
      simp only [call, complete]
      cases hm : lastMessage report with
      | ok m =>
          have hpush := push_of_finished (f := { f with report := some report }) h m
          simp only [finish, hpush, ← h]
      | error e => rfl

/-! ### Steps -/

/-- A step of a reader: a new follower comes, or a follower goes on. -/
inductive Reads (f g : Feed) : Prop where
  | follow (h : g = f.follow)
  | follower (number : Nat) (h : f.followerStep? number = some g)

/-- A step of a feed: a call, or a step of a reader. -/
inductive Step (f g : Feed) : Prop where
  | call (c : Call) (h : g = f.call c)
  | reads (h : Reads f g)

/-- What a step of a follower can be: it clears the flag, yields the next message, or looks what
to do when there is none. -/
theorem step?_cases {w v : Follower} {changed : Bool} (h : f.step? w = some (v, changed)) :
  (w.mood = .ready ∧ v = { w with mood := .reading } ∧ changed = false) ∨
  (∃ m, w.mood = .reading ∧ f.messages[w.yielded.length]? = some m ∧
    v = { w with yielded := w.yielded ++ [m] } ∧ changed = f.changed) ∨
  (∃ mood, w.mood = .reading ∧ f.messages[w.yielded.length]? = none ∧
    v = { w with mood } ∧ changed = f.changed ∧
    (mood = .ready ∨ (mood = .ended ∧ f.finished = true) ∨
      (mood = .waiting ∧ f.finished = false ∧ f.changed = false)))
  := by
  rw [step?] at h
  split at h
  · rename_i hmood
    cases h
    exact .inl ⟨hmood, rfl, rfl⟩
  · rename_i hmood
    split at h
    · rename_i m hm
      cases h
      exact .inr (.inl ⟨m, hmood, hm, rfl, rfl⟩)
    · rename_i hnone
      right
      right
      split at h
      · rename_i hfinished
        cases h
        exact ⟨.ended, hmood, hnone, rfl, rfl, .inr (.inl ⟨rfl, hfinished⟩)⟩
      · rename_i hopen
        split at h
        · cases h
          exact ⟨.ready, hmood, hnone, rfl, rfl, .inl rfl⟩
        · rename_i hchanged
          cases h
          exact ⟨.waiting, hmood, hnone, rfl, rfl,
            .inr (.inr ⟨rfl, Bool.not_eq_true _ ▸ hopen, Bool.not_eq_true _ ▸ hchanged⟩)⟩
  · cases h
  · cases h

theorem followerStep?_eq_some {number : Nat} (h : f.followerStep? number = some g) :
  ∃ w v changed, f.followers[number]? = some w ∧ f.step? w = some (v, changed) ∧
    g = { f with changed, followers := f.followers.set number v }
  := by
  rw [followerStep?] at h
  split at h
  · cases h
  · rename_i w hw
    obtain ⟨⟨v, changed⟩, hv, rfl⟩ := Option.map_eq_some_iff.mp h
    exact ⟨w, v, changed, hw, hv, rfl⟩

/-! ### Sound feeds -/

/-- What holds of a feed in every schedule. -/
structure IsSound (f : Feed) : Prop where
  /-- Nothing is behind a final message. -/
  onlyLast : ∀ before m after, f.messages = before ++ m :: after → m.isFinal = true → after = []
  finished_iff : f.finished = true ↔ ∃ m ∈ f.messages, m.isFinal = true
  isPrefix : ∀ w ∈ f.followers, w.yielded <+: f.messages
  /-- A follower that waits has got everything, and there is no more to come without a call that
  sets the flag. -/
  waiting : ∀ w ∈ f.followers, w.mood = .waiting →
    w.yielded = f.messages ∧ f.finished = false ∧ f.changed = false
  ended : ∀ w ∈ f.followers, w.mood = .ended → w.yielded = f.messages ∧ f.finished = true

theorem isSound_new (id : String) :
  IsSound { id }
  := by
  constructor
  · intro before m after h
    simp at h
  · simp
  · rintro w ⟨⟩
  · rintro w ⟨⟩
  · rintro w ⟨⟩

theorem IsSound.report (h : f.IsSound) (report : Option RunReport) :
  IsSound { f with report }
  := ⟨h.onlyLast, h.finished_iff, h.isPrefix, h.waiting, h.ended⟩

/-- Adding a message to a feed that is not finished wakes all who wait. -/
theorem IsSound.mem_followers_add (h : f.IsSound) (hopen : f.finished = false) {m : Message}
    {w : Follower} (hw : w ∈ (f.add m).followers) :
  w.mood ≠ .waiting ∧ w.mood ≠ .ended ∧ ∃ v ∈ f.followers, w.yielded = v.yielded
  := by
  have hrunning : ∀ v ∈ f.followers, v.mood ≠ .ended := by
    intro v hv hended
    rw [(h.ended v hv hended).2] at hopen
    cases hopen
  simp only [add, push, hopen, Bool.false_eq_true, if_false] at hw
  cases hchanged : f.changed with
  | true =>
      rw [hchanged, if_pos rfl] at hw
      refine ⟨?_, hrunning w hw, w, hw, rfl⟩
      intro hwaiting
      rw [(h.waiting w hw hwaiting).2.2] at hchanged
      cases hchanged
  | false =>
      rw [hchanged, if_neg Bool.false_ne_true] at hw
      obtain ⟨v, hv, rfl⟩ := List.mem_map.mp hw
      have hv' := hrunning v hv
      refine ⟨?_, ?_, v, hv, rfl⟩
      · simp only [Follower.wake]
        split
        · rintro ⟨⟩
        · assumption
      · simp only [Follower.wake]
        split
        · rintro ⟨⟩
        · apply hv'

theorem messages_add (hopen : f.finished = false) (m : Message) :
  (f.add m).messages = f.messages ++ [m]
  := by
  simp only [add, push, hopen, Bool.false_eq_true, if_false]

/-- A feed that is not finished takes a message. -/
theorem IsSound.add (h : f.IsSound) (hopen : f.finished = false) (m : Message) :
  (f.add m).IsSound
  := by
  have hfinal : ∀ x ∈ f.messages, x.isFinal = false := by
    intro x hx
    rw [← Bool.not_eq_true]
    intro hfinal
    rw [h.finished_iff.mpr ⟨x, hx, hfinal⟩] at hopen
    cases hopen
  constructor
  · intro before x after hsplit hx
    rw [messages_add hopen] at hsplit
    cases List.eq_nil_or_concat after with
    | inl hnil => apply hnil
    | inr hlast =>
        obtain ⟨rest, last, rfl⟩ := hlast
        rw [List.concat_eq_append, ← List.cons_append, ← List.append_assoc] at hsplit
        obtain ⟨hmessages, -⟩ := List.append_inj' hsplit rfl
        have hmem : x ∈ f.messages := by simp [hmessages]
        rw [hfinal x hmem] at hx
        cases hx
  · rw [messages_add hopen]
    constructor
    · intro hm
      exact ⟨m, by simp, hm⟩
    · rintro ⟨x, hx, hx'⟩
      rw [List.mem_append, List.mem_singleton] at hx
      rcases hx with hx | rfl
      · rw [hfinal x hx] at hx'
        cases hx'
      · apply hx'
  · intro w hw
    obtain ⟨-, -, v, hv, hyielded⟩ := h.mem_followers_add hopen hw
    rw [messages_add hopen, hyielded]
    apply (h.isPrefix v hv).trans
    apply List.prefix_append
  · intro w hw hwaiting
    cases (h.mem_followers_add hopen hw).1 hwaiting
  · intro w hw hended
    cases (h.mem_followers_add hopen hw).2.1 hended

theorem IsSound.call (h : f.IsSound) (c : Call) :
  (f.call c).IsSound
  := by
  cases hf : f.finished with
  | true =>
      obtain ⟨report, hc⟩ := call_of_finished hf c
      rw [hc]
      apply h.report
  | false =>
      obtain ⟨report, m, hc⟩ | ⟨report, hc⟩ := call_of_open hf c
      · rw [hc]
        apply (h.report report).add hf
      · rw [hc]
        apply h.report

theorem IsSound.follow (h : f.IsSound) :
  f.follow.IsSound
  := by
  have hmem : ∀ w ∈ f.follow.followers, w ∈ f.followers ∨ w = {} := by
    intro w hw
    simpa [Feed.follow] using hw
  constructor
  · apply h.onlyLast
  · apply h.finished_iff
  · intro w hw
    rcases hmem w hw with hw | rfl
    · apply h.isPrefix w hw
    · apply List.nil_prefix
  · intro w hw hwaiting
    rcases hmem w hw with hw | rfl
    · apply h.waiting w hw hwaiting
    · cases hwaiting
  · intro w hw hended
    rcases hmem w hw with hw | rfl
    · apply h.ended w hw hended
    · cases hended

/-- A follower that has got a first part of the messages, and finds no other message, has got
all. -/
theorem IsSound.yielded_eq (h : f.IsSound) {w : Follower} (hw : w ∈ f.followers)
    (hnone : f.messages[w.yielded.length]? = none) :
  w.yielded = f.messages
  := by
  apply (h.isPrefix w hw).eq_of_length_le
  apply List.getElem?_eq_none_iff.mp hnone

/-- A follower that has got a first part of the messages gets the next one. -/
theorem IsSound.yielded_concat (h : f.IsSound) {w : Follower} (hw : w ∈ f.followers) {m : Message}
    (hm : f.messages[w.yielded.length]? = some m) :
  w.yielded ++ [m] <+: f.messages
  := by
  obtain ⟨rest, hrest⟩ := h.isPrefix w hw
  rw [← hrest, List.getElem?_append_right (Nat.le_refl _), Nat.sub_self] at hm
  cases rest with
  | nil => cases hm
  | cons x rest =>
      cases hm
      use rest
      rw [← hrest, List.append_assoc, List.singleton_append]

theorem IsSound.followerStep (h : f.IsSound) {number : Nat} (hg : f.followerStep? number = some g) :
  g.IsSound
  := by
  obtain ⟨w, v, changed, hw, hv, rfl⟩ := followerStep?_eq_some hg
  have hmem := List.mem_of_getElem? hw
  have hchanged : f.changed = false → changed = false := by
    obtain ⟨-, -, h'⟩ | ⟨_, -, -, -, h'⟩ | ⟨_, -, -, -, h', -⟩ := step?_cases hv
    · intro _
      apply h'
    · intro hf
      rw [h', hf]
    · intro hf
      rw [h', hf]
  constructor
  · apply h.onlyLast
  · apply h.finished_iff
  · intro u hu
    rcases List.mem_or_eq_of_mem_set hu with hu | rfl
    · apply h.isPrefix u hu
    · obtain ⟨-, rfl, -⟩ | ⟨m, -, hm, rfl, -⟩ | ⟨mood, -, hnone, rfl, -⟩ := step?_cases hv
      · apply h.isPrefix w hmem
      · apply h.yielded_concat hmem hm
      · apply h.isPrefix w hmem
  · intro u hu hwaiting
    rcases List.mem_or_eq_of_mem_set hu with hu | rfl
    · obtain ⟨hyielded, hopen, hflag⟩ := h.waiting u hu hwaiting
      exact ⟨hyielded, hopen, hchanged hflag⟩
    · obtain ⟨-, rfl, -⟩ | ⟨m, hmood, -, rfl, -⟩ | ⟨mood, -, hnone, rfl, -, hlook⟩ := step?_cases hv
      · cases hwaiting
      · rw [hmood] at hwaiting
        cases hwaiting
      · obtain rfl | ⟨rfl, -⟩ | ⟨-, hopen, hflag⟩ := hlook
        · cases hwaiting
        · cases hwaiting
        · have hall := h.yielded_eq hmem hnone
          exact ⟨hall, hopen, hchanged hflag⟩
  · intro u hu hended
    rcases List.mem_or_eq_of_mem_set hu with hu | rfl
    · apply h.ended u hu hended
    · obtain ⟨-, rfl, -⟩ | ⟨m, hmood, -, rfl, -⟩ | ⟨mood, -, hnone, rfl, -, hlook⟩ := step?_cases hv
      · cases hended
      · rw [hmood] at hended
        cases hended
      · obtain rfl | ⟨-, hfinished⟩ | ⟨rfl, -⟩ := hlook
        · cases hended
        · have hall := h.yielded_eq hmem hnone
          exact ⟨hall, hfinished⟩
        · cases hended

theorem IsSound.step (h : f.IsSound) (hstep : Step f g) :
  g.IsSound
  := by
  cases hstep with
  | call c hg =>
      rw [hg]
      apply h.call
  | reads hreads =>
      cases hreads with
      | follow hg =>
          rw [hg]
          apply h.follow
      | follower number hg => apply h.followerStep hg

/-- A feed is sound in every schedule. -/
theorem isSound_schedule {id : String} (h : ReflTransGen Step { id } f) :
  f.IsSound
  := by
  induction h with
  | refl => apply isSound_new
  | tail _ hstep ih => apply ih.step hstep

/-! ### The usual schedule -/

theorem advance_reads (number n : Nat) (f : Feed) :
  ReflTransGen Reads f (f.advance number n)
  := by
  induction n generalizing f with
  | zero => apply ReflTransGen.refl
  | succ n ih =>
      rw [advance]
      split
      · apply ReflTransGen.refl
      · rename_i g hg
        apply ReflTransGen.head (.follower number hg)
        apply ih

/-- The followers of a feed that settles take steps. -/
theorem settle_reads (f : Feed) :
  ReflTransGen Reads f f.settle
  := by
  rw [settle]
  induction List.range f.followers.length generalizing f with
  | nil => apply ReflTransGen.refl
  | cons number numbers ih =>
      apply (advance_reads number (f.messages.length + 6) f).trans
      apply ih

/-! ### What is kept -/

/-- Readers change neither the messages nor what was told of the run. -/
theorem Reads.kept (h : Reads f g) :
  g.id = f.id ∧ g.messages = f.messages ∧ g.report = f.report ∧ g.finished = f.finished
  := by
  cases h with
  | follow h =>
      subst h
      exact ⟨rfl, rfl, rfl, rfl⟩
  | follower number h =>
      obtain ⟨w, v, changed, -, -, rfl⟩ := followerStep?_eq_some h
      exact ⟨rfl, rfl, rfl, rfl⟩

/-- A finished feed keeps its messages. -/
theorem Step.messages_of_finished (h : Step f g) (hf : f.finished = true) :
  g.finished = true ∧ g.messages = f.messages
  := by
  cases h with
  | call c h =>
      obtain ⟨report, hc⟩ := call_of_finished hf c
      rw [h, hc]
      exact ⟨hf, rfl⟩
  | reads h =>
      obtain ⟨-, hmessages, -, hfinished⟩ := h.kept
      rw [hfinished, hmessages]
      exact ⟨hf, rfl⟩

theorem messages_schedule (h : ReflTransGen Step f g) (hf : f.finished = true) :
  g.finished = true ∧ g.messages = f.messages
  := by
  induction h with
  | refl => exact ⟨hf, rfl⟩
  | tail _ hstep ih =>
      obtain ⟨hfinished, hmessages⟩ := hstep.messages_of_finished ih.1
      exact ⟨hfinished, hmessages.trans ih.2⟩

/-- A follower keeps what it has got. -/
theorem Step.yielded_isPrefix (h : Step f g) {number : Nat} {w : Follower}
    (hw : f.followers[number]? = some w) :
  ∃ v, g.followers[number]? = some v ∧ w.yielded <+: v.yielded
  := by
  have hadd : ∀ (m : Message) (report : Option RunReport),
      ∃ v, (({ f with report } : Feed).add m).followers[number]? = some v ∧
        w.yielded <+: v.yielded := by
    intro m report
    simp only [add, push]
    split
    · exact ⟨w, hw, List.prefix_refl _⟩
    · simp only
      split
      · exact ⟨w, hw, List.prefix_refl _⟩
      · refine ⟨w.wake, ?_, List.prefix_refl _⟩
        rw [List.getElem?_map, hw]
        rfl
  cases h with
  | call c h =>
      subst h
      cases hf : f.finished with
      | true =>
          obtain ⟨report, hc⟩ := call_of_finished hf c
          rw [hc]
          exact ⟨w, hw, List.prefix_refl _⟩
      | false =>
          obtain ⟨report, m, hc⟩ | ⟨report, hc⟩ := call_of_open hf c
          · rw [hc]
            apply hadd
          · rw [hc]
            exact ⟨w, hw, List.prefix_refl _⟩
  | reads h =>
      cases h with
      | follow h =>
          subst h
          refine ⟨w, ?_, List.prefix_refl _⟩
          rw [follow, List.getElem?_append_left (List.getElem?_eq_some_iff.mp hw).1, hw]
      | follower other h =>
          obtain ⟨u, v, changed, hu, hv, rfl⟩ := followerStep?_eq_some h
          by_cases heq : other = number
          · subst heq
            rw [hu] at hw
            cases hw
            refine ⟨v, ?_, ?_⟩
            · rw [List.getElem?_set_self (List.getElem?_eq_some_iff.mp hu).1]
            · obtain ⟨-, rfl, -⟩ | ⟨m, -, -, rfl, -⟩ | ⟨mood, -, -, rfl, -⟩ := step?_cases hv
              · apply List.prefix_refl
              · apply List.prefix_append
              · apply List.prefix_refl
          · refine ⟨w, ?_, List.prefix_refl _⟩
            rw [List.getElem?_set_ne heq, hw]

/-! ### What a follower can rely on -/

/-- A follower that cannot go on waits or has ended. -/
theorem mood_of_step?_eq_none {w : Follower} (h : f.step? w = none) :
  w.mood = .waiting ∨ w.mood = .ended
  := by
  rw [step?] at h
  split at h
  · cases h
  · split at h
    · cases h
    · split at h
      · cases h
      · split at h
        · cases h
        · cases h
  · left
    assumption
  · right
    assumption

/-- What the followers of a feed can rely on at any moment. -/
structure IsLive (f : Feed) : Prop where
  /-- A message that ends the feed is the last one; so there is at most one. -/
  onlyLast : ∀ before m after, f.messages = before ++ m :: after → m.isFinal = true → after = []
  /-- There is such a message exactly when the feed is finished. -/
  finished_iff : f.finished = true ↔ ∃ m ∈ f.messages, m.isFinal = true
  /-- A follower has got the first messages, in their order. -/
  isPrefix : ∀ w ∈ f.followers, w.yielded <+: f.messages
  /-- It keeps what it has got. -/
  yielded : ∀ g, Step f g → ∀ (number : Nat) (w : Follower), f.followers[number]? = some w →
    ∃ v, g.followers[number]? = some v ∧ w.yielded <+: v.yielded
  /-- A follower that waits has got every message, the feed is not finished, and the flag is not
  set, so that the next message wakes it. -/
  waiting : ∀ w ∈ f.followers, w.mood = .waiting →
    w.yielded = f.messages ∧ f.finished = false ∧ f.changed = false
  /-- A follower that has ended has got every message of a finished feed. -/
  ended : ∀ w ∈ f.followers, w.mood = .ended → w.yielded = f.messages ∧ f.finished = true
  /-- A finished feed gets no other messages. -/
  final : f.finished = true → ∀ g, ReflTransGen Step f g → g.messages = f.messages
  /-- A follower that cannot go on has got every message, and has ended if the feed is finished. -/
  stuck : ∀ (number : Nat) (w : Follower), f.followers[number]? = some w →
    f.followerStep? number = none → w.yielded = f.messages ∧ (f.finished = true → w.mood = .ended)

theorem IsSound.isLive (h : f.IsSound) :
  f.IsLive
  := by
  constructor
  case onlyLast => apply h.onlyLast
  case finished_iff => apply h.finished_iff
  case isPrefix => apply h.isPrefix
  case yielded =>
    intro g hstep number w hw
    apply hstep.yielded_isPrefix hw
  case waiting => apply h.waiting
  case ended => apply h.ended
  case final =>
    intro hf g hg
    apply (messages_schedule hg hf).2
  case stuck =>
    intro number w hw hnone
    have hmem := List.mem_of_getElem? hw
    have hstep : f.step? w = none := by
      rw [followerStep?, hw] at hnone
      simpa using hnone
    rcases mood_of_step?_eq_none hstep with hwaiting | hended
    · obtain ⟨hyielded, hopen, -⟩ := h.waiting w hmem hwaiting
      refine ⟨hyielded, ?_⟩
      intro hf
      rw [hf] at hopen
      cases hopen
    · refine ⟨(h.ended w hmem hended).1, ?_⟩
      intro _
      apply hended

/-- Whatever is told of a run, and in whatever order it is told and followers come and go on, the
followers of a feed can rely on it. -/
theorem schedule_isLive {id : String} (h : ReflTransGen Step { id } f) :
  f.IsLive
  := (isSound_schedule h).isLive

/-- A feed that two followers read by turns, and clear the flag of by turns, while messages come:
the one that has got all of them waits for the next. -/
theorem schedule_isLive_shared :
  ∃ f : Feed, f.followers.map Follower.mood = [.waiting, .reading] ∧ f.messages.length = 2 ∧
    f.IsLive
  := by
  have h := ReflTransGen.refl (r := Step) (a := { id := "" })
    |>.tail (.reads (.follow rfl))
    |>.tail (.reads (.follow rfl))
    |>.tail (.reads (.follower 0 rfl))
    |>.tail (.reads (.follower 0 rfl))
    |>.tail (.call (.progress "instrumentation" "complete") rfl)
    |>.tail (.reads (.follower 1 rfl))
    |>.tail (.reads (.follower 0 rfl))
    |>.tail (.call (.progress "execution" "started") rfl)
    |>.tail (.reads (.follower 0 rfl))
    |>.tail (.reads (.follower 0 rfl))
    |>.tail (.reads (.follower 0 rfl))
    |>.tail (.reads (.follower 0 rfl))
    |>.tail (.reads (.follower 0 rfl))
  exact ⟨_, rfl, rfl, schedule_isLive h⟩

end Feed

end SnippetProfiler
