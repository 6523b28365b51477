import SnippetProfiler.Proofs.Json.RoundTrip
import SnippetProfiler.Proofs.Trace.Sentinel

/-!
# Frames read back

`frameLine` writes a frame on a line of its own, and `split` reads that line as that frame alone.
The line begins with its sentinel, so sentinels within the payload are behind the first one; and
the payload ends with a brace, so nothing of it goes with the end of the line.

A frame may also stand on a line behind text that the program has not ended with a newline.  Sentinels
begin and end with underscores; so a text that ends short of a sentinel by an underscore or two
forms that sentinel together with the sentinel of a frame behind it, and the frame is lost.
`split_append_iff` says that this is the only way to lose it: behind every other text without a
sentinel a frame is read as it is alone, and the text is ordinary output.
-/

namespace SnippetProfiler

/-! ### Frames on lines of their own -/

section RoundTrip

open Validation (Fields)

variable {payload : Fields}

/-- Only the end of a line goes when the text in front of it ends with another character. -/
theorem dropRightWhile_endsLine {s : List Char} {c : Char} (hc : endsLine c = false) :
  Text.dropRightWhile endsLine (s ++ [c] ++ ['\n']) = s ++ [c]
  := by
  have hnewline : endsLine '\n' = true := rfl
  simp only [Text.dropRightWhile, List.reverse_append, List.reverse_cons, List.reverse_nil,
    List.nil_append, List.cons_append]
  rw [List.dropWhile_cons_of_pos hnewline, List.dropWhile_cons_of_neg (by rw [hc]; decide),
    List.reverse_cons, List.reverse_reverse]

/-- The payload of a frame is what stands on its line behind the sentinel. -/
theorem readFrame_chars (kind : FrameKind) (h : Json.Fits Json.depthLimit (.obj payload)) :
  readFrame kind (Text.dropRightWhile endsLine (Json.chars Json.spaced (.obj payload) ++ ['\n'])) =
    frameOf kind payload
  := by
  have hbody : Text.dropRightWhile endsLine (Json.chars Json.spaced (.obj payload) ++ ['\n']) =
      Json.chars Json.spaced (.obj payload) := by
    rw [Json.chars_obj, ← List.cons_append]
    apply dropRightWhile_endsLine
    rfl
  rw [hbody, readFrame, Json.parse_chars h]

/-- The line of a frame begins with its first sentinel. -/
theorem isFirst_frameLine (kind : FrameKind) (v : Json) :
  (⟨[], kind, Json.chars Json.spaced v ++ ['\n']⟩ : Marked).IsFirst (frameLine kind v).toList
  := by
  constructor
  · rw [frameLine, String.toList_ofList, List.append_assoc, List.nil_append]
  · intro i hi
    cases hi

/-- The line of a frame is read as that frame. -/
theorem split_frameLine {kind : FrameKind} {f : Frame}
    (h : Json.Fits Json.depthLimit (.obj payload)) (hf : frameOf kind payload = .ok f) :
  split (frameLine kind (.obj payload)) = .ok [f]
  := by
  have hfirst := findSentinel_eq_some_iff.mpr (isFirst_frameLine kind (.obj payload))
  simp only [split, hfirst, readFrame_chars kind h, hf]
  rfl

/-- A frame takes one line. -/
theorem exists_frameLine_eq (kind : FrameKind) (h : Json.Fits Json.depthLimit (.obj payload)) :
  ∃ text, (frameLine kind (.obj payload)).toList = text ++ ['\n'] ∧ '\n' ∉ text
  := by
  use kind.sentinel ++ Json.chars Json.spaced (.obj payload)
  constructor
  · rw [frameLine, String.toList_ofList]
  · rw [List.mem_append, not_or]
    constructor
    · cases kind <;> decide
    · apply h.newline_notMem

/-- What is written for a frame is one line, and reading it gives the frame back: that of a
terminal frame its payload, and that of an event also the event, when its data are in order. -/
theorem frameLine_roundTrip (h : Json.Fits Json.depthLimit (.obj payload)) :
  (∀ kind, ∃ text, (frameLine kind (.obj payload)).toList = text ++ ['\n'] ∧ '\n' ∉ text) ∧
  split (frameLine .complete (.obj payload)) = .ok [.complete payload] ∧
  split (frameLine .error (.obj payload)) = .ok [.error payload] ∧
  ∀ event, decodeEvent ((Json.lookup payload "event").getD .null)
      ((Json.lookup payload "data").getD .null) = .ok event →
    split (frameLine .event (.obj payload)) = .ok [.event event payload]
  := by
  use fun kind => exists_frameLine_eq kind h, split_frameLine h rfl, split_frameLine h rfl
  intro event hevent
  apply split_frameLine h
  simp only [frameOf, hevent]

/-- A call of a function that is named like a sentinel. -/
def namedLikeSentinel : Fields :=
  [("event", .str "functionCall"),
    ("data", .obj [("timestampMs", .int 1), ("name", .str "__PERFSCOPE_EVENT__\n")])]

/-- A sentinel in the payload does not stop the frame from being read back. -/
theorem frameLine_roundTrip_namedLikeSentinel :
  split (frameLine .complete (.obj namedLikeSentinel)) = .ok [.complete namedLikeSentinel] ∧
    ∃ event, split (frameLine .event (.obj namedLikeSentinel)) =
      .ok [.event event namedLikeSentinel]
  := by
  have hdata : Json.Fits 984
      (.obj [("timestampMs", .int 1), ("name", .str "__PERFSCOPE_EVENT__\n")]) := by
    apply Json.Fits.obj (by decide)
    simp only [List.forall_mem_cons]
    exact ⟨.int (by decide), .str _, by rintro _ ⟨⟩⟩
  have hfits : Json.Fits Json.depthLimit (.obj namedLikeSentinel) := by
    apply Json.Fits.obj (by decide)
    simp only [namedLikeSentinel, List.forall_mem_cons]
    exact ⟨.str _, hdata, by rintro _ ⟨⟩⟩
  have hread := frameLine_roundTrip hfits
  use hread.2.1
  have hok : (decodeEvent ((Json.lookup namedLikeSentinel "event").getD .null)
      ((Json.lookup namedLikeSentinel "data").getD .null)).isOk = true := by
    decide
  cases hevent : decodeEvent ((Json.lookup namedLikeSentinel "event").getD .null)
      ((Json.lookup namedLikeSentinel "data").getD .null) with
  | error e =>
      rw [hevent] at hok
      cases hok
  | ok event =>
      use event
      apply hread.2.2.2 event hevent

end RoundTrip

/-! ### Frames behind text -/

/-- A text that ends with a sentinel but for the last one or two underscores. -/
def EndsShort (s : List Char) : Prop :=
  ∃ k : FrameKind, k.sentinel.dropLast <:+ s ∨ k.sentinel.dropLast.dropLast <:+ s

/-- What ends short of a sentinel is not empty. -/
theorem EndsShort.not_isEmpty {text : String} (h : EndsShort text.toList) :
  ¬ text.isEmpty
  := by
  rw [String.isEmpty_iff]
  rintro rfl
  obtain ⟨k, hk⟩ := h
  revert hk
  cases k <;> decide

namespace FrameKind

/-- A sentinel whose last part begins another one is cut in front of its last underscore or of the
one before it. -/
theorem take_eq_dropLast (k k' : FrameKind) :
  ∀ n < k'.sentinel.length, 0 < n →
    (k'.sentinel.drop n <+: k.sentinel ∨ k.sentinel <+: k'.sentinel.drop n) →
    k'.sentinel.take n = k'.sentinel.dropLast ∨ k'.sentinel.take n = k'.sentinel.dropLast.dropLast
  := by
  cases k <;> cases k' <;> decide

/-- When a sentinel is cut into two parts, and the second one begins what another sentinel begins,
then the first part lacks one or two underscores. -/
theorem eq_dropLast_of_append {k k' : FrameKind} {u w r : List Char} (hu : u ≠ []) (hw : w ≠ [])
    (h : k'.sentinel = u ++ w) (hbegins : w <+: k.sentinel ++ r) :
  u = k'.sentinel.dropLast ∨ u = k'.sentinel.dropLast.dropLast
  := by
  have htake : k'.sentinel.take u.length = u := by rw [h, List.take_left]
  have hdrop : k'.sentinel.drop u.length = w := by rw [h, List.drop_left]
  rw [← htake]
  apply take_eq_dropLast k
  · rw [h, List.length_append]
    apply Nat.lt_add_of_pos_right
    apply List.length_pos_of_ne_nil hw
  · apply List.length_pos_of_ne_nil hu
  · rw [hdrop]
    apply List.prefix_or_prefix_of_prefix hbegins
    apply List.prefix_append

/-- A sentinel that lacks one or two underscores gets them from a sentinel behind it. -/
theorem prefix_dropLast_append (k k' : FrameKind) :
  k'.sentinel <+: k'.sentinel.dropLast ++ k.sentinel ∧
    k'.sentinel <+: k'.sentinel.dropLast.dropLast ++ k.sentinel
  := by
  cases k <;> cases k' <;> decide

end FrameKind

/-! ### First sentinels -/

variable {head s : List Char} {m : Marked}

/-- A sentinel that begins within a text without sentinels, and goes on in the sentinel behind it,
lacks one or two underscores in that text. -/
theorem Marked.IsFirst.drop_eq (h : m.IsFirst s) (hbefore : m.before = [])
    (hhead : ∀ k : FrameKind, ¬ k.sentinel <:+: head) {i : Nat} (hi : i < head.length)
    {k : FrameKind} (hk : k.sentinel <+: head.drop i ++ s) :
  head.drop i = k.sentinel.dropLast ∨ head.drop i = k.sentinel.dropLast.dropLast
  := by
  have htext := h.text
  rw [hbefore, List.nil_append] at htext
  have hinner : ¬ k.sentinel <+: head.drop i := by
    intro hbegins
    apply hhead k
    apply hbegins.isInfix.trans
    apply (List.drop_suffix i head).isInfix
  have hcut : head.drop i <+: k.sentinel := by
    rcases List.prefix_or_prefix_of_prefix hk (List.prefix_append (head.drop i) s) with hp | hp
    · cases hinner hp
    · apply hp
  obtain ⟨w, hw⟩ := hcut
  apply FrameKind.eq_dropLast_of_append (k := m.kind) (w := w) (r := m.after)
  · intro hnil
    rw [List.drop_eq_nil_iff] at hnil
    apply Nat.lt_irrefl _ (Nat.lt_of_lt_of_le hi hnil)
  · rintro rfl
    apply hinner
    rw [← hw, List.append_nil]
  · rw [hw]
  · rw [← hw, List.prefix_append_right_inj] at hk
    rw [htext]
    apply hk

/-- A first sentinel at the beginning of a text is still the first one behind a text without
sentinels that does not end short of one. -/
theorem Marked.IsFirst.behind (h : m.IsFirst s) (hbefore : m.before = [])
    (hhead : ∀ k : FrameKind, ¬ k.sentinel <:+: head) (hend : ¬ EndsShort head) :
  ({ m with before := head } : Marked).IsFirst (head ++ s)
  := by
  constructor
  · rw [← h.text, hbefore]
    rfl
  · intro i hi k hk
    change i < head.length at hi
    rw [List.drop_append_of_le_length (Nat.le_of_lt hi)] at hk
    apply hend
    use k
    rcases h.drop_eq hbefore hhead hi hk with heq | heq
    · left
      rw [← heq]
      apply List.drop_suffix
    · right
      rw [← heq]
      apply List.drop_suffix

/-- A sentinel behind a text that ends short of one is not the first. -/
theorem Marked.IsFirst.before_lt {n : Marked} (h : m.IsFirst s) (hbefore : m.before = [])
    (hend : EndsShort head) (hn : n.IsFirst (head ++ s)) :
  n.before.length < head.length
  := by
  have htext := h.text
  rw [hbefore, List.nil_append] at htext
  obtain ⟨k, hk⟩ := hend
  obtain ⟨start, part, hhead, hbegins, hne⟩ : ∃ start part, start ++ part = head ∧
      k.sentinel <+: part ++ m.kind.sentinel ∧ part ≠ [] := by
    have hboth := FrameKind.prefix_dropLast_append m.kind k
    rcases hk with ⟨start, hstart⟩ | ⟨start, hstart⟩
    · refine ⟨start, _, hstart, hboth.1, ?_⟩
      cases k <;> decide
    · refine ⟨start, _, hstart, hboth.2, ?_⟩
      cases k <;> decide
  have hle : n.before.length ≤ start.length := by
    by_contra hlt
    apply hn.first start.length (by omega) k
    rw [← hhead, ← htext, List.append_assoc, List.drop_left, ← List.append_assoc]
    apply hbegins.trans
    apply List.prefix_append
  have hpos := List.length_pos_of_ne_nil hne
  rw [← hhead, List.length_append]
  omega

/-! ### Frames -/

/-- The parts of a line with a frame behind a text, which may be empty. -/
def Frame.behind (text : String) (f : Frame) : List Frame :=
  if text.isEmpty then [f] else [.output text, f]

/-- A line is nothing but a frame when its first sentinel stands at its beginning and its body is
that of the frame. -/
theorem split_eq_singleton {line : String} {f : Frame} (h : split line = .ok [f])
    (hf : ∀ text, f ≠ .output text) :
  ∃ m : Marked, m.IsFirst line.toList ∧ m.before = [] ∧
    readFrame m.kind (Text.dropRightWhile endsLine m.after) = .ok f
  := by
  cases hm : findSentinel line.toList with
  | none =>
      simp only [split, hm] at h
      cases h
      cases hf line rfl
  | some m =>
      simp only [split, hm] at h
      split at h
      · cases h
      · rename_i frame hframe
        use m, findSentinel_eq_some_iff.mp hm
        cases hbefore : m.before with
        | nil =>
            rw [hbefore] at h
            cases h
            exact ⟨rfl, hframe⟩
        | cons c cs =>
            rw [hbefore] at h
            cases h

/-- The text in front of the frame of a line, when the line is read as a text and a frame. -/
theorem split_eq_pair {line text : String} {f : Frame} (h : split line = .ok [.output text, f]) :
  ∃ n : Marked, n.IsFirst line.toList ∧ n.before = text.toList
  := by
  cases hn : findSentinel line.toList with
  | none =>
      simp only [split, hn] at h
      cases h
  | some n =>
      use n, findSentinel_eq_some_iff.mp hn
      simp only [split, hn] at h
      split at h
      · cases h
      · split at h
        · cases h
        · injection h with h
          injection h with h
          injection h with h
          rw [← h, String.toList_ofList]

/-- A frame behind a text that ends short of a sentinel is lost. -/
theorem EndsShort.split_append_ne {text line : String} {f : Frame} (h : EndsShort text.toList)
    (hline : split line = .ok [f]) (hf : ∀ output, f ≠ .output output) :
  split (text ++ line) ≠ .ok (f.behind text)
  := by
  obtain ⟨m, hm, hbefore, _⟩ := split_eq_singleton hline hf
  intro hsplit
  rw [Frame.behind, if_neg h.not_isEmpty] at hsplit
  obtain ⟨n, hn, htaken⟩ := split_eq_pair hsplit
  rw [String.toList_append] at hn
  have hlt := hm.before_lt hbefore h hn
  rw [htaken] at hlt
  apply Nat.lt_irrefl _ hlt

/-- Behind a text without sentinels a frame is read as it is alone, and the text is ordinary
output, unless the text ends short of a sentinel. -/
theorem split_append_iff {text line : String} {f : Frame}
    (htext : ∀ k : FrameKind, ¬ k.sentinel <:+: text.toList) (hline : split line = .ok [f])
    (hf : ∀ output, f ≠ .output output) :
  split (text ++ line) = .ok (f.behind text) ↔ ¬ EndsShort text.toList
  := by
  constructor
  · intro hsplit hend
    apply hend.split_append_ne hline hf hsplit
  · intro hend
    obtain ⟨m, hm, hbefore, hread⟩ := split_eq_singleton hline hf
    have hfirst := findSentinel_eq_some_iff.mpr (hm.behind hbefore htext hend)
    rw [← String.toList_append] at hfirst
    simp only [split, hfirst, hread, Frame.behind, String.ofList_toList]
    simp only [List.isEmpty_iff, String.toList_eq_nil_iff, String.isEmpty_iff]

theorem split_empty_complete :
  split (frameLine .complete (.obj [])) = .ok [.complete []]
  := by
  have hfits : Json.Fits Json.depthLimit (.obj []) := .obj List.nodup_nil (by rintro _ ⟨⟩)
  apply split_frameLine hfits rfl

/-- A text may end in an underscore, as long as a sentinel is short of more than that. -/
theorem split_append_iff_underscore :
  split ("loading _" ++ frameLine .complete (.obj [])) = .ok [.output "loading _", .complete []]
  := by
  apply (split_append_iff (f := .complete []) _ split_empty_complete _).mpr
  · rintro ⟨k, hk⟩
    revert hk
    cases k <;> decide
  · intro k
    cases k <;> decide
  · rintro output ⟨⟩

/-- A frame is not always read behind a text without sentinels: `__PERFSCOPE_EVENT` takes the two
underscores that the sentinel behind it begins with. -/
theorem not_always_split_behind :
  ¬ ∀ (text line : String) (f : Frame), '\n' ∉ text.toList →
    (∀ k : FrameKind, ¬ k.sentinel <:+: text.toList) → split line = .ok [f] →
    (∀ output, f ≠ .output output) → split (text ++ line) = .ok (f.behind text)
  := by
  intro h
  have hcomplete (output : String) : Frame.complete [] ≠ .output output := by rintro ⟨⟩
  have hend : EndsShort "__PERFSCOPE_EVENT".toList := ⟨.event, .inr (by decide)⟩
  apply hend.split_append_ne split_empty_complete hcomplete
  apply h _ _ _ (by decide) _ split_empty_complete hcomplete
  intro k
  cases k <;> decide

end SnippetProfiler
