import SnippetProfiler.Proofs.Braced.Transparency
import SnippetProfiler.Proofs.Json.RoundTrip
import SnippetProfiler.Proofs.Text.Lines

/-!
# The lines of a program

A program consists of four header lines, the lines of the snippet, and a footer.  Each line of the
snippet is there with the hooks that belong into it, so that a line of the program has the number of
the line of the snippet plus four.  This is so because no hook and no header line has a newline in
it.

Hooks stand at the front of the snippet, and where tokens begin and end; so they cut neither a token
nor a comment in two.
-/

namespace SnippetProfiler.Braced

open Text (newline_notMem_toString newline_notMem_intercalate splitOn_intercalate)

/-! ### Inserted hooks -/

/-- The characters `ds` are the characters `cs` and between them, in this order, the texts of
hooks. -/
inductive Interleaved : List Hook → (cs ds : List Char) → Prop
  | nil : Interleaved [] [] []
  | char {hooks : List Hook} {cs ds : List Char} (c : Char) (h : Interleaved hooks cs ds) :
      Interleaved hooks (c :: cs) (c :: ds)
  | hook {hooks : List Hook} {cs ds : List Char} (i : Hook) (h : Interleaved hooks cs ds) :
      Interleaved (i :: hooks) cs (i.text.toList ++ ds)

theorem Interleaved.append {hooks : List Hook} {cs ds : List Char} (h : Interleaved hooks cs ds)
    (front : List Char) :
  Interleaved hooks (front ++ cs) (front ++ ds)
  := by
  induction front with
  | nil => exact h
  | cons c front ih => apply Interleaved.char c ih

theorem interleaved_self (cs : List Char) :
  Interleaved [] cs cs
  := by
  have h := Interleaved.nil.append cs
  rwa [List.append_nil] at h

/-- Hooks that are woven into a text stand between its characters. -/
theorem interleaved_weaveFrom {cs : List Char} {position : Nat} {is : List Insertion}
    (hsorted : is.Pairwise fun i j => i.position ≤ j.position)
    (h : ∀ i ∈ is, position ≤ i.position ∧ i.position ≤ position + cs.length) :
  Interleaved (is.map Insertion.hook) cs (weaveFrom cs position is)
  := by
  induction is generalizing cs position with
  | nil => apply interleaved_self
  | cons i is ih =>
      rw [List.pairwise_cons] at hsorted
      obtain ⟨front, rest, rfl, -, hwoven, hlater⟩ := weaveFrom_parts hsorted.1 h
      rw [hwoven]
      apply Interleaved.append
      apply Interleaved.hook i.hook
      apply ih hsorted.2 hlater

/-- A line of a program is a line of the snippet with hooks in it. -/
def IsLineWith (line : List Char) (b : List Hook × List Char) : Prop := Interleaved b.1 line b.2

/-- Characters that are no newlines belong to the first line. -/
theorem splitOn_append_of_not_mem {w : List Char} (hw : '\n' ∉ w) (cs : List Char) :
  (w ++ cs).splitOn '\n' = (cs.splitOn '\n').modifyHead (w ++ ·)
  := by
  induction w with
  | nil =>
      rw [List.nil_append]
      cases cs.splitOn '\n' with
      | nil => rfl
      | cons line lines => rfl
  | cons c w ih =>
      rw [List.mem_cons, not_or] at hw
      have hne : ¬ (c == '\n') = true := by
        rw [beq_iff_eq]
        exact Ne.symm hw.1
      rw [List.cons_append, List.splitOn_cons_eq_if_modifyHead, if_neg hne, ih hw.2,
        List.modifyHead_modifyHead]
      rfl

/-- The hooks on each line of a text with hooks: together they are the hooks of the text. -/
theorem Interleaved.splitOn {hooks : List Hook} {cs ds : List Char} (h : Interleaved hooks cs ds)
    (hhooks : ∀ i ∈ hooks, '\n' ∉ i.text.toList) :
  ∃ body : List (List Hook × List Char), ds.splitOn '\n' = body.map Prod.snd
    ∧ body.flatMap Prod.fst = hooks ∧ List.Forall₂ IsLineWith (cs.splitOn '\n') body
  := by
  induction h with
  | nil =>
      have hline : IsLineWith [] ([], []) := Interleaved.nil
      rw [List.splitOn_nil]
      use [([], [])], rfl, rfl
      apply List.Forall₂.cons hline List.Forall₂.nil
  | @char hooks cs ds c h ih =>
      obtain ⟨body, hbody, hfst, hlines⟩ := ih hhooks
      by_cases hc : c = '\n'
      · have hline : IsLineWith [] ([], []) := Interleaved.nil
        subst hc
        use ([], []) :: body
        rw [List.splitOn_cons_eq_if_modifyHead, List.splitOn_cons_eq_if_modifyHead, hbody,
          if_pos (beq_self_eq_true _), if_pos (beq_self_eq_true _)]
        use rfl, hfst
        apply List.Forall₂.cons hline hlines
      · have hw : '\n' ∉ [c] := by
          rw [List.mem_singleton]
          exact Ne.symm hc
        have hcs := splitOn_append_of_not_mem hw cs
        have hds := splitOn_append_of_not_mem hw ds
        rw [List.singleton_append] at hcs hds
        rw [hcs, hds, hbody]
        generalize hsource : cs.splitOn '\n' = source at hlines
        cases hlines with
        | nil => cases List.splitOn_ne_nil _ _ hsource
        | @cons line b lines body hline hlines =>
            have hline : IsLineWith (c :: line) (b.1, c :: b.2) := Interleaved.char c hline
            use (b.1, c :: b.2) :: body, rfl, hfst
            apply List.Forall₂.cons hline hlines
  | @hook hooks cs ds i h ih =>
      rw [List.forall_mem_cons] at hhooks
      obtain ⟨body, hbody, hfst, hlines⟩ := ih hhooks.2
      rw [splitOn_append_of_not_mem hhooks.1, hbody]
      generalize hsource : cs.splitOn '\n' = source at hlines
      cases hlines with
      | nil => cases List.splitOn_ne_nil _ _ hsource
      | @cons line b lines body hline hlines =>
          have hline : IsLineWith line (i :: b.1, i.text.toList ++ b.2) := Interleaved.hook i hline
          use (i :: b.1, i.text.toList ++ b.2) :: body, rfl
          constructor
          · rw [← hfst]
            rfl
          · apply List.Forall₂.cons hline hlines

/-! ### Texts without newlines -/

theorem IsWord.newline_notMem {w : List Char} (h : IsWord w) :
  '\n' ∉ w
  := by
  obtain ⟨c, cs, rfl, -, hc, hcs⟩ := h
  rw [List.mem_cons, not_or]
  constructor
  · rintro rfl
    cases hc
  · intro hmem
    cases hcs _ hmem

theorem newline_notMem_separator (separate : Bool) :
  '\n' ∉ (separator separate).toList
  := by
  cases separate
  · decide
  · decide

theorem newline_notMem_quoted (name : String) :
  '\n' ∉ (quoted name).toList
  := by
  rw [quoted, String.toList_ofList]
  apply Json.newline_notMem_quote

/-- A hook takes no line of its own. -/
theorem Hook.IsProper.newline_notMem {h : Hook} (hh : h.IsProper) :
  '\n' ∉ h.text.toList
  := by
  cases h with
  | line n =>
      simp only [Hook.text, String.toList_append, List.mem_append, not_or]
      exact ⟨⟨⟨by decide, by decide⟩, newline_notMem_toString n⟩, by decide⟩
  | rebind separate name =>
      have hname : '\n' ∉ name.toList := IsWord.newline_notMem hh
      simp only [Hook.text, String.toList_append, List.mem_append, not_or]
      exact ⟨⟨⟨⟨⟨⟨⟨⟨newline_notMem_separator separate, hname⟩, by decide⟩, by decide⟩, by decide⟩,
        hname⟩, by decide⟩, newline_notMem_quoted name⟩, by decide⟩
  | vars separate names line =>
      have hentries : ∀ e ∈ names.eraseDups.map (variableEntry line), '\n' ∉ e.toList := by
        rw [List.forall_mem_map]
        intro name hname
        have hword := IsWord.newline_notMem (hh name (List.mem_eraseDups.mp hname))
        simp only [variableEntry, String.toList_append, List.mem_append, not_or]
        exact ⟨⟨⟨⟨⟨⟨by decide, newline_notMem_quoted name⟩, by decide⟩, hword⟩, by decide⟩,
          newline_notMem_toString line⟩, by decide⟩
      simp only [Hook.text, String.toList_append, List.mem_append, not_or]
      exact ⟨⟨⟨⟨newline_notMem_separator separate, by decide⟩, by decide⟩,
        newline_notMem_intercalate (by decide) hentries⟩, by decide⟩

theorem newline_notMem_write {depth : Nat} {v : Json} (h : Json.Fits depth v) :
  '\n' ∉ (Json.write Json.spaced v).toList
  := by
  rw [Json.write, String.toList_ofList]
  apply h.newline_notMem

theorem newline_notMem_optionsText (o : TrackingOptions) :
  '\n' ∉ (optionsText o).toList
  := by
  refine newline_notMem_write (@Json.Fits.obj 0 _ ?_ ?_)
  · change ["trackMemory", "trackVariables", "trackFunctions", "trackExecutionFlow"].Nodup
    decide
  · rw [List.forall_mem_map]
    intro field _
    apply Json.Fits.bool

theorem newline_notMem_texts (xs : List String) :
  '\n' ∉ (Json.write Json.spaced (Json.texts xs)).toList
  := by
  have hfits : Json.Fits 1 (Json.texts xs) := by
    apply Json.Fits.arr
    rw [List.forall_mem_map]
    intro x _
    apply Json.Fits.str
  apply newline_notMem_write hfits

/-- Each header line is one line. -/
theorem newline_notMem_header (strict : Bool) (source : String) (o : TrackingOptions) :
  ∀ line ∈ header strict source o, '\n' ∉ line.toList
  := by
  have hfirst :
      '\n' ∉ (if strict then "'use strict';" else "// instrumented by perfscope").toList := by
    cases strict
    · decide
    · decide
  simp only [header, List.forall_mem_cons, String.toList_append, List.mem_append, not_or]
  refine ⟨hfirst, by decide, ?_, by decide, by rintro _ ⟨⟩⟩
  exact ⟨⟨⟨⟨⟨⟨⟨by decide, by decide⟩, newline_notMem_optionsText o⟩, by decide⟩,
    newline_notMem_texts _⟩, by decide⟩, newline_notMem_toString _⟩, by decide⟩

/-! ### Lines of programs -/

/-- The lines of a program are the header lines, the lines of its middle part, and the footer
lines. -/
theorem splitOn_assemble (strict : Bool) (source body : String) (o : TrackingOptions) :
  (assemble strict source body o).toList.splitOn '\n'
    = (header strict source o).map String.toList
      ++ (body.toList.splitOn '\n' ++ (footer.map String.toList ++ [[]]))
  := by
  have hnewline : "\n".toList = ['\n'] := rfl
  have hchars : (assemble strict source body o).toList
      = ("\n".intercalate (header strict source o)).toList
        ++ '\n' :: (body.toList ++ '\n' :: (("\n".intercalate footer).toList ++ '\n' :: [])) := by
    simp only [assemble, String.toList_append, hnewline, List.append_assoc, List.nil_append,
      List.cons_append]
  have hheader : ("\n".intercalate (header strict source o)).toList.splitOn '\n'
      = (header strict source o).map String.toList :=
    splitOn_intercalate (List.cons_ne_nil _ _) (newline_notMem_header strict source o)
  have hfooter : ("\n".intercalate footer).toList.splitOn '\n' = footer.map String.toList :=
    splitOn_intercalate (List.cons_ne_nil _ _) (by decide)
  rw [hchars, List.splitOn_append_cons_self, List.splitOn_append_cons_self,
    List.splitOn_append_cons_self, hheader, hfooter, List.splitOn_nil]

/-- A program consists of the header lines, the lines of the snippet with hooks in them, and the
footer lines, behind which it ends with a newline. -/
def IsAligned (source : String) (o : TrackingOptions) (strict : Bool) (hooks : List Hook)
    (program : String) : Prop :=
  ∃ body : List (List Hook × List Char),
    program.toList.splitOn '\n'
        = (header strict source o).map String.toList ++ body.map Prod.snd
          ++ (footer.map String.toList ++ [[]])
      ∧ (header strict source o).length = headerLines
      ∧ body.flatMap Prod.fst = hooks
      ∧ List.Forall₂ IsLineWith (source.toList.splitOn '\n') body

/-- A snippet with hooks between header and footer is aligned. -/
theorem isAligned_assemble (strict : Bool) {source body : String} (o : TrackingOptions)
    {hooks : List Hook} (h : Interleaved hooks source.toList body.toList)
    (hhooks : ∀ i ∈ hooks, '\n' ∉ i.text.toList) :
  IsAligned source o strict hooks (assemble strict source body o)
  := by
  obtain ⟨lines, hbody, hfst, hlines⟩ := h.splitOn hhooks
  use lines
  constructor
  · rw [splitOn_assemble, hbody, List.append_assoc]
  · exact ⟨rfl, hfst, hlines⟩

/-! ### Comments -/

/-- A comment, which takes a half-open range of positions. -/
structure Comment where
  start : Nat
  stop : Nat
  deriving DecidableEq, Repr

/-- The comments of the characters from a spot on. -/
def commentsFrom (s : Spot) (source : List Char) : List Comment :=
  match source with
  | [] => []
  | c :: cs =>
    match readPiece s c cs with
    | .error _ => []
    | .ok (.gap extra lines) =>
      let later := commentsFrom (s.skip (extra + 1) lines) (cs.drop extra)
      if c = '/' then ⟨s.position, s.position + (extra + 1)⟩ :: later else later
    | .ok (.lexeme kind extra lines) =>
      commentsFrom (s.pass (s.token kind (c :: cs.take extra) lines) lines) (cs.drop extra)
  termination_by source.length
  decreasing_by all_goals (simp only [List.length_cons, List.length_drop]; omega)

/-- The comments of a text; a first line that names an interpreter is one. -/
def comments (source : List Char) : List Comment :=
  let n := shebangLength source
  ⟨0, n⟩ :: commentsFrom { position := n } (source.drop n)

example : comments "#!node\na /* b */ = '/* c */' // d".toList = [⟨0, 6⟩, ⟨9, 16⟩, ⟨29, 33⟩] := by
  decide +kernel

/-- A position is at the ends or outside of a range. -/
def IsOutside (position start stop : Nat) : Prop := position ≤ start ∨ stop ≤ position

theorem commentsFrom_gap {s : Spot} {c : Char} {cs : List Char} {n k : Nat}
    (h : Begins s c cs (.gap n k)) :
  commentsFrom s (c :: cs) = (if c = '/' then [⟨s.position, s.position + (n + 1)⟩] else [])
    ++ commentsFrom (s.skip (n + 1) k) (cs.drop n)
  := by
  rw [commentsFrom, h.readPiece]
  dsimp only
  split
  · rfl
  · rfl

theorem commentsFrom_lexeme {s : Spot} {c : Char} {cs : List Char} {kind : TokenKind} {n k : Nat}
    (h : Begins s c cs (.lexeme kind n k)) :
  commentsFrom s (c :: cs)
    = commentsFrom (s.pass (s.token kind (c :: cs.take n) k) k) (cs.drop n)
  := by rw [commentsFrom, h.readPiece]

/-- Tokens and comments do not overlap. -/
theorem Scans.beside_comments {s : Spot} {cs : List Char} {ts : List Token} (h : Scans s cs ts) :
  ∀ r ∈ commentsFrom s cs, s.position ≤ r.start ∧ ∀ t ∈ ts, t.stop ≤ r.start ∨ r.stop ≤ t.start
  := by
  induction h with
  | done =>
      rw [commentsFrom]
      rintro _ ⟨⟩
  | @gap s c cs n k ts hbegins htail ih =>
      rw [commentsFrom_gap hbegins, List.forall_mem_append]
      constructor
      · split
        · rw [List.forall_mem_singleton]
          exact ⟨Nat.le_refl _, fun t ht => .inr (htail.le_start t ht)⟩
        · rintro _ ⟨⟩
      · intro r hr
        obtain ⟨hle, hbeside⟩ := ih r hr
        simp only [Spot.skip] at hle
        exact ⟨by omega, hbeside⟩
  | @lexeme s c cs kind n k ts hbegins htail ih =>
      rw [commentsFrom_lexeme hbegins]
      intro r hr
      obtain ⟨hle, hbeside⟩ := ih r hr
      rw [List.forall_mem_cons]
      refine ⟨?_, .inl hle, hbeside⟩
      simp only [Spot.pass, Spot.token, List.length_cons] at hle
      omega

/-- A piece that makes no token and is no comment is a blank character. -/
theorem Begins.isBlank {s : Spot} {c : Char} {cs : List Char} {n k : Nat}
    (h : Begins s c cs (.gap n k)) (hc : c ≠ '/') :
  n = 0 ∧ Text.isBlank c = true
  := by
  cases h with
  | newline h =>
      rw [h]
      decide
  | blank _ hblank => exact ⟨rfl, hblank⟩
  | lineComment h => cases hc h
  | blockComment h => cases hc h

theorem getElem?_behind (c : Char) (cs : List Char) (n j : Nat) :
  (c :: cs)[j + (n + 1)]? = (cs.drop n)[j]?
  := by
  rw [List.getElem?_drop, Nat.add_comm n j]
  rfl

/-- What stands between the tokens are comments and blanks. -/
theorem Scans.covers {s : Spot} {cs : List Char} {ts : List Token} (h : Scans s cs ts) :
  ∀ i d, cs[i]? = some d → (∃ t ∈ ts, t.start ≤ s.position + i ∧ s.position + i < t.stop)
    ∨ (∃ r ∈ commentsFrom s cs, r.start ≤ s.position + i ∧ s.position + i < r.stop)
    ∨ Text.isBlank d = true
  := by
  induction h with
  | done => rintro i d ⟨⟩
  | @gap s c cs n k ts hbegins htail ih =>
      intro i d hd
      rw [commentsFrom_gap hbegins]
      by_cases hi : i < n + 1
      · right
        by_cases hc : c = '/'
        · left
          rw [if_pos hc]
          exact ⟨_, List.mem_cons_self, Nat.le_add_right _ _, Nat.add_lt_add_left hi _⟩
        · right
          obtain ⟨rfl, hblank⟩ := hbegins.isBlank hc
          obtain rfl : i = 0 := by omega
          cases hd
          exact hblank
      · obtain ⟨j, rfl⟩ := Nat.exists_eq_add_of_le' (Nat.le_of_not_lt hi)
        have hposition : (s.skip (n + 1) k).position + j = s.position + (j + (n + 1)) := by
          simp only [Spot.skip]
          omega
        rw [getElem?_behind] at hd
        rw [← hposition]
        obtain htoken | ⟨r, hr, hin⟩ | hblank := ih j d hd
        · exact .inl htoken
        · exact .inr (.inl ⟨r, List.mem_append_right _ hr, hin⟩)
        · exact .inr (.inr hblank)
  | @lexeme s c cs kind n k ts hbegins htail ih =>
      intro i d hd
      have hstop := hbegins.stop_token
      rw [commentsFrom_lexeme hbegins]
      by_cases hi : i < n + 1
      · left
        use s.token kind (c :: cs.take n) k, List.mem_cons_self
        rw [hstop]
        exact ⟨Nat.le_add_right _ _, Nat.add_lt_add_left hi _⟩
      · obtain ⟨j, rfl⟩ := Nat.exists_eq_add_of_le' (Nat.le_of_not_lt hi)
        have hposition : (s.pass (s.token kind (c :: cs.take n) k) k).position + j
            = s.position + (j + (n + 1)) := by
          simp only [Spot.pass, hstop]
          omega
        rw [getElem?_behind] at hd
        rw [← hposition]
        obtain ⟨t, ht, hin⟩ | hrest := ih j d hd
        · exact .inl ⟨t, List.mem_cons_of_mem _ ht, hin⟩
        · exact .inr hrest

theorem shebangLength_le (source : List Char) :
  shebangLength source ≤ source.length
  := by
  rw [shebangLength]
  split
  · apply runLength_le
  · apply Nat.zero_le

theorem covers_of_scan {source : List Char} {ts : List Token} (h : scan source = .ok ts) :
  ∀ n d, source[n]? = some d → (∃ t ∈ ts, t.start ≤ n ∧ n < t.stop)
    ∨ (∃ r ∈ comments source, r.start ≤ n ∧ n < r.stop) ∨ Text.isBlank d = true
  := by
  intro n d hd
  by_cases hn : n < shebangLength source
  · exact .inr (.inl ⟨_, List.mem_cons_self, Nat.zero_le _, hn⟩)
  · obtain ⟨i, rfl⟩ := Nat.exists_eq_add_of_le (Nat.le_of_not_lt hn)
    rw [← List.getElem?_drop] at hd
    obtain htoken | ⟨r, hr, hin⟩ | hblank := (scans_of_scanFrom h).covers i d hd
    · exact .inl htoken
    · exact .inr (.inl ⟨r, List.mem_cons_of_mem _ hr, hin⟩)
    · exact .inr (.inr hblank)

/-! ### Places of hooks -/

/-- A planned hook stands at the front, or where a token begins or ends. -/
theorem Insertion.Fits.at_token {i : Insertion} {previous : Option Token} {ts : List Token}
    (h : i.Fits previous ts) :
  i.position = 0 ∨ ∃ t, (t ∈ previous ∨ t ∈ ts) ∧ (i.position = t.start ∨ i.position = t.stop)
  := by
  induction ts generalizing previous with
  | nil =>
      obtain ⟨q, hq, hplace⟩ | ⟨t, ht, -⟩ | ⟨-, hzero⟩ := h.place
      · exact .inr ⟨q, .inl hq, .inr hplace⟩
      · cases ht
      · exact .inl hzero
  | cons t ts ih =>
      obtain h | h := h
      · obtain ⟨q, hq, hplace⟩ | ⟨u, hu, hplace⟩ | ⟨-, hzero⟩ := h.place
        · exact .inr ⟨q, .inl hq, .inr hplace⟩
        · exact .inr ⟨u, .inr (List.mem_of_mem_head? hu), .inl hplace⟩
        · exact .inl hzero
      · obtain hzero | ⟨u, ht | hu, hplace⟩ := ih h
        · exact .inl hzero
        · cases ht
          exact .inr ⟨t, .inr List.mem_cons_self, hplace⟩
        · exact .inr ⟨u, .inr (List.mem_cons_of_mem _ hu), hplace⟩

/-- Hooks are written into a source between its tokens and comments, around which there are blanks
alone, and can be taken out of it again. -/
structure Inserts (source : List Char) (tokens : List Token) (hooks : List Insertion) : Prop where
  source_eq : freeChars (stretches hooks) 0 (weave source hooks) = source
  hook_eq : ∀ r ∈ stretches hooks,
    ((weave source hooks).drop r.start).take r.hook.text.length = r.hook.text.toList
  newline_notMem : ∀ i ∈ hooks, '\n' ∉ i.hook.text.toList
  at_token : ∀ i ∈ hooks, i.position = 0
    ∨ ∃ t ∈ tokens, i.position = t.start ∨ i.position = t.stop
  outside_tokens : ∀ i ∈ hooks, ∀ t ∈ tokens, IsOutside i.position t.start t.stop
  outside_comments : ∀ i ∈ hooks, ∀ r ∈ comments source, IsOutside i.position r.start r.stop
  covers : ∀ n d, source[n]? = some d → (∃ t ∈ tokens, t.start ≤ n ∧ n < t.stop)
    ∨ (∃ r ∈ comments source, r.start ≤ n ∧ n < r.stop) ∨ Text.isBlank d = true

/-- Two tokens of a scan do not overlap. -/
theorem Linked.beside {previous : Option Token} {ts : List Token} (h : Linked previous ts) :
  ∀ t ∈ ts, ∀ u ∈ ts, t = u ∨ t.stop ≤ u.start ∨ u.stop ≤ t.start
  := by
  induction ts generalizing previous with
  | nil => rintro _ ⟨⟩
  | cons t ts ih =>
      have hle := h.2.le_start
      rw [List.forall_mem_cons, List.forall_mem_cons]
      use ⟨.inl rfl, fun u hu => .inr (.inl (hle u hu))⟩
      intro u hu
      rw [List.forall_mem_cons]
      exact ⟨.inr (.inr (hle u hu)), ih h.2 u hu⟩

/-- The ends of a token are outside of what lies beside it. -/
theorem Token.isOutside {t : Token} (ht : t.start < t.stop) {position start stop : Nat}
    (hplace : position = t.start ∨ position = t.stop)
    (hbeside : t.stop ≤ start ∨ stop ≤ t.start) :
  IsOutside position start stop
  := by
  rw [IsOutside]
  omega

/-- What a plan for the tokens of a source inserts. -/
theorem inserts_of_plan {source : List Char} {tokens : List Token} {hooks : List Insertion}
    (hscan : scan source = .ok tokens) (hplan : plan tokens = .ok hooks) :
  Inserts source tokens hooks
    ∧ Interleaved ((ordered hooks).map Insertion.hook) source (weave source hooks)
  := by
  have hscans := scans_of_scanFrom hscan
  have hlinked := linked_of_scan hscan
  have hsafe := plan_isSafe hlinked hplan
  have hlength : ∀ t ∈ tokens, t.stop ≤ source.length := by
    intro t ht
    have hle := hscans.stop_le t ht
    have hfirst := shebangLength_le source
    rw [List.length_drop] at hle
    dsimp only at hle
    omega
  have hsorted := ordered_pairwise hooks
  have hrange : ∀ i ∈ ordered hooks, 0 ≤ i.position ∧ i.position ≤ 0 + source.length := by
    intro i hi
    use Nat.zero_le _
    rw [Nat.zero_add]
    apply (hsafe i (List.mem_mergeSort.mp hi)).2.position_le hlinked _ hlength
    rintro _ ⟨⟩
  have hplace : ∀ i ∈ hooks, i.position = 0
      ∨ ∃ t ∈ tokens, i.position = t.start ∨ i.position = t.stop := by
    intro i hi
    obtain hzero | ⟨t, ht | ht, hplace⟩ := (hsafe i hi).2.at_token
    · exact .inl hzero
    · cases ht
    · exact .inr ⟨t, ht, hplace⟩
  constructor
  · constructor
    · apply freeChars_weaveFrom hsorted hrange
    · apply slice_weaveFrom hsorted hrange
    · exact fun i hi => (hsafe i hi).1.newline_notMem
    · exact hplace
    · intro i hi t ht
      obtain hzero | ⟨u, hu, hends⟩ := hplace i hi
      · rw [hzero]
        exact .inl (Nat.zero_le _)
      · obtain rfl | hbeside := hlinked.beside u hu t ht
        · rw [IsOutside]
          omega
        · apply u.isOutside (hlinked.pos u hu) hends hbeside
    · intro i hi r hr
      obtain hzero | ⟨t, ht, hends⟩ := hplace i hi
      · rw [hzero]
        exact .inl (Nat.zero_le _)
      · apply t.isOutside (hlinked.pos t ht) hends
        rw [comments, List.mem_cons] at hr
        obtain rfl | hr := hr
        · exact .inr (hscans.le_start t ht)
        · apply (hscans.beside_comments r hr).2 t ht
    · apply covers_of_scan hscan
  · apply interleaved_weaveFrom hsorted hrange

theorem analyse_eq_ok {source : String} {tokens : List Token} {hooks : List Insertion} :
  analyse source = .ok (tokens, hooks)
    ↔ scan source.toList = .ok tokens ∧ plan tokens = .ok hooks
  := by
  rw [analyse]
  constructor
  · intro h
    split at h
    · cases h
    · rename_i ts hscan
      split at h
      · cases h
      · rename_i hplan
        cases h
        exact ⟨hscan, hplan⟩
  · rintro ⟨hscan, hplan⟩
    simp only [hscan, hplan]

/-- Programs are aligned with their snippets, whether or not the snippets have hooks. -/
theorem instrument_isAligned (source : String) (o : TrackingOptions) :
  IsAligned source o (beginsStrict source) [] (plain source o)
    ∧ match analyse source with
      | .ok (tokens, hooks) =>
          IsAligned source o (asksStrict tokens) ((ordered hooks).map Insertion.hook)
              (instrument source o)
            ∧ Inserts source.toList tokens hooks
      | .error _ => instrument source o = plain source o
  := by
  constructor
  · apply isAligned_assemble _ o (interleaved_self _)
    rintro _ ⟨⟩
  · cases h : analyse source with
    | error e => rw [instrument, h]
    | ok found =>
        obtain ⟨tokens, hooks⟩ := found
        obtain ⟨hscan, hplan⟩ := analyse_eq_ok.mp h
        obtain ⟨hinserts, hwoven⟩ := inserts_of_plan hscan hplan
        have hhooks : ∀ i ∈ (ordered hooks).map Insertion.hook, '\n' ∉ i.text.toList := by
          rw [List.forall_mem_map]
          intro i hi
          apply hinserts.newline_notMem i (List.mem_mergeSort.mp hi)
        rw [← String.toList_ofList (l := weave source.toList hooks)] at hwoven
        rw [instrument, h]
        exact ⟨isAligned_assemble _ o hwoven hhooks, hinserts⟩

end SnippetProfiler.Braced
