import SnippetProfiler.Proofs.Braced.Scans

/-!
# Texts and their comments

The scanner finds the comments of a text from left to right: of two slashes and a slash with a star the
first one counts.  `fragments` cuts a text along the comments that it finds, `erased` leaves them out, and
`blanked` writes a space for each.

In a text without literals a comment begins wherever the marks of one stand outside another.  `Cut` says
so without the scanner, and `cut_fragments` that the scanner cuts such a text in this way.
-/

namespace SnippetProfiler.Braced

/-! ### Fragments -/

/-- A character outside all comments, or a whole comment. -/
inductive Fragment where
  | char (c : Char)
  | comment (text : List Char)
  deriving DecidableEq, Repr

/-- The fragments of the characters from a spot on.  What the scanner cannot read is no comment. -/
def fragmentsFrom (s : Spot) (source : List Char) : List Fragment :=
  match source with
  | [] => []
  | c :: cs =>
    match readPiece s c cs with
    | .error _ => (c :: cs).map .char
    | .ok (.gap extra lines) =>
      (if c = '/' then .comment (c :: cs.take extra) else .char c) ::
        fragmentsFrom (s.skip (extra + 1) lines) (cs.drop extra)
    | .ok (.lexeme kind extra lines) =>
      (c :: cs.take extra).map .char ++
        fragmentsFrom (s.pass (s.token kind (c :: cs.take extra) lines) lines) (cs.drop extra)
  termination_by source.length
  decreasing_by all_goals (simp only [List.length_cons, List.length_drop]; omega)

/-- The fragments of a text. -/
def fragments (source : List Char) : List Fragment :=
  let n := shebangLength source
  (source.take n).map .char ++ fragmentsFrom { position := n } (source.drop n)

/-- The text that was cut into fragments. -/
def original : List Fragment → List Char
  | [] => []
  | .char c :: fs => c :: original fs
  | .comment text :: fs => text ++ original fs

/-- What remains without the comments. -/
def erased : List Fragment → List Char
  | [] => []
  | .char c :: fs => c :: erased fs
  | .comment _ :: fs => erased fs

/-- A text with a space in place of each comment. -/
def blanked : List Fragment → List Char
  | [] => []
  | .char c :: fs => c :: blanked fs
  | .comment _ :: fs => ' ' :: blanked fs

/-! ### Cuts -/

/-- Whether a comment begins at the front of a text. -/
def opensComment : List Char → Bool
  | '/' :: c :: _ => c = '/' || c = '*'
  | _ => false

/-- Whether a comment begins somewhere in a text. -/
def hasComment : List Char → Bool
  | [] => false
  | c :: cs => opensComment (c :: cs) || hasComment cs

/-- The fragments of a text without literals: a comment begins wherever the marks of one stand. -/
inductive Cut : List Char → List Fragment → Prop
  | nil : Cut [] []
  | char {c : Char} {cs : List Char} {fs : List Fragment} (h : opensComment (c :: cs) = false)
      (htail : Cut cs fs) : Cut (c :: cs) (.char c :: fs)
  | line {w cs : List Char} {fs : List Fragment} (hw : '\n' ∉ w) (hcs : ∀ d ∈ cs.head?, d = '\n')
      (htail : Cut cs fs) : Cut ('/' :: '/' :: w ++ cs) (.comment ('/' :: '/' :: w) :: fs)
  | block {n : Nat} {cs : List Char} {fs : List Fragment} (h : commentLength cs = some n)
      (htail : Cut (cs.drop n) fs) :
      Cut ('/' :: '*' :: cs) (.comment ('/' :: '*' :: cs.take n) :: fs)

theorem opensComment_eq_false {c : Char} {cs : List Char} :
  opensComment (c :: cs) = false ↔ (c = '/' → isBare cs)
  := by
  by_cases hc : c = '/'
  · subst hc
    cases cs with
    | nil => simp [opensComment, isBare]
    | cons d cs => simp [opensComment, isBare]
  · constructor
    · intro _ h
      cases hc h
    · intro _
      rw [opensComment]
      rintro d ds ⟨⟩
      cases hc rfl

theorem hasComment_of_not_mem {w : List Char} (hw : '/' ∉ w) :
  hasComment w = false
  := by
  induction w with
  | nil => rfl
  | cons c w ih =>
      rw [List.mem_cons, not_or] at hw
      rw [hasComment, opensComment_eq_false.mpr (fun hc => absurd hc.symm hw.1), ih hw.2]
      rfl

/-- Characters in which no comment begins are fragments of their own, in front of whatever does not make
a comment of their last one. -/
theorem Cut.append {w cs : List Char} {fs : List Fragment} (h : Cut cs fs)
    (hw : hasComment w = false) (hend : w.getLast? = some '/' → isBare cs) :
  Cut (w ++ cs) (w.map .char ++ fs)
  := by
  induction w with
  | nil => exact h
  | cons c w ih =>
      rw [hasComment, Bool.or_eq_false_iff, opensComment_eq_false] at hw
      cases w with
      | nil =>
          apply Cut.char (opensComment_eq_false.mpr _) h
          rintro rfl
          exact hend rfl
      | cons d w =>
          rw [List.getLast?_cons_cons] at hend
          exact Cut.char (opensComment_eq_false.mpr hw.1) (ih hw.2 hend)

/-- A text without comments is cut into its characters. -/
theorem cut_map_char {w : List Char} (hw : hasComment w = false) :
  Cut w (w.map .char)
  := by
  have h : Cut (w ++ []) (w.map .char ++ []) :=
    Cut.append Cut.nil hw fun _ => ⟨by simp, by simp⟩
  rwa [List.append_nil, List.append_nil] at h

theorem erased_map_char (w : List Char) :
  erased (w.map .char) = w
  := by
  induction w with
  | nil => rfl
  | cons c w ih => exact congrArg (c :: ·) ih

theorem Cut.original {cs : List Char} {fs : List Fragment} (h : Cut cs fs) :
  original fs = cs
  := by
  induction h with
  | nil => rfl
  | char _ _ ih => rw [Braced.original, ih]
  | line _ _ _ ih => rw [Braced.original, ih]
  | block _ _ ih =>
      rw [Braced.original, ih, List.cons_append, List.cons_append, List.take_append_drop]

/-- No comment is left when there are spaces in their places. -/
theorem Cut.hasComment_blanked {cs : List Char} {fs : List Fragment} (h : Cut cs fs) :
  hasComment (blanked fs) = false
  := by
  induction h with
  | nil => rfl
  | @char c cs fs hopens htail ih =>
      rw [blanked, hasComment, ih, Bool.or_false, opensComment_eq_false]
      intro hc
      have hbare := opensComment_eq_false.mp hopens hc
      cases htail with
      | nil => exact hbare
      | char => exact hbare
      | line => cases hbare.1 rfl
      | block => cases hbare.1 rfl
  | line _ _ _ ih => exact ih
  | block _ _ ih => exact ih

/-! ### The cut of a scan -/

/-- Texts, templates and regular expressions are literals. -/
def TokenKind.isLiteral : TokenKind → Bool
  | .text | .template | .regex => true
  | .identifier | .number | .mark => false

/-- Whether a text can be cut into tokens, none of which is a literal. -/
def isLiteralFree (source : List Char) : Bool :=
  match scan source with
  | .ok ts => ts.all fun t => !t.kind.isLiteral
  | .error _ => false

theorem exists_scan_of_isLiteralFree {source : List Char} (h : isLiteralFree source = true) :
  ∃ ts, scan source = .ok ts ∧ ∀ t ∈ ts, t.kind.isLiteral = false
  := by
  rw [isLiteralFree] at h
  split at h
  · rename_i ts hts
    use ts, hts
    simpa using h
  · cases h

/-- A gap is a blank character or a comment. -/
theorem Begins.cut_gap {s : Spot} {c : Char} {cs : List Char} {n k : Nat}
    (h : Begins s c cs (.gap n k)) {fs : List Fragment} (htail : Cut (cs.drop n) fs) :
  Cut (c :: cs) ((if c = '/' then .comment (c :: cs.take n) else .char c) :: fs)
  := by
  cases h with
  | newline hc =>
      subst hc
      exact Cut.char rfl htail
  | blank _ hblank =>
      have hc : c ≠ '/' := by
        rintro rfl
        rw [(of_mem_ownMeaning (by decide)).1] at hblank
        cases hblank
      rw [if_neg hc]
      exact Cut.char (opensComment_eq_false.mpr (absurd · hc)) htail
  | lineComment hc hcs =>
      subst hc
      cases cs with
      | nil => cases hcs
      | cons d cs =>
          cases hcs
          have hrun : runLength (· != '\n') ('/' :: cs) = runLength (· != '\n') cs + 1 := rfl
          rw [hrun, List.drop_succ_cons] at htail
          rw [if_pos rfl, hrun, List.take_succ_cons]
          have hcut := Cut.line (not_mem_take_runLength (p := (· != '\n')) rfl cs)
            (fun d hd => by simpa using head?_drop_runLength _ cs d hd) htail
          rwa [List.cons_append, List.cons_append, List.take_append_drop] at hcut
  | blockComment hc hcs hn =>
      subst hc
      cases cs with
      | nil => cases hcs
      | cons d cs =>
          cases hcs
          exact Cut.block hn htail

/-- There is no slash behind the first character of a long mark. -/
theorem not_mem_tail_of_mem_longMarks {m : String} (hm : m ∈ longMarks) :
  '/' ∉ m.toList.tail
  := by
  have hall : ∀ m ∈ longMarks, '/' ∉ m.toList.tail := by decide
  exact hall m hm

theorem slash_not_mem_mark (c : Char) (cs : List Char) :
  '/' ∉ cs.take (markLength (c :: cs) - 1)
  := by
  rw [markLength]
  split
  · rename_i m hm
    have hp := List.find?_some hm
    rw [List.isPrefixOf_iff_prefix] at hp
    have htail := not_mem_tail_of_mem_longMarks (List.mem_of_find?_eq_some hm)
    rwa [List.prefix_iff_eq_take.mp hp, String.length_toList, ← List.drop_one, List.drop_take]
      at htail
  · exact List.not_mem_nil

/-- No comment begins in a token that is no literal. -/
theorem Begins.cut_lexeme {s : Spot} {c : Char} {cs : List Char} {kind : TokenKind} {n k : Nat}
    (h : Begins s c cs (.lexeme kind n k)) (hkind : kind.isLiteral = false) {fs : List Fragment}
    (htail : Cut (cs.drop n) fs) :
  Cut (c :: cs) ((c :: cs.take n).map .char ++ fs)
  := by
  have hslash : (c = '/' → isBare cs) ∧ '/' ∉ cs.take n := by
    cases h with
    | text => cases hkind
    | template => cases hkind
    | regex => cases hkind
    | identifier _ hc =>
        obtain ⟨hne, -⟩ := ne_of_class (fun d hd => (of_mem_ownMeaning hd).2.1) hc
        exact ⟨fun h => absurd h hne, not_mem_take_runLength (by decide) cs⟩
    | number hc =>
        refine ⟨?_, not_mem_take_runLength (by decide) cs⟩
        rintro rfl
        obtain hc | ⟨hc, -⟩ := hc
        · cases hc
        · cases hc
    | mark _ _ _ hslash => exact ⟨fun hc => (hslash hc).1, slash_not_mem_mark c cs⟩
  have htail' : Cut (cs.take n ++ cs.drop n) ((cs.take n).map .char ++ fs) := by
    apply htail.append (hasComment_of_not_mem hslash.2)
    intro hlast
    cases hslash.2 (List.mem_of_getLast? hlast)
  rw [List.take_append_drop] at htail'
  exact Cut.char (opensComment_eq_false.mpr hslash.1) htail'

/-- The fragments of a scan without literals are those of a text without literals. -/
theorem Scans.cut {s : Spot} {cs : List Char} {ts : List Token} (h : Scans s cs ts)
    (hts : ∀ t ∈ ts, t.kind.isLiteral = false) :
  Cut cs (fragmentsFrom s cs)
  := by
  induction h with
  | done =>
      rw [fragmentsFrom]
      exact Cut.nil
  | gap h _ ih =>
      rw [fragmentsFrom, h.readPiece]
      exact h.cut_gap (ih hts)
  | lexeme h _ ih =>
      rw [List.forall_mem_cons] at hts
      rw [fragmentsFrom, h.readPiece]
      exact h.cut_lexeme hts.1 (ih hts.2)

theorem cut_fragments {source : List Char} (hsource : isLiteralFree source = true)
    (hfirst : hasComment (source.take (shebangLength source)) = false) :
  Cut source (fragments source)
  := by
  -- Behind a first line that names an interpreter there is a newline, or nothing.
  have hend : (source.take (shebangLength source)).getLast? = some '/' →
      isBare (source.drop (shebangLength source)) := by
    intro hlast
    rw [shebangLength] at hlast ⊢
    split
    · have hbehind := head?_drop_runLength (· != '\n') source
      constructor
      · intro hd
        cases hbehind _ hd
      · intro hd
        cases hbehind _ hd
    · rename_i hline
      rw [if_neg hline] at hlast
      cases hlast
  obtain ⟨ts, hscan, hts⟩ := exists_scan_of_isLiteralFree hsource
  have hcut := ((scans_of_scanFrom hscan).cut hts).append hfirst hend
  rwa [List.take_append_drop] at hcut

end SnippetProfiler.Braced
