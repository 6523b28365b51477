import SnippetProfiler.Braced.Growth
import SnippetProfiler.Proofs.Braced.Fragments

/-!
# Comments and the hint

The hint leaves out everything behind two slashes first and looks for block comments then, while the
scanner takes comments as they come.  Here we compare the two.

* If there are no two slashes on the last line of a block comment, and no slash behind its end, then the
  hint leaves out what the scanner skips: `Cut.withoutComments` says that `erased` remains.
* Unless a comment stands between two characters of words, it makes no difference to the loops and the
  braces whether it is left out or replaced by a space: `loopCount_blanked` and `braceDepth_blanked`.
-/

namespace SnippetProfiler.Braced

/-! ### Comments to the end of a line -/

/-- Whether the character `c`, with the characters `cs` behind it, is in a comment to the end of a line;
`inside` tells whether the character in front of it is in one. -/
def inLineComment (inside : Bool) (c : Char) (cs : List Char) : Bool :=
  if inside then c ≠ '\n' else c = '/' && cs.head? == some '/'

/-- Whether a text leaves off in a comment to the end of a line. -/
def endsInLineComment (inside : Bool) : List Char → Bool
  | [] => inside
  | c :: cs => endsInLineComment (inLineComment inside c cs) cs

theorem withoutLineComments_cons (inside : Bool) (c : Char) (cs : List Char) :
  withoutLineComments inside (c :: cs) =
    if inLineComment inside c cs then withoutLineComments true cs
    else c :: withoutLineComments false cs
  := by
  rw [withoutLineComments, inLineComment]
  cases inside with
  | true => simp
  | false => rfl

theorem inLineComment_false {c : Char} {cs : List Char} (h : c = '/' → cs.head? ≠ some '/') :
  inLineComment false c cs = false
  := by simpa [inLineComment] using h

theorem inLineComment_append {c : Char} {a b : List Char}
    (h : (c :: a).getLast? = some '/' → b.head? ≠ some '/') (inside : Bool) :
  inLineComment inside c (a ++ b) = inLineComment inside c a
  := by
  cases inside with
  | true => rfl
  | false =>
      cases a with
      | nil =>
          have hb : c = '/' → b.head? ≠ some '/' := fun hc => h (congrArg some hc)
          rw [List.nil_append, inLineComment_false hb, inLineComment_false (by simp)]
      | cons d a => rfl

/-- Two texts are read one behind the other if they do not make two slashes together. -/
theorem withoutLineComments_append {a b : List Char} (h : a.getLast? = some '/' → b.head? ≠ some '/')
    (inside : Bool) :
  withoutLineComments inside (a ++ b)
    = withoutLineComments inside a ++ withoutLineComments (endsInLineComment inside a) b
  := by
  induction a generalizing inside with
  | nil => rfl
  | cons c a ih =>
      have ih := ih fun ha => h (by rw [List.getLast?_cons, ha]; rfl)
      rw [List.cons_append, withoutLineComments_cons, withoutLineComments_cons,
        inLineComment_append h, endsInLineComment]
      cases inLineComment inside c a with
      | true => exact ih true
      | false => exact congrArg (c :: ·) (ih false)

theorem withoutLineComments_true {w cs : List Char} (hw : '\n' ∉ w) (hcs : ∀ d ∈ cs.head?, d = '\n') :
  withoutLineComments true (w ++ cs) = withoutLineComments false cs
  := by
  induction w with
  | nil =>
      cases cs with
      | nil => rfl
      | cons d cs =>
          rw [hcs d rfl]
          rfl
  | cons c w ih =>
      rw [List.mem_cons, not_or] at hw
      rw [List.cons_append, withoutLineComments, if_pos rfl, if_neg (Ne.symm hw.1), ih hw.2]

theorem head?_withoutLineComments {cs : List Char} (h : cs.head? ≠ some '/') :
  (withoutLineComments false cs).head? = cs.head?
  := by
  cases cs with
  | nil => rfl
  | cons c cs =>
      rw [withoutLineComments_cons, inLineComment_false]
      · rfl
      · rintro rfl
        cases h rfl

/-! ### Block comments -/

/-- A block comment is still closed by its last mark when all that stands behind two slashes on a line
of it is left out, unless these stand on its last line. -/
theorem IsCommentBody.withoutLineComments {w : List Char} (h : IsCommentBody w) {inside : Bool}
    (hend : endsInLineComment inside w = false) :
  IsCommentBody (withoutLineComments inside w)
  := by
  induction h generalizing inside with
  | close =>
      cases inside with
      | true => cases hend
      | false => exact .close
  | @char c w hc _ ih =>
      rw [endsInLineComment] at hend
      rw [withoutLineComments_cons]
      have ih := ih hend
      cases hin : inLineComment inside c w with
      | true =>
          rw [hin] at ih
          exact ih
      | false =>
          rw [hin] at ih
          apply IsCommentBody.char _ ih
          -- What follows a star is not left out, so that it closes the comment only where it did.
          intro hstar
          rw [head?_withoutLineComments (hc hstar)]
          exact hc hstar

theorem blockCommentLength_eq_none {c : Char} {cs : List Char} (h : c = '/' → cs.head? ≠ some '*') :
  blockCommentLength (c :: cs) = none
  := by
  rw [blockCommentLength]
  rintro ds ⟨⟩
  exact h rfl rfl

theorem withoutBlockComments_append (a b : List Char) :
  withoutBlockComments a.length (a ++ b) = withoutBlockComments 0 b
  := by
  induction a with
  | nil => rfl
  | cons c a ih => exact ih

/-- A block comment is left out with what it has in it. -/
theorem withoutBlockComments_block {a : List Char} {b : List Char}
    (h : commentLength (a ++ b) = some a.length) :
  withoutBlockComments 0 ('/' :: '*' :: a ++ b) = withoutBlockComments 0 b
  := by
  rw [List.cons_append, List.cons_append, withoutBlockComments, blockCommentLength, h]
  exact withoutBlockComments_append ('*' :: a) b

/-! ### What the hint leaves out -/

/-- Whether the hint takes a block comment to end elsewhere than the scanner does: there are two
slashes on its last line, or its last slash and the next character. -/
def misreads : List Fragment → Bool
  | [] => false
  | .char _ :: fs => misreads fs
  | .comment text :: fs =>
    (text.tail.head? == some '*' &&
      (endsInLineComment false text || (original fs).head? == some '/')) || misreads fs

/-- The hint leaves out what the scanner skips. -/
theorem Cut.withoutComments {cs : List Char} {fs : List Fragment} (h : Cut cs fs)
    (hfs : misreads fs = false) :
  withoutComments cs = erased fs
  := by
  rw [Braced.withoutComments]
  induction h with
  | nil => rfl
  | @char c cs fs hopens _ ih =>
      rw [opensComment_eq_false] at hopens
      have hline := inLineComment_false fun hc => (hopens hc).1
      rw [withoutLineComments_cons, hline, if_neg Bool.false_ne_true, withoutBlockComments,
        blockCommentLength_eq_none]
      · exact congrArg (c :: ·) (ih hfs)
      · intro hc
        rw [head?_withoutLineComments (hopens hc).1]
        exact (hopens hc).2
  | @line w cs fs hw hcs _ ih =>
      have hline : withoutLineComments false ('/' :: '/' :: w ++ cs)
          = withoutLineComments true ('/' :: w ++ cs) := rfl
      rw [hline, withoutLineComments_true _ hcs]
      · exact ih hfs
      · simpa using hw
  | @block n cs fs h htail ih =>
      rw [misreads, htail.original] at hfs
      simp only [List.tail_cons, List.head?_cons, beq_self_eq_true, Bool.true_and,
        Bool.or_eq_false_iff, beq_eq_false_iff_ne] at hfs
      obtain ⟨⟨hend, hnext⟩, hfs⟩ := hfs
      have hbody : endsInLineComment false (cs.take n) = false := hend
      have hopen : withoutLineComments false ('/' :: '*' :: cs)
          = '/' :: '*' :: withoutLineComments false cs := rfl
      have happend := withoutLineComments_append (a := cs.take n) (fun _ => hnext) false
      rw [List.take_append_drop, hbody] at happend
      rw [hopen, happend, ← List.cons_append, ← List.cons_append, withoutBlockComments_block]
      · exact ih hfs
      · obtain ⟨w, y, rfl, rfl, hw⟩ := exists_isCommentBody h
        rw [List.take_left] at hbody ⊢
        exact (hw.withoutLineComments hbody).commentLength_append _

theorem misreads_map_char (w : List Char) :
  misreads (w.map .char) = false
  := by
  induction w with
  | nil => rfl
  | cons c w ih => exact ih

theorem withoutComments_of_not_hasComment {w : List Char} (hw : hasComment w = false) :
  withoutComments w = w
  := by rw [(cut_map_char hw).withoutComments (misreads_map_char w), erased_map_char]

/-! ### Braces and loops -/

/-- Spaces do not change the depth of braces. -/
theorem braceDepth_blanked (fs : List Fragment) {depth deepest : Nat} (h : depth ≤ deepest) :
  braceDepth depth deepest (blanked fs) = braceDepth depth deepest (erased fs)
  := by
  induction fs generalizing depth deepest with
  | nil => rfl
  | cons f fs ih =>
      cases f with
      | char c => exact ih (Nat.le_max_right _ _)
      | comment text =>
          have hspace : braceDepth depth deepest (' ' :: blanked fs)
              = braceDepth depth (max deepest depth) (blanked fs) := rfl
          rw [blanked, erased, hspace, Nat.max_eq_left h, ih h]

/-- Whether a word goes on behind a comment. -/
def joinsWords (inWord : Bool) : List Fragment → Bool
  | [] => false
  | .char c :: fs => joinsWords (isWordChar c) fs
  | .comment _ :: fs => (inWord && (erased fs).head?.any isWordChar) || joinsWords false fs

/-- Whether a parenthesis follows, behind blank characters. -/
def opensParenthesis (s : List Char) : Bool := (s.dropWhile Text.isBlank).head? == some '('

theorem opensParenthesis_blanked (fs : List Fragment) :
  opensParenthesis (blanked fs) = opensParenthesis (erased fs)
  := by
  induction fs with
  | nil => rfl
  | cons f fs ih =>
      cases f with
      | char c =>
          rw [opensParenthesis, opensParenthesis, blanked, erased, List.dropWhile_cons,
            List.dropWhile_cons]
          split
          · exact ih
          · rfl
      | comment text =>
          have hblank : Text.isBlank ' ' = true := by decide
          rw [opensParenthesis, blanked, List.dropWhile_cons_of_pos hblank, erased]
          exact ih

theorem isWordChar_space :
  isWordChar ' ' = false
  := by decide

theorem isPrefixOf_eq_false {d : Char} (hd : isWordChar d = true) (word : List Char) {s : List Char}
    (hs : s.head?.any isWordChar = false) :
  (d :: word).isPrefixOf s = false
  := by
  cases s with
  | nil => rfl
  | cons c s =>
      have hne : d ≠ c := by
        rintro rfl
        rw [List.head?_cons, Option.any_some, hd] at hs
        cases hs
      rw [List.isPrefixOf_cons_cons, beq_false_of_ne hne]
      rfl

/-- A word with a parenthesis behind it is found again when comments are replaced by spaces, if none of
them stands in the word. -/
theorem isPrefixOf_blanked {word : List Char} (hword : ∀ d ∈ word, isWordChar d = true)
    {fs : List Fragment} (hfs : joinsWords true fs = false) :
  (word.isPrefixOf (blanked fs) && opensParenthesis ((blanked fs).drop word.length))
    = (word.isPrefixOf (erased fs) && opensParenthesis ((erased fs).drop word.length))
  := by
  induction word generalizing fs with
  | nil => exact opensParenthesis_blanked fs
  | cons d word ih =>
      rw [List.forall_mem_cons] at hword
      cases fs with
      | nil => rfl
      | cons f fs =>
          cases f with
          | char c =>
              rw [blanked, erased, List.isPrefixOf_cons_cons, List.isPrefixOf_cons_cons, List.length_cons,
                List.drop_succ_cons, List.drop_succ_cons]
              by_cases hd : d = c
              · subst hd
                rw [joinsWords, hword.1] at hfs
                rw [Bool.and_assoc, Bool.and_assoc, ih hword.2 hfs]
              · rw [beq_false_of_ne hd]
                rfl
          | comment text =>
              have hspace : (blanked (.comment text :: fs)).head?.any isWordChar = false :=
                isWordChar_space
              rw [joinsWords, Bool.or_eq_false_iff, Bool.true_and] at hfs
              rw [isPrefixOf_eq_false hword.1 word hspace, erased,
                isPrefixOf_eq_false hword.1 word hfs.1]
              rfl

/-- The words of loops consist of characters of words. -/
theorem isWordChar_of_mem {word : String} (hword : word ∈ ["for", "while"]) :
  ∀ d ∈ word.toList, isWordChar d = true
  := by
  have hall : (["for", "while"].all fun word => word.toList.all isWordChar) = true := by
    decide
  exact List.all_eq_true.mp (List.all_eq_true.mp hall word hword)

theorem beginsLoop_blanked {fs : List Fragment} (hfs : joinsWords true fs = false) :
  beginsLoop (blanked fs) = beginsLoop (erased fs)
  := by
  have h : ∀ word ∈ ["for", "while"],
      (word.toList.isPrefixOf (blanked fs) && opensParenthesis ((blanked fs).drop word.length))
        = (word.toList.isPrefixOf (erased fs) && opensParenthesis ((erased fs).drop word.length)) := by
    intro word hword
    rw [← String.length_toList]
    exact isPrefixOf_blanked (isWordChar_of_mem hword) hfs
  have hfor := h "for" (by decide)
  have hwhile := h "while" (by decide)
  simp only [beginsLoop, List.any_cons, List.any_nil]
  exact congrArg₂ or hfor (congrArg (or · false) hwhile)

theorem beginsLoop_eq_false {s : List Char} (hs : s.head?.any isWordChar = false) :
  beginsLoop s = false
  := by
  have h : ∀ word ∈ ["for", "while"], word.toList.isPrefixOf s = false := by
    intro word hword
    have hchars := isWordChar_of_mem hword
    have hne : word.toList ≠ [] := by
      rintro h
      rw [String.toList_eq_nil_iff.mp h] at hword
      revert hword
      decide
    obtain ⟨d, ds, hds⟩ := List.exists_cons_of_ne_nil hne
    rw [hds] at hchars ⊢
    exact isPrefixOf_eq_false (hchars d List.mem_cons_self) ds hs
  rw [beginsLoop, List.any_eq_false]
  intro word hword
  rw [h word hword]
  exact Bool.false_ne_true

/-- It makes no difference in front of a character outside words whether a word goes on. -/
theorem loopCount_of_head? {s : List Char} (hs : s.head?.any isWordChar = false) (inWord : Bool) :
  loopCount inWord s = loopCount false s
  := by
  cases s with
  | nil => rfl
  | cons c s => rw [loopCount, loopCount, beginsLoop_eq_false hs, Bool.and_false, Bool.and_false]

/-- Spaces do not change the number of loops. -/
theorem loopCount_blanked {fs : List Fragment} {inWord : Bool} (hfs : joinsWords inWord fs = false) :
  loopCount inWord (blanked fs) = loopCount inWord (erased fs)
  := by
  induction fs generalizing inWord with
  | nil => rfl
  | cons f fs ih =>
      cases f with
      | char c =>
          have hbegins : beginsLoop (c :: blanked fs) = beginsLoop (c :: erased fs) :=
            @beginsLoop_blanked (.char c :: fs) hfs
          rw [blanked, erased, loopCount, loopCount, hbegins, ih hfs]
      | comment text =>
          rw [joinsWords, Bool.or_eq_false_iff] at hfs
          have hspace : beginsLoop (' ' :: blanked fs) = false := beginsLoop_eq_false isWordChar_space
          rw [blanked, erased, loopCount, hspace, isWordChar_space, Bool.and_false, ih hfs.2]
          have herased : loopCount inWord (erased fs) = loopCount false (erased fs) := by
            cases inWord with
            | false => rfl
            | true => exact loopCount_of_head? hfs.1 true
          rw [herased]
          exact Nat.zero_add _

/-! ### The hint -/

/-- The hint does not change when spaces are written for the comments of a text without literals, if it
takes no comment to end elsewhere than the scanner does, no comment stands between two characters of
words, and none begins in a first line that names an interpreter. -/
theorem growthHint_blanked {source : String} (hsource : isLiteralFree source.toList = true)
    (hfirst : hasComment (source.toList.take (shebangLength source.toList)) = false)
    (hmisreads : misreads (fragments source.toList) = false)
    (hjoins : joinsWords false (fragments source.toList) = false) :
  growthHint (.ofList (blanked (fragments source.toList))) = growthHint source
  := by
  have hcut := cut_fragments hsource hfirst
  rw [growthHint, growthHint, String.toList_ofList,
    withoutComments_of_not_hasComment hcut.hasComment_blanked, hcut.withoutComments hmisreads,
    loopCount_blanked hjoins, braceDepth_blanked _ (Nat.le_refl 0)]

/-- A loop with comments of both sorts, one over several lines and in front of the parenthesis. -/
def commented : String := "// a\nfor /* b\n// c\n */ (;;) x /= 2;"

theorem growthHint_blanked_commented :
  isLiteralFree commented.toList = true ∧ misreads (fragments commented.toList) = false
    ∧ joinsWords false (fragments commented.toList) = false
    ∧ growthHint (.ofList (blanked (fragments commented.toList))) = growthHint commented
  := by
  have hfree : isLiteralFree commented.toList = true := by decide +kernel
  have hmisreads : misreads (fragments commented.toList) = false := by decide +kernel
  have hjoins : joinsWords false (fragments commented.toList) = false := by decide +kernel
  exact ⟨hfree, hmisreads, hjoins, growthHint_blanked hfree (by decide) hmisreads hjoins⟩

/-- Two slashes in a block comment hide what follows on its line. -/
theorem not_always_blanked :
  ¬ ∀ source : String, isLiteralFree source.toList = true →
    growthHint (.ofList (blanked (fragments source.toList))) = growthHint source
  := by
  intro h
  have hloop := h "/* // */ for (;;);" (by decide +kernel)
  revert hloop
  decide +kernel

end SnippetProfiler.Braced
