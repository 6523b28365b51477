import Mathlib.Tactic.Common
import SnippetProfiler.Braced.Token

/-!
# How far the scanner looks ahead

The lengths that the scanner takes depend on the characters behind a piece only as far as the
piece extends, and on the character behind that: a length that is counted stays the same when the
text behind it is replaced by one with which it does not go on.
-/

namespace SnippetProfiler.Braced

/-! ### Runs of characters -/

theorem runLength_le (p : Char → Bool) (cs : List Char) :
  runLength p cs ≤ cs.length
  := by
  apply (List.takeWhile_sublist p).length_le

/-- A run that ends before some place does not depend on what stands behind, and one that ends
there goes on only with a character of its class. -/
theorem runLength_append {p : Char → Bool} {a z : List Char}
    (h : runLength p (a ++ z) ≤ a.length) {y : List Char}
    (hy : runLength p (a ++ z) = a.length → ∀ x ∈ y.head?, p x = false) :
  runLength p (a ++ y) = runLength p (a ++ z)
  := by
  induction a with
  | nil =>
      have hz : runLength p z = 0 := Nat.le_zero.mp h
      rw [List.nil_append, List.nil_append, hz]
      cases y with
      | nil => rfl
      | cons x y =>
          have hx := hy hz x rfl
          simp only [runLength, List.takeWhile_cons, hx, Bool.false_eq_true, if_false,
            List.length_nil]
  | cons b a ih =>
      cases hb : p b with
      | true =>
          simp only [runLength, List.cons_append, List.takeWhile_cons, hb, if_true,
            List.length_cons, Nat.add_le_add_iff_right, Nat.add_right_cancel_iff] at h hy ⊢
          apply ih h hy
      | false =>
          simp only [runLength, List.cons_append, List.takeWhile_cons, hb, Bool.false_eq_true,
            if_false]

/-- The same for a run that begins behind some of the characters. -/
theorem runLength_drop_append {p : Char → Bool} {a z : List Char} {n : Nat} (hn : n ≤ a.length)
    (h : n + runLength p ((a ++ z).drop n) ≤ a.length) {y : List Char}
    (hy : n + runLength p ((a ++ z).drop n) = a.length → ∀ x ∈ y.head?, p x = false) :
  runLength p ((a ++ y).drop n) = runLength p ((a ++ z).drop n)
  := by
  rw [List.drop_append_of_le_length hn] at h hy ⊢
  rw [List.drop_append_of_le_length hn]
  apply runLength_append
  · rw [List.length_drop]
    omega
  · intro hrun
    apply hy
    rw [hrun, List.length_drop]
    omega

/-- A run is not empty if the first character is of its class. -/
theorem runLength_pos {p : Char → Bool} {cs : List Char} (h : cs.head?.any p = true) :
  0 < runLength p cs
  := by
  cases cs with
  | nil => cases h
  | cons c cs =>
      have hc : p c = true := h
      rw [runLength, List.takeWhile_cons_of_pos hc]
      apply Nat.succ_pos

/-- A run is as long as the characters of its class in front of one of another class. -/
theorem runLength_eq {p : Char → Bool} {w : List Char} (hw : ∀ d ∈ w, p d = true) {x : Char}
    (hx : p x = false) (y : List Char) :
  runLength p (w ++ x :: y) = w.length
  := by
  rw [runLength, List.takeWhile_append_of_pos hw, List.takeWhile_cons_of_neg, List.append_nil]
  rw [hx]
  apply Bool.false_ne_true

/-- A run does not go on behind its end. -/
theorem head?_drop_runLength (p : Char → Bool) (cs : List Char) :
  ∀ d ∈ (cs.drop (runLength p cs)).head?, p d = false
  := by
  induction cs with
  | nil =>
      intro d hd
      cases hd
  | cons c cs ih =>
      cases hc : p c with
      | true =>
          rw [runLength, List.takeWhile_cons_of_pos hc]
          exact ih
      | false =>
          rw [runLength, List.takeWhile_cons_of_neg (Bool.not_eq_true _ ▸ hc)]
          rintro d ⟨⟩
          exact hc

/-! ### Comments -/

theorem commentLength_cons (c : Char) (cs : List Char) :
  commentLength (c :: cs) =
    if c = '*' ∧ cs.head? = some '/' then some 2 else (commentLength cs).map (· + 1)
  := by
  split
  · rename_i h
    obtain ⟨rfl, h⟩ := h
    cases cs with
    | nil => cases h
    | cons d cs =>
        cases h
        rfl
  · rename_i h
    rw [commentLength]
    rintro cs' rfl hd
    apply h
    rw [hd]
    exact ⟨rfl, rfl⟩

/-- What stands in a block comment behind its beginning: up to the first star with a slash behind it. -/
inductive IsCommentBody : List Char → Prop
  | close : IsCommentBody ['*', '/']
  | char {c : Char} {w : List Char} (hc : c = '*' → w.head? ≠ some '/') (h : IsCommentBody w) :
      IsCommentBody (c :: w)

theorem IsCommentBody.exists_cons {w : List Char} (h : IsCommentBody w) :
  ∃ d v, w = d :: v
  := by
  cases h with
  | close => exact ⟨_, _, rfl⟩
  | char => exact ⟨_, _, rfl⟩

theorem exists_isCommentBody {cs : List Char} {n : Nat} (h : commentLength cs = some n) :
  ∃ w y, cs = w ++ y ∧ n = w.length ∧ IsCommentBody w
  := by
  induction cs generalizing n with
  | nil => cases h
  | cons c cs ih =>
      rw [commentLength_cons] at h
      split at h
      · rename_i hend
        cases h
        obtain ⟨rfl, hend⟩ := hend
        cases cs with
        | nil => cases hend
        | cons d cs =>
            cases hend
            exact ⟨_, cs, rfl, rfl, .close⟩
      · rename_i hend
        obtain ⟨k, hk, rfl⟩ := Option.map_eq_some_iff.mp h
        obtain ⟨w, y, rfl, rfl, hw⟩ := ih hk
        obtain ⟨d, v, rfl⟩ := hw.exists_cons
        exact ⟨c :: d :: v, y, rfl, rfl, .char (fun hc hd => hend ⟨hc, hd⟩) hw⟩

theorem IsCommentBody.commentLength_append {w : List Char} (h : IsCommentBody w) (y : List Char) :
  commentLength (w ++ y) = some w.length
  := by
  induction h with
  | close => rfl
  | char hc hw ih =>
      obtain ⟨d, v, rfl⟩ := hw.exists_cons
      rw [List.cons_append, commentLength_cons, ih, if_neg]
      · rfl
      · rintro ⟨hstar, hslash⟩
        exact hc hstar hslash

theorem le_length_of_commentLength {cs : List Char} {n : Nat} (h : commentLength cs = some n) :
  n ≤ cs.length
  := by
  obtain ⟨w, y, rfl, rfl, -⟩ := exists_isCommentBody h
  rw [List.length_append]
  apply Nat.le_add_right

/-- The length of a comment depends only on the characters that it counts. -/
theorem commentLength_take {cs : List Char} {n : Nat} (h : commentLength cs = some n)
    (y : List Char) :
  commentLength (cs.take n ++ y) = some n
  := by
  obtain ⟨w, z, rfl, rfl, hw⟩ := exists_isCommentBody h
  rw [List.take_left]
  apply hw.commentLength_append

/-! ### Texts -/

theorem textLength_of_ne {quote c : Char} (hc : c ≠ '\\') (cs : List Char) :
  textLength quote (c :: cs) =
    if c = quote then some 1 else if c = '\n' then none else (textLength quote cs).map (· + 1)
  := by
  rw [textLength]
  rintro _ _ rfl
  cases hc rfl

/-- What stands in a text behind the mark `quote` at its beginning: up to the next such mark that stands
behind no backslash. -/
inductive IsTextBody (quote : Char) : List Char → Prop
  | close : IsTextBody quote [quote]
  | escape (d : Char) {w : List Char} (h : IsTextBody quote w) : IsTextBody quote ('\\' :: d :: w)
  | char {c : Char} {w : List Char} (hc : c ≠ '\\') (hquote : c ≠ quote) (hline : c ≠ '\n')
      (h : IsTextBody quote w) : IsTextBody quote (c :: w)

theorem IsTextBody.exists_cons {quote : Char} {w : List Char} (h : IsTextBody quote w) :
  ∃ d v, w = d :: v
  := by
  cases h with
  | close => exact ⟨_, _, rfl⟩
  | escape => exact ⟨_, _, rfl⟩
  | char => exact ⟨_, _, rfl⟩

theorem exists_isTextBody {quote : Char} {cs : List Char} {n : Nat}
    (h : textLength quote cs = some n) :
  ∃ w y, cs = w ++ y ∧ n = w.length ∧ IsTextBody quote w
  := by
  fun_induction textLength quote cs generalizing n with
  | case1 d cs ih =>
      obtain ⟨k, hk, rfl⟩ := Option.map_eq_some_iff.mp h
      obtain ⟨w, y, rfl, rfl, hw⟩ := ih hk
      exact ⟨'\\' :: d :: w, y, rfl, rfl, .escape d hw⟩
  | case2 cs =>
      cases h
      exact ⟨[quote], cs, rfl, rfl, .close⟩
  | case3 => cases h
  | case4 c cs hescape hquote hline ih =>
      obtain ⟨k, hk, rfl⟩ := Option.map_eq_some_iff.mp h
      obtain ⟨w, y, rfl, rfl, hw⟩ := ih hk
      obtain ⟨d, v, rfl⟩ := hw.exists_cons
      exact ⟨c :: d :: v, y, rfl, rfl, .char (fun hc => hescape d _ hc rfl) hquote hline hw⟩
  | case5 => cases h

theorem IsTextBody.textLength_append {quote : Char} (hq : quote ≠ '\\') {w : List Char}
    (h : IsTextBody quote w) (y : List Char) :
  textLength quote (w ++ y) = some w.length
  := by
  induction h with
  | close => rw [List.singleton_append, textLength_of_ne hq, if_pos rfl, List.length_singleton]
  | escape d _ ih =>
      rw [List.cons_append, List.cons_append, textLength, ih]
      rfl
  | char hc hquote hline _ ih =>
      rw [List.cons_append, textLength_of_ne hc, if_neg hquote, if_neg hline, ih]
      rfl

theorem le_length_of_textLength {quote : Char} {cs : List Char} {n : Nat}
    (h : textLength quote cs = some n) :
  n ≤ cs.length
  := by
  obtain ⟨w, y, rfl, rfl, -⟩ := exists_isTextBody h
  rw [List.length_append]
  apply Nat.le_add_right

/-- The length of a text depends only on the characters that it counts. -/
theorem textLength_take {quote : Char} (hq : quote ≠ '\\') {cs : List Char} {n : Nat}
    (h : textLength quote cs = some n) (y : List Char) :
  textLength quote (cs.take n ++ y) = some n
  := by
  obtain ⟨w, z, rfl, rfl, hw⟩ := exists_isTextBody h
  rw [List.take_left]
  apply hw.textLength_append hq

/-! ### Templates -/

theorem templateLength_of_ne {c : Char} (hc : c ≠ '\\') (cs : List Char) :
  templateLength (c :: cs) =
    if c = '$' ∧ cs.head? = some '{' then some (2, 0)
    else if c = '`' then some (1, 0)
    else (templateLength cs).map fun (n, k) => (n + 1, if c = '\n' then k + 1 else k)
  := by
  split
  · rename_i h
    obtain ⟨rfl, h⟩ := h
    cases cs with
    | nil => cases h
    | cons d cs =>
        cases h
        rfl
  · rename_i h
    rw [templateLength]
    · rintro _ _ rfl
      cases hc rfl
    · rintro _ rfl hd
      apply h
      rw [hd]
      exact ⟨rfl, rfl⟩

/-- What stands in a piece of a template behind its first character: up to the next backquote or
beginning of a substitution that stands behind no backslash; `k` of its newlines stand behind no
backslash. -/
inductive IsTemplateBody : List Char → (k : Nat) → Prop
  | close : IsTemplateBody ['`'] 0
  | substitution : IsTemplateBody ['$', '{'] 0
  | escape (d : Char) {w : List Char} {k : Nat} (h : IsTemplateBody w k) :
      IsTemplateBody ('\\' :: d :: w) k
  | char {c : Char} {w : List Char} {k : Nat} (hc : c ≠ '\\') (hquote : c ≠ '`')
      (hopen : c = '$' → w.head? ≠ some '{') (h : IsTemplateBody w k) :
      IsTemplateBody (c :: w) (if c = '\n' then k + 1 else k)

theorem IsTemplateBody.exists_cons {w : List Char} {k : Nat} (h : IsTemplateBody w k) :
  ∃ d v, w = d :: v
  := by
  cases h with
  | close => exact ⟨_, _, rfl⟩
  | substitution => exact ⟨_, _, rfl⟩
  | escape => exact ⟨_, _, rfl⟩
  | char => exact ⟨_, _, rfl⟩

theorem exists_isTemplateBody {cs : List Char} {n k : Nat} (h : templateLength cs = some (n, k)) :
  ∃ w y, cs = w ++ y ∧ n = w.length ∧ IsTemplateBody w k
  := by
  fun_induction templateLength cs generalizing n k with
  | case1 d cs ih =>
      obtain ⟨⟨m, j⟩, hm, he⟩ := Option.map_eq_some_iff.mp h
      cases he
      obtain ⟨w, y, rfl, rfl, hw⟩ := ih hm
      exact ⟨'\\' :: d :: w, y, rfl, rfl, .escape d hw⟩
  | case2 cs =>
      cases h
      exact ⟨['$', '{'], cs, rfl, rfl, .substitution⟩
  | case3 cs =>
      cases h
      exact ⟨['`'], cs, rfl, rfl, .close⟩
  | case4 c cs hescape hopen hquote ih =>
      obtain ⟨⟨m, j⟩, hm, he⟩ := Option.map_eq_some_iff.mp h
      cases he
      obtain ⟨w, y, rfl, rfl, hw⟩ := ih hm
      obtain ⟨d, v, rfl⟩ := hw.exists_cons
      have hbrace : c = '$' → (d :: v).head? ≠ some '{' := by
        rintro hc ⟨⟩
        exact hopen _ hc rfl
      exact ⟨c :: d :: v, y, rfl, rfl, .char (fun hc => hescape d _ hc rfl) hquote hbrace hw⟩
  | case5 => cases h

theorem IsTemplateBody.templateLength_append {w : List Char} {k : Nat} (h : IsTemplateBody w k)
    (y : List Char) :
  templateLength (w ++ y) = some (w.length, k)
  := by
  induction h with
  | close => rfl
  | substitution => rfl
  | escape d _ ih =>
      rw [List.cons_append, List.cons_append, templateLength, ih]
      rfl
  | char hc hquote hopen hw ih =>
      obtain ⟨d, v, rfl⟩ := hw.exists_cons
      rw [List.cons_append, templateLength_of_ne hc, if_neg, if_neg hquote, ih]
      · rfl
      · rintro ⟨hdollar, hbrace⟩
        exact hopen hdollar hbrace

theorem le_length_of_templateLength {cs : List Char} {n k : Nat}
    (h : templateLength cs = some (n, k)) :
  n ≤ cs.length
  := by
  obtain ⟨w, y, rfl, rfl, -⟩ := exists_isTemplateBody h
  rw [List.length_append]
  apply Nat.le_add_right

/-- The length of a piece of a template depends only on the characters that it counts. -/
theorem templateLength_take {cs : List Char} {n k : Nat} (h : templateLength cs = some (n, k))
    (y : List Char) :
  templateLength (cs.take n ++ y) = some (n, k)
  := by
  obtain ⟨w, z, rfl, rfl, hw⟩ := exists_isTemplateBody h
  rw [List.take_left]
  apply hw.templateLength_append

/-! ### Regular expressions -/

theorem regexLength_of_ne {c : Char} (hc : c ≠ '\\') (bracketed : Bool) (cs : List Char) :
  regexLength bracketed (c :: cs) =
    if c = '\n' then none
    else if c = '/' && !bracketed then some 1
    else (regexLength (c == '[' || (bracketed && c != ']')) cs).map (· + 1)
  := by
  rw [regexLength]
  rintro _ _ rfl
  cases hc rfl

/-- What stands in a regular expression behind its first slash: up to the next slash that stands neither
in brackets nor behind a backslash.  It begins inside brackets if it is `bracketed`. -/
inductive IsRegexBody : (bracketed : Bool) → List Char → Prop
  | close : IsRegexBody false ['/']
  | escape {bracketed : Bool} (d : Char) {w : List Char} (h : IsRegexBody bracketed w) :
      IsRegexBody bracketed ('\\' :: d :: w)
  | char {bracketed : Bool} {c : Char} {w : List Char} (hc : c ≠ '\\') (hline : c ≠ '\n')
      (hslash : c = '/' → bracketed = true)
      (h : IsRegexBody (c == '[' || (bracketed && c != ']')) w) : IsRegexBody bracketed (c :: w)

theorem IsRegexBody.exists_cons {bracketed : Bool} {w : List Char} (h : IsRegexBody bracketed w) :
  ∃ d v, w = d :: v
  := by
  cases h with
  | close => exact ⟨_, _, rfl⟩
  | escape => exact ⟨_, _, rfl⟩
  | char => exact ⟨_, _, rfl⟩

theorem exists_isRegexBody {bracketed : Bool} {cs : List Char} {n : Nat}
    (h : regexLength bracketed cs = some n) :
  ∃ w y, cs = w ++ y ∧ n = w.length ∧ IsRegexBody bracketed w
  := by
  fun_induction regexLength bracketed cs generalizing n with
  | case1 b d cs ih =>
      obtain ⟨k, hk, rfl⟩ := Option.map_eq_some_iff.mp h
      obtain ⟨w, y, rfl, rfl, hw⟩ := ih hk
      exact ⟨'\\' :: d :: w, y, rfl, rfl, .escape d hw⟩
  | case2 => cases h
  | case3 b c cs _ _ hend =>
      cases h
      simp only [Bool.and_eq_true, decide_eq_true_eq, Bool.not_eq_true'] at hend
      obtain ⟨rfl, rfl⟩ := hend
      exact ⟨['/'], cs, rfl, rfl, .close⟩
  | case4 b c cs hescape hline hend ih =>
      obtain ⟨k, hk, rfl⟩ := Option.map_eq_some_iff.mp h
      obtain ⟨w, y, rfl, rfl, hw⟩ := ih hk
      obtain ⟨d, v, rfl⟩ := hw.exists_cons
      have hslash : c = '/' → b = true := by simpa using hend
      exact ⟨c :: d :: v, y, rfl, rfl, .char (fun hc => hescape d _ hc rfl) hline hslash hw⟩
  | case5 => cases h

theorem IsRegexBody.regexLength_append {bracketed : Bool} {w : List Char}
    (h : IsRegexBody bracketed w) (y : List Char) :
  regexLength bracketed (w ++ y) = some w.length
  := by
  induction h with
  | close => rfl
  | escape d _ ih =>
      rw [List.cons_append, List.cons_append, regexLength, ih]
      rfl
  | char hc hline hslash _ ih =>
      rw [List.cons_append, regexLength_of_ne hc, if_neg hline, if_neg, ih]
      · rfl
      · simpa using hslash

theorem le_length_of_regexLength {bracketed : Bool} {cs : List Char} {n : Nat}
    (h : regexLength bracketed cs = some n) :
  n ≤ cs.length
  := by
  obtain ⟨w, y, rfl, rfl, -⟩ := exists_isRegexBody h
  rw [List.length_append]
  apply Nat.le_add_right

/-- The length of a regular expression depends only on the characters that it counts. -/
theorem regexLength_take {bracketed : Bool} {cs : List Char} {n : Nat}
    (h : regexLength bracketed cs = some n) (y : List Char) :
  regexLength bracketed (cs.take n ++ y) = some n
  := by
  obtain ⟨w, z, rfl, rfl, hw⟩ := exists_isRegexBody h
  rw [List.take_left]
  apply hw.regexLength_append

/-! ### Marks -/

theorem markLength_le (c : Char) (cs : List Char) :
  markLength (c :: cs) ≤ cs.length + 1
  := by
  rw [markLength]
  split
  · rename_i m hm
    have hp := List.find?_some hm
    rw [List.isPrefixOf_iff_prefix] at hp
    rw [← String.length_toList]
    apply hp.length_le
  · apply Nat.le_add_left

/-- A mark has one character if no long mark begins with the same two characters. -/
theorem markLength_eq_one {c : Char} {cs : List Char}
    (h : ∀ m ∈ longMarks, 2 ≤ m.toList.length ∧ m.toList.take 2 ≠ (c :: cs).take 2) :
  markLength (c :: cs) = 1
  := by
  have hfind : (longMarks.find? fun m => m.toList.isPrefixOf (c :: cs)) = none := by
    rw [List.find?_eq_none]
    intro m hm hp
    obtain ⟨hlength, hne⟩ := h m hm
    rw [List.isPrefixOf_iff_prefix] at hp
    apply hne
    obtain ⟨z, hz⟩ := hp
    rw [← hz, List.take_append_of_le_length hlength]
  rw [markLength, hfind]

/-- A character with which a hook can begin. -/
def opensHook (x : Char) : Bool := x = ';' || startsIdentifier x

/-- No long mark has a character with which a hook can begin. -/
theorem not_mem_of_mem_longMarks {m : String} (hm : m ∈ longMarks) {x : Char}
    (hx : opensHook x = true) :
  x ∉ m.toList
  := by
  have hall : ∀ m ∈ longMarks, m.toList.any opensHook = false := by decide
  intro h
  exact List.any_eq_false.mp (hall m hm) x h hx

/-- A text that begins in front of a character that it does not have ends in front of it. -/
theorem prefix_of_not_mem {m a y : List Char} {x : Char} (hx : x ∉ m) (h : m <+: a ++ x :: y) :
  m <+: a
  := by
  apply List.prefix_of_prefix_length_le h (List.prefix_append ..)
  by_contra hlt
  have hlong : a ++ [x] <+: m := by
    apply List.prefix_of_prefix_length_le _ h
    · rw [List.length_append, List.length_singleton]
      omega
    · use y
      rw [List.append_assoc]
      rfl
  apply hx
  apply hlong.subset
  apply List.mem_append_right
  apply List.mem_singleton_self

/-- The first item of a list that has a property is the first one that has a stronger property,
if it has that one. -/
theorem find?_eq_of_imp {α : Type} {p q : α → Bool} {l : List α}
    (hqp : ∀ a ∈ l, q a = true → p a = true) (hf : ∀ a, l.find? p = some a → q a = true) :
  l.find? q = l.find? p
  := by
  induction l with
  | nil => rfl
  | cons a l ih =>
      rw [List.forall_mem_cons] at hqp
      cases hp : p a with
      | true =>
          have hq := hf a (List.find?_cons_of_pos hp)
          rw [List.find?_cons_of_pos hp, List.find?_cons_of_pos hq]
      | false =>
          have hq : q a = false := by
            by_contra hq
            rw [hqp.1 (Bool.of_not_eq_false hq)] at hp
            cases hp
          rw [List.find?_cons_of_neg (Bool.eq_false_iff.mp hp)] at hf ⊢
          rw [List.find?_cons_of_neg (Bool.eq_false_iff.mp hq)]
          apply ih hqp.2 hf

/-- A mark that ends before some place is no longer when a hook is written there. -/
theorem markLength_append {a z : List Char} (h : markLength (a ++ z) ≤ a.length) {x : Char}
    (hx : opensHook x = true) (y : List Char) :
  markLength (a ++ x :: y) = markLength (a ++ z)
  := by
  have hfind : (longMarks.find? fun m => m.toList.isPrefixOf (a ++ x :: y))
      = longMarks.find? fun m => m.toList.isPrefixOf (a ++ z) := by
    apply find?_eq_of_imp
    · intro m hm hp
      rw [List.isPrefixOf_iff_prefix] at hp ⊢
      have ha := prefix_of_not_mem (not_mem_of_mem_longMarks hm hx) hp
      apply ha.trans
      apply List.prefix_append
    · intro m hm
      simp only [markLength, hm] at h
      rw [← String.length_toList] at h
      have hp := List.find?_some hm
      rw [List.isPrefixOf_iff_prefix] at hp ⊢
      have ha : m.toList <+: a := List.prefix_of_prefix_length_le hp (List.prefix_append ..) h
      apply ha.trans
      apply List.prefix_append
  rw [markLength, markLength, hfind]

/-! ### Characters in front of a place -/

theorem append_eq_take_append {a z : List Char} {n : Nat} (h : n ≤ a.length) (y : List Char) :
  a ++ y = (a ++ z).take n ++ (a.drop n ++ y)
  := by
  rw [List.take_append_of_le_length h, ← List.append_assoc, List.take_append_drop]

theorem take_append_eq {a z : List Char} {n : Nat} (h : n ≤ a.length) (y : List Char) :
  (a ++ y).take n = (a ++ z).take n
  := by
  rw [List.take_append_of_le_length h, List.take_append_of_le_length h]

end SnippetProfiler.Braced
