import Mathlib
import SnippetProfiler.Proofs.Braced.Scans

/-!
# The lines of tokens

A token should know the line where it begins, and a piece of a template the line where it ends.
The scanner counts the newlines that it passes, but not those that stand behind a backslash in a
template or a regular expression.  So the line of a token is too small by exactly the number of
those newlines in front of it, and it is right when there are none.
-/

namespace SnippetProfiler.Braced

/-- The line of a position in a text. -/
def lineAt (source : List Char) (position : Nat) : Nat := 1 + newlines (source.take position)

/-- The position whose line a token should know. -/
def Token.place (t : Token) : Nat := if t.kind = .template then t.stop else t.start

/-- The newlines of a text that a backslash hides; a backslash that is hidden hides nothing. -/
def hiddenNewlines : List Char → Nat
  | '\\' :: c :: cs => hiddenNewlines cs + if c = '\n' then 1 else 0
  | _ :: cs => hiddenNewlines cs
  | [] => 0

/-- The newlines of a token that the scanner does not count. -/
def Token.uncounted (t : Token) : Nat :=
  if t.kind = .template ∨ t.kind = .regex then hiddenNewlines t.text.toList else 0

/-- The newlines that the scanner has not counted when it gives a token its line, if it has read
some tokens before. -/
def uncountedAt (before : List Token) (t : Token) : Nat :=
  (before.map Token.uncounted).sum + if t.kind = .template then t.uncounted else 0

/-! ### Newlines -/

theorem newlines_append (a b : List Char) :
  newlines (a ++ b) = newlines a + newlines b
  := List.count_append

theorem newlines_cons (c : Char) (cs : List Char) :
  newlines (c :: cs) = newlines cs + if c = '\n' then 1 else 0
  := by
  simp only [newlines, List.count_cons, beq_iff_eq]

theorem newlines_cons_of_ne {c : Char} (hc : c ≠ '\n') (cs : List Char) :
  newlines (c :: cs) = newlines cs
  := by
  rw [newlines_cons, if_neg hc]
  rfl

/-- A text in a class without the newline has no newlines. -/
theorem newlines_eq_zero {p : Char → Bool} (hp : p '\n' = false) {cs : List Char}
    (h : ∀ c ∈ cs, p c = true) :
  newlines cs = 0
  := by
  apply List.count_eq_zero.mpr
  intro hmem
  rw [h _ hmem] at hp
  cases hp

theorem newlines_take_runLength {p : Char → Bool} (hp : p '\n' = false) (cs : List Char) :
  newlines (cs.take (runLength p cs)) = 0
  := by
  rw [takeWhile_eq_take_runLength]
  apply newlines_eq_zero hp
  apply List.all_eq_true.mp List.all_takeWhile

theorem hiddenNewlines_of_ne {c : Char} (hc : c ≠ '\\') (cs : List Char) :
  hiddenNewlines (c :: cs) = hiddenNewlines cs
  := by
  rw [hiddenNewlines]
  rintro _ _ rfl
  cases hc rfl

/-- Only newlines are hidden. -/
theorem hiddenNewlines_le (cs : List Char) :
  hiddenNewlines cs ≤ newlines cs
  := by
  fun_induction hiddenNewlines cs with
  | case1 c cs ih =>
      rw [newlines_cons, newlines_cons]
      omega
  | case2 c cs _ ih =>
      rw [newlines_cons]
      omega
  | case3 => apply Nat.zero_le

/-! ### Pieces -/

/-- Of the newlines in a piece of a template, those that are not hidden are counted. -/
theorem IsTemplateBody.newlines_eq {w : List Char} {k : Nat} (h : IsTemplateBody w k) :
  newlines w = k + hiddenNewlines w
  := by
  induction h with
  | close => rfl
  | substitution => rfl
  | escape d _ ih =>
      rw [hiddenNewlines, newlines_cons_of_ne (by decide), newlines_cons, ih]
      omega
  | char hc _ _ _ ih =>
      rw [hiddenNewlines_of_ne hc, newlines_cons, ih]
      split
      · omega
      · omega

/-- All newlines in a regular expression are hidden, whatever stands behind it. -/
theorem IsRegexBody.hiddenNewlines_append {bracketed : Bool} {w : List Char}
    (h : IsRegexBody bracketed w) (y : List Char) :
  hiddenNewlines (w ++ y) = newlines w + hiddenNewlines y
  := by
  induction h with
  | close =>
      rw [List.singleton_append, hiddenNewlines_of_ne (by decide), newlines_cons_of_ne (by decide),
        newlines, List.count_nil, Nat.zero_add]
  | escape d _ ih =>
      rw [List.cons_append, List.cons_append, hiddenNewlines, newlines_cons_of_ne (by decide),
        newlines_cons, ih]
      omega
  | char hc hline _ _ ih =>
      rw [List.cons_append, hiddenNewlines_of_ne hc, newlines_cons_of_ne hline, ih]

/-- No mark has a newline behind its first character. -/
theorem newlines_mark (c : Char) (cs : List Char) :
  newlines (cs.take (markLength (c :: cs) - 1)) = 0
  := by
  have hall : ∀ m ∈ longMarks, newlines m.toList = 0 := by decide
  rw [markLength]
  split
  · rename_i m hm
    have hzero := hall m (List.mem_of_find?_eq_some hm)
    have hprefix := List.find?_some hm
    rw [List.isPrefixOf_iff_prefix] at hprefix
    obtain ⟨z, hz⟩ := hprefix
    rw [← String.length_toList]
    cases hchars : m.toList with
    | nil => rfl
    | cons d ds =>
        rw [hchars, newlines_cons] at hzero
        rw [hchars, List.cons_append, List.cons.injEq] at hz
        rw [← hz.2, List.length_cons, Nat.add_sub_cancel, List.take_left]
        omega
  · rfl

theorem uncounted_token (s : Spot) (kind : TokenKind) (text : List Char) (k : Nat) :
  (s.token kind text k).uncounted
    = if kind = .template ∨ kind = .regex then hiddenNewlines text else 0
  := by
  simp only [Token.uncounted, Spot.token, String.toList_ofList]

/-- What the scanner counts of a token and what it does not count are the newlines of the token. -/
theorem Begins.newlines_lexeme {s : Spot} {c : Char} {cs : List Char} {kind : TokenKind} {n k : Nat}
    (h : Begins s c cs (.lexeme kind n k)) :
  newlines (c :: cs.take n) = k + (s.token kind (c :: cs.take n) k).uncounted
  := by
  rw [uncounted_token]
  cases h with
  | text hc hn =>
      rw [if_neg (by decide), newlines_cons_of_ne]
      · rfl
      · rintro rfl
        revert hc
        decide
  | template hc hn =>
      have hne : c ≠ '\n' ∧ c ≠ '\\' := by
        obtain rfl | ⟨rfl, -⟩ := hc
        · decide
        · decide
      obtain ⟨w, y, rfl, rfl, hw⟩ := exists_isTemplateBody hn
      rw [if_pos (by decide), newlines_cons_of_ne hne.1, hiddenNewlines_of_ne hne.2, List.take_left]
      apply hw.newlines_eq
  | regex hc hcs hprevious hn =>
      rename_i n
      subst hc
      obtain ⟨w, y, rfl, rfl, hw⟩ := exists_isRegexBody hn
      have hflags := newlines_take_runLength (p := continuesIdentifier) (by decide) y
      have hnone := hiddenNewlines_le (y.take (runLength continuesIdentifier y))
      rw [if_pos (by decide), newlines_cons_of_ne (by decide), hiddenNewlines_of_ne (by decide),
        List.take_add, List.take_left, List.drop_left, newlines_append, hw.hiddenNewlines_append]
      omega
  | identifier hblank hc =>
      rw [if_neg (by decide), newlines_cons_of_ne (ne_newline_of_isBlank hblank),
        newlines_take_runLength (by decide)]
  | number hc =>
      rw [if_neg (by decide), newlines_cons_of_ne, newlines_take_runLength (by decide)]
      rintro rfl
      obtain hc | ⟨hc, -⟩ := hc
      · cases hc
      · cases hc
  | mark hblank =>
      rw [if_neg (by decide), newlines_cons_of_ne (ne_newline_of_isBlank hblank), newlines_mark]

/-- The scanner counts all newlines of a gap. -/
theorem Begins.newlines_gap {s : Spot} {c : Char} {cs : List Char} {n k : Nat}
    (h : Begins s c cs (.gap n k)) :
  newlines (c :: cs.take n) = k
  := by
  cases h with
  | newline hc =>
      rw [newlines_cons, if_pos hc]
      rfl
  | blank hc hblank =>
      rw [newlines_cons_of_ne hc]
      rfl
  | lineComment hc hcs =>
      subst hc
      rw [newlines_cons_of_ne (by decide), newlines_take_runLength (by decide)]
  | blockComment hc hcs hn =>
      subst hc
      rw [newlines_cons_of_ne (by decide)]

/-! ### Scans -/

/-- A spot behind some characters, of whose newlines the scanner has not counted `missed` ones. -/
structure Spot.Counts (s : Spot) (front : List Char) (missed : Nat) : Prop where
  position : s.position = front.length
  line : s.line + missed = 1 + newlines front

/-- Reading characters, of whose newlines some are missed, goes on with the count. -/
theorem Spot.Counts.goOn {s s' : Spot} {front piece : List Char} {missed more k : Nat}
    (h : s.Counts front missed) (hposition : s'.position = s.position + piece.length)
    (hline : s'.line = s.line + k) (hpiece : newlines piece = k + more) :
  s'.Counts (front ++ piece) (missed + more)
  where
  position := by rw [hposition, h.position, List.length_append]
  line := by
    have := h.line
    rw [newlines_append, hline]
    omega

/-- The line of a spot, and the newlines that were missed, are those of its position. -/
theorem Spot.Counts.line_add {s : Spot} {front : List Char} {missed : Nat}
    (hs : s.Counts front missed) (rest : List Char) :
  s.line + missed = lineAt (front ++ rest) s.position
  := by
  rw [lineAt, hs.position, List.take_left, hs.line]

/-- The count goes on behind a token. -/
theorem Spot.Counts.pass {s : Spot} {c : Char} {cs front : List Char} {kind : TokenKind}
    {missed n k : Nat} (hs : s.Counts front missed) (h : Begins s c cs (.lexeme kind n k)) :
  (s.pass (s.token kind (c :: cs.take n) k) k).Counts (front ++ c :: cs.take n)
    (missed + (s.token kind (c :: cs.take n) k).uncounted)
  := hs.goOn rfl rfl h.newlines_lexeme

/-- The count goes on behind a gap. -/
theorem Spot.Counts.skip {s : Spot} {c : Char} {cs front : List Char} {missed n k : Nat}
    (hs : s.Counts front missed) (h : Begins s c cs (.gap n k)) :
  (s.skip (n + 1) k).Counts (front ++ c :: cs.take n) missed
  := by
  have hle : n ≤ cs.length := h.extra_le
  have hposition : (s.skip (n + 1) k).position = s.position + (c :: cs.take n).length := by
    rw [List.length_cons, List.length_take, Nat.min_eq_left hle]
    rfl
  have hgap : newlines (c :: cs.take n) = k + 0 := h.newlines_gap
  exact hs.goOn hposition rfl hgap

theorem append_take_append_drop (front : List Char) (c : Char) (cs : List Char) (n : Nat) :
  (front ++ c :: cs.take n) ++ cs.drop n = front ++ c :: cs
  := by
  rw [List.append_assoc, List.cons_append, List.take_append_drop]

/-- The line of a token, and the newlines that were missed when it is read, are those of its
place. -/
theorem Spot.Counts.line_token {s : Spot} {c : Char} {cs front : List Char} {kind : TokenKind}
    {missed n k : Nat} (hs : s.Counts front missed) (h : Begins s c cs (.lexeme kind n k)) :
  (s.token kind (c :: cs.take n) k).line
      + (missed + uncountedAt [] (s.token kind (c :: cs.take n) k))
    = lineAt (front ++ c :: cs) (s.token kind (c :: cs.take n) k).place
  := by
  rw [uncountedAt, List.map_nil, List.sum_nil, Nat.zero_add, Token.place]
  by_cases hkind : kind = .template
  · have hpass := (hs.pass h).line_add (cs.drop n)
    rw [append_take_append_drop] at hpass
    subst hkind
    exact hpass
  · have hkind' : (s.token kind (c :: cs.take n) k).kind ≠ .template := hkind
    rw [if_neg hkind', if_neg hkind', Nat.add_zero, Spot.token, if_neg hkind]
    apply hs.line_add

/-- The line of a token, and the newlines that were missed when it got its line, are those of its
place. -/
theorem Scans.line_add {s : Spot} {cs : List Char} {ts : List Token} (h : Scans s cs ts)
    {front : List Char} {missed : Nat} (hs : s.Counts front missed) {before after : List Token}
    {t : Token} (ht : ts = before ++ t :: after) :
  t.line + (missed + uncountedAt before t) = lineAt (front ++ cs) t.place
  := by
  induction h generalizing front missed before with
  | done =>
      cases before with
      | nil => cases ht
      | cons _ _ => cases ht
  | gap hp _ ih =>
      have hline := ih (hs.skip hp) ht
      rwa [append_take_append_drop] at hline
  | lexeme hp _ ih =>
      cases before with
      | nil =>
          cases ht
          apply hs.line_token hp
      | cons q before =>
          cases ht
          have hline := ih (hs.pass hp) rfl
          rw [append_take_append_drop] at hline
          rw [← hline, uncountedAt, uncountedAt, List.map_cons, List.sum_cons]
          omega

/-- A first line that names an interpreter has no newline in it. -/
theorem counts_shebang (source : List Char) :
  Spot.Counts { position := shebangLength source } (source.take (shebangLength source)) 0
  := by
  rw [shebangLength]
  split
  · constructor
    · rw [takeWhile_eq_take_runLength]
      rfl
    · rw [newlines_take_runLength (by decide)]
  · exact ⟨rfl, rfl⟩

/-- The line of a token, and the newlines that the scanner has not counted up to there, are those of
the place of the token. -/
theorem scan_line_add {source : List Char} {ts : List Token} (h : scan source = .ok ts)
    {before after : List Token} {t : Token} (ht : ts = before ++ t :: after) :
  t.line + uncountedAt before t = lineAt source t.place
  := by
  have hline := (scans_of_scanFrom h).line_add (counts_shebang source) ht
  rwa [List.take_append_drop, Nat.zero_add] at hline

/-- A token has the line of its place exactly when no template and no regular expression in front of
it, and not itself if it is a piece of a template, has a newline behind a backslash. -/
theorem scan_line_eq_iff {source : List Char} {ts : List Token} (h : scan source = .ok ts)
    {before after : List Token} {t : Token} (ht : ts = before ++ t :: after) :
  t.line = lineAt source t.place
    ↔ (∀ q ∈ before, q.uncounted = 0) ∧ (t.kind = .template → t.uncounted = 0)
  := by
  have hnone : uncountedAt before t = 0
      ↔ (∀ q ∈ before, q.uncounted = 0) ∧ (t.kind = .template → t.uncounted = 0) := by
    rw [uncountedAt, Nat.add_eq_zero_iff, List.sum_eq_zero_iff, List.forall_mem_map]
    simp only [ite_eq_right_iff]
  have hline := scan_line_add h ht
  rw [← hnone]
  omega

/-- A text that goes on in its second line, and a template whose second piece does. -/
def continued : List Char := "'\\\n' `$\x7b1\x7d\\\n`\nx".toList

/-- The tokens of the texts. -/
def continuedTokens : List Token :=
  [⟨.text, "'\\\n'", 0, 4, 1⟩, ⟨.template, "`$\x7b", 5, 8, 2⟩, ⟨.number, "1", 8, 9, 2⟩,
    ⟨.template, "\x7d\\\n`", 9, 13, 2⟩, ⟨.identifier, "x", 14, 15, 3⟩]

/-- The number has its line; the word behind the template stands in line 4. -/
theorem scan_line_eq_iff_continued :
  scan continued = .ok continuedTokens
    ∧ lineAt continued 8 = 2 ∧ lineAt continued 14 ≠ 3
  := by
  have hscan : scan continued = .ok continuedTokens := by decide +kernel
  have hnumber : continuedTokens
      = continuedTokens.take 2 ++ ⟨.number, "1", 8, 9, 2⟩ :: continuedTokens.drop 3 := by rfl
  have hword : continuedTokens = continuedTokens.take 4 ++ ⟨.identifier, "x", 14, 15, 3⟩ :: [] := by
    rfl
  use hscan
  constructor
  · exact ((scan_line_eq_iff hscan hnumber).mpr (by decide)).symm
  · intro h
    have hnone := ((scan_line_eq_iff hscan hword).mp h.symm).1
    revert hnone
    decide

/-- The tokens of a text do not always have their lines: a template with a newline behind a
backslash ends in its second line, and is said to end in the first one. -/
theorem not_always_on_line :
  ¬ ∀ (source : List Char) (ts : List Token), scan source = .ok ts →
    ∀ t ∈ ts, t.line = lineAt source t.place
  := by
  intro h
  have hline := h "`\\\n`".toList [⟨.template, "`\\\n`", 0, 4, 1⟩] (by decide +kernel) _
    List.mem_cons_self
  revert hline
  decide

end SnippetProfiler.Braced
