import Mathlib
import SnippetProfiler.Text.Lines

/-!
# Two notions of line

Lines that are joined by newlines are the lines of the whole, as long as none of them has a newline in
it.  Digits have none, and neither has a list of texts without newlines.

`splitLines` cuts a text at more characters than the newline.  A line between two newlines comes
out of it in one piece when it contains no other boundary than a carriage return at its end;
otherwise it comes out in several pieces, and every line behind it moves by as many places as there
are pieces too many.

`getElem?_splitLines` says where the first piece of each line is found, and `forall_hasLine_iff` that
the first lines are found in their own places exactly when none of them is cut.
-/

namespace SnippetProfiler.Text

/-! ### Texts without newlines -/

theorem newline_notMem_toString (n : Nat) :
  '\n' ∉ (toString n).toList
  := by
  have hchars : (toString n).toList = Nat.toDigits 10 n := Nat.toList_repr
  rw [hchars]
  intro h
  cases Nat.isDigit_of_mem_toDigits (by decide) (by decide) h

theorem newline_notMem_intercalate {s : String} (hs : '\n' ∉ s.toList) {xs : List String}
    (h : ∀ x ∈ xs, '\n' ∉ x.toList) :
  '\n' ∉ (s.intercalate xs).toList
  := by
  match xs with
  | [] => apply List.not_mem_nil
  | [x] =>
      rw [String.intercalate_singleton]
      apply h x List.mem_cons_self
  | x :: y :: xs =>
      rw [List.forall_mem_cons] at h
      rw [String.intercalate_cons_cons]
      simp only [String.toList_append, List.mem_append, not_or]
      exact ⟨⟨h.1, hs⟩, newline_notMem_intercalate hs h.2⟩

theorem splitOn_intercalate {xs : List String} (hne : xs ≠ [])
    (h : ∀ x ∈ xs, '\n' ∉ x.toList) :
  ("\n".intercalate xs).toList.splitOn '\n' = xs.map String.toList
  := by
  rw [String.toList_intercalate]
  apply List.splitOn_intercalate
  · rw [List.forall_mem_map]
    exact h
  · rwa [Ne, List.map_eq_nil_iff]

/-- A text without newlines is the first line of what it begins. -/
theorem splitOn_line_append {line : String} (hline : '\n' ∉ line.toList) (rest : String) :
  (line ++ "\n" ++ rest).toList.splitOn '\n' = line.toList :: rest.toList.splitOn '\n'
  := by
  have hnewline : "\n".toList = ['\n'] := rfl
  have hsingle : line.toList.splitOn '\n' = [line.toList] := by
    have h := splitOn_intercalate (List.cons_ne_nil line []) (by
      simp only [List.mem_singleton, forall_eq]
      exact hline)
    rwa [String.intercalate_singleton] at h
  rw [String.toList_append, String.toList_append, hnewline, List.append_assoc, List.singleton_append,
    List.splitOn_append_cons_self, hsingle]
  rfl

/-! ### Lines with boundaries in them -/

/-- A line without the carriage return at its end, if it ends with one. -/
def lessReturn : List Char → List Char
  | [] => []
  | ['\r'] => []
  | c :: cs => c :: lessReturn cs

/-- The number of boundaries in a line, apart from a carriage return at its end. -/
def strays (line : List Char) : Nat := (lessReturn line).countP isLineBoundary

/-- A line up to the first boundary in it. -/
def firstPiece (line : List Char) : List Char := line.takeWhile fun c => !isLineBoundary c

/-- A text is the line, up to a carriage return at the end of the line. -/
def Agrees (entry line : List Char) : Prop := entry = line ∨ entry = lessReturn line

theorem lessReturn_cons {c : Char} {cs : List Char} (h : c = '\r' → cs ≠ []) :
  lessReturn (c :: cs) = c :: lessReturn cs
  := by
  rw [lessReturn]
  rintro rfl rfl
  cases h rfl rfl

theorem strays_cons {c : Char} {cs : List Char} (h : c = '\r' → cs ≠ []) :
  strays (c :: cs) = strays cs + if isLineBoundary c then 1 else 0
  := by rw [strays, lessReturn_cons h, List.countP_cons, strays]

theorem firstPiece_cons (c : Char) (cs : List Char) :
  firstPiece (c :: cs) = if isLineBoundary c then [] else c :: firstPiece cs
  := by
  rw [firstPiece, List.takeWhile_cons]
  cases isLineBoundary c
  · rfl
  · rfl

/-- Only a carriage return is left out. -/
theorem lessReturn_eq (line : List Char) :
  lessReturn line = line ∨ line = lessReturn line ++ ['\r']
  := by
  fun_induction lessReturn line with
  | case1 => exact .inl rfl
  | case2 => exact .inr rfl
  | case3 c cs _ ih =>
      obtain ih | ih := ih
      · left
        rw [ih]
      · right
        rw [List.cons_append, ← ih]

/-- A line agrees with its first piece exactly when it is not cut. -/
theorem agrees_firstPiece_iff (line : List Char) :
  Agrees (firstPiece line) line ↔ strays line = 0
  := by
  rw [strays, List.countP_eq_zero]
  constructor
  · intro h c hc
    have hmem : c ∈ firstPiece line := by
      obtain h | h := h
      · rw [h]
        obtain hline | hline := lessReturn_eq line
        · rwa [← hline]
        · rw [hline]
          apply List.mem_append_left _ hc
      · rwa [h]
    have hnot := List.all_eq_true.mp List.all_takeWhile c hmem
    rwa [Bool.not_eq_true', ← Bool.not_eq_true] at hnot
  · intro h
    have hall : ∀ c ∈ lessReturn line, (!isLineBoundary c) = true := by
      intro c hc
      rw [Bool.not_eq_true', ← Bool.not_eq_true]
      apply h c hc
    right
    rw [firstPiece]
    obtain hline | hline := lessReturn_eq line
    · rw [hline] at hall ⊢
      rw [← List.append_nil line, List.takeWhile_append_of_pos hall, List.takeWhile_nil]
    · conv_lhs => rw [hline]
      rw [List.takeWhile_append_of_pos hall, List.takeWhile_cons_of_neg (by decide),
        List.append_nil]

/-! ### The pieces of one line -/

theorem splitLines_cons {c : Char} {cs : List Char} (h : c = '\r' → cs.head? ≠ some '\n') :
  splitLines (c :: cs)
    = if isLineBoundary c then [] :: splitLines cs else consToFirst c (splitLines cs)
  := by
  rw [splitLines]
  rintro ds rfl rfl
  cases h rfl rfl

/-- A line that a newline ends gives its first piece and as many others as it has boundaries. -/
theorem splitLines_append_newline {line : List Char} (hline : '\n' ∉ line) (rest : List Char) :
  ∃ others, splitLines (line ++ '\n' :: rest) = firstPiece line :: (others ++ splitLines rest)
    ∧ others.length = strays line
  := by
  induction line with
  | nil =>
      use []
      constructor
      · rw [List.nil_append, splitLines_cons (by rintro ⟨⟩), if_pos (by decide)]
        rfl
      · rfl
  | cons c cs ih =>
      rw [List.mem_cons, not_or] at hline
      obtain ⟨others, hothers, hlength⟩ := ih hline.2
      by_cases hreturn : c = '\r' ∧ cs = []
      · obtain ⟨rfl, rfl⟩ := hreturn
        use []
        exact ⟨rfl, rfl⟩
      · have hne : c = '\r' → cs ≠ [] := fun hc hcs => hreturn ⟨hc, hcs⟩
        have hnext : c = '\r' → (cs ++ '\n' :: rest).head? ≠ some '\n' := by
          intro hc
          cases cs with
          | nil => cases hne hc rfl
          | cons d cs =>
              rintro ⟨⟩
              apply hline.2 List.mem_cons_self
        rw [List.cons_append, splitLines_cons hnext, strays_cons hne, hothers, firstPiece_cons]
        by_cases hboundary : isLineBoundary c = true
        · use firstPiece cs :: others
          rw [if_pos hboundary, if_pos hboundary, if_pos hboundary, List.length_cons, hlength]
          exact ⟨rfl, rfl⟩
        · use others
          rw [if_neg hboundary, if_neg hboundary, if_neg hboundary]
          exact ⟨rfl, hlength⟩

/-- A last line begins with its first piece, unless it is empty. -/
theorem head?_splitLines {line : List Char} (hne : line ≠ []) (hline : '\n' ∉ line) :
  (splitLines line).head? = some (firstPiece line)
  := by
  induction line with
  | nil => cases hne rfl
  | cons c cs ih =>
      rw [List.mem_cons, not_or] at hline
      have hnext : c = '\r' → cs.head? ≠ some '\n' := by
        intro _ hhead
        apply hline.2 (List.mem_of_mem_head? hhead)
      rw [splitLines_cons hnext, firstPiece_cons]
      by_cases hboundary : isLineBoundary c = true
      · rw [if_pos hboundary, if_pos hboundary]
        rfl
      · rw [if_neg hboundary, if_neg hboundary]
        cases cs with
        | nil => rfl
        | cons d ds =>
            have hhead := ih (List.cons_ne_nil _ _) hline.2
            cases hpieces : splitLines (d :: ds) with
            | nil =>
                rw [hpieces] at hhead
                cases hhead
            | cons piece pieces =>
                rw [hpieces] at hhead
                cases hhead
                rfl

/-! ### The lines of a text -/

/-- A text is one line, or a line with a newline and further lines behind it. -/
theorem splitOn_newline (s : List Char) :
  ('\n' ∉ s ∧ s.splitOn '\n' = [s])
    ∨ ∃ line rest, s = line ++ '\n' :: rest ∧ '\n' ∉ line
        ∧ s.splitOn '\n' = line :: rest.splitOn '\n'
  := by
  by_cases h : '\n' ∈ s
  · right
    obtain ⟨line, rest, rfl, hline⟩ := List.eq_append_cons_of_mem h
    exact ⟨line, rest, rfl, hline, List.splitOn_append_cons_self_of_not_mem hline rest⟩
  · exact .inl ⟨h, List.splitOn_eq_singleton h⟩

/-- The pieces that stand in front of a line because lines in front of it are cut. -/
def straysBefore (s : List Char) (k : Nat) : Nat := (((s.splitOn '\n').take k).map strays).sum

/-- The first piece of a line stands in its place, further behind by the number of pieces too
many. -/
theorem getElem?_splitLines {s line : List Char} {k : Nat} (h : (s.splitOn '\n')[k]? = some line)
    (hlast : line ≠ [] ∨ k + 1 < (s.splitOn '\n').length) :
  (splitLines s)[k + straysBefore s k]? = some (firstPiece line)
  := by
  induction k generalizing s with
  | zero =>
      rw [straysBefore, List.take_zero, List.map_nil, List.sum_nil, Nat.add_zero,
        ← List.head?_eq_getElem?]
      obtain ⟨hs, hsplit⟩ | ⟨front, rest, rfl, hfront, hsplit⟩ := splitOn_newline s
      · rw [hsplit] at h hlast
        cases h
        obtain hne | hlt := hlast
        · apply head?_splitLines hne hs
        · cases Nat.lt_irrefl _ hlt
      · rw [hsplit] at h
        cases h
        obtain ⟨others, hothers, -⟩ := splitLines_append_newline hfront rest
        rw [hothers]
        rfl
  | succ k ih =>
      obtain ⟨hs, hsplit⟩ | ⟨front, rest, rfl, hfront, hsplit⟩ := splitOn_newline s
      · rw [hsplit] at h
        cases h
      · obtain ⟨others, hothers, hlength⟩ := splitLines_append_newline hfront rest
        rw [hsplit] at h hlast
        have hlater := ih h (hlast.imp_right Nat.lt_of_succ_lt_succ)
        have hplace : k + 1 + straysBefore (front ++ '\n' :: rest) (k + 1)
            = others.length + (k + straysBefore rest k) + 1 := by
          rw [straysBefore, hsplit, List.take_succ_cons, List.map_cons, List.sum_cons, hlength,
            straysBefore]
          omega
        rw [hothers, hplace, List.getElem?_cons_succ,
          List.getElem?_append_right (Nat.le_add_right _ _), Nat.add_sub_cancel_left, hlater]

/-- What is cut at every boundary has the line of a text in the place of that line. -/
def HasLine (s : List Char) (k : Nat) : Prop :=
  ∃ line entry, (s.splitOn '\n')[k]? = some line ∧ (splitLines s)[k]? = some entry
    ∧ Agrees entry line

/-- A line in front of which no line is cut is in its place exactly when it is not cut either. -/
theorem hasLine_iff {s line : List Char} {k : Nat} (h : (s.splitOn '\n')[k]? = some line)
    (hlast : line ≠ [] ∨ k + 1 < (s.splitOn '\n').length)
    (hbefore : ∀ l ∈ (s.splitOn '\n').take k, strays l = 0) :
  HasLine s k ↔ strays line = 0
  := by
  have hzero : straysBefore s k = 0 := by
    rw [straysBefore, List.sum_eq_zero_iff, List.forall_mem_map]
    exact hbefore
  have hpiece := getElem?_splitLines h hlast
  rw [hzero, Nat.add_zero] at hpiece
  rw [← agrees_firstPiece_iff]
  constructor
  · rintro ⟨_, _, hline, hentry, hagrees⟩
    rw [h] at hline
    rw [hpiece] at hentry
    cases hline
    cases hentry
    exact hagrees
  · intro hagrees
    exact ⟨line, firstPiece line, h, hpiece, hagrees⟩

/-- The first lines of a text are in their places exactly when none of them is cut. -/
theorem forall_hasLine_iff {s : List Char} {n : Nat}
    (h : ∀ k < n, ∃ line, (s.splitOn '\n')[k]? = some line
      ∧ (line ≠ [] ∨ k + 1 < (s.splitOn '\n').length)) :
  (∀ k < n, HasLine s k) ↔ ∀ l ∈ (s.splitOn '\n').take n, strays l = 0
  := by
  induction n with
  | zero =>
      constructor
      · rintro _ _ ⟨⟩
      · rintro _ _ ⟨⟩
  | succ n ih =>
      obtain ⟨line, hline, hlast⟩ := h n (Nat.lt_succ_self n)
      rw [Nat.forall_lt_succ_right, List.take_add_one, hline, Option.toList_some,
        List.forall_mem_append, List.forall_mem_singleton,
        ih fun k hk => h k (Nat.lt_succ_of_lt hk)]
      apply and_congr_right
      exact hasLine_iff hline hlast

/-- The lines up to that of some character are there, and none of them is an empty last line. -/
theorem exists_line {a b : List Char} {d : Char} {k : Nat} (hk : k ≤ a.count '\n') :
  ∃ line, ((a ++ d :: b).splitOn '\n')[k]? = some line
    ∧ (line ≠ [] ∨ k + 1 < ((a ++ d :: b).splitOn '\n').length)
  := by
  induction k generalizing a with
  | zero =>
      obtain ⟨-, hsplit⟩ | ⟨line, rest, -, -, hsplit⟩ := splitOn_newline (a ++ d :: b)
      · rw [hsplit]
        use a ++ d :: b, rfl
        left
        simp
      · rw [hsplit]
        use line, rfl
        right
        have hpos := List.length_pos_iff.mpr (List.splitOn_ne_nil '\n' rest)
        rw [List.length_cons]
        omega
  | succ k ih =>
      have hmem : '\n' ∈ a := List.count_pos_iff.mp (Nat.lt_of_lt_of_le (Nat.succ_pos k) hk)
      obtain ⟨front, rest, rfl, hfront⟩ := List.eq_append_cons_of_mem hmem
      have hk : k ≤ rest.count '\n' := by
        rw [List.count_append, List.count_cons_self, List.count_eq_zero.mpr hfront] at hk
        omega
      obtain ⟨line, hline, hlast⟩ := ih hk
      rw [List.append_assoc, List.cons_append, List.splitOn_append_cons_self_of_not_mem hfront]
      exact ⟨line, hline, hlast.imp_right Nat.succ_lt_succ⟩

end SnippetProfiler.Text
