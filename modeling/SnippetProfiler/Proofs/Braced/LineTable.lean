import SnippetProfiler.Proofs.Braced.Alignment
import SnippetProfiler.Proofs.Braced.Lines
import SnippetProfiler.Proofs.Braced.Reports
import SnippetProfiler.Proofs.Text.Lines

/-!
# The table of lines

A program passes the lines of its snippet to the profiler, which looks up the number of a line hook
among them.  The numbers count newlines, but the table is cut at every boundary that Unicode knows.
So the entry for a hook is its line only if the lines up to there have no other boundaries than
carriage returns at their ends.
-/

namespace SnippetProfiler.Braced

/-! ### The lines of tokens -/

/-- A piece of a template does not end with a newline. -/
theorem IsTemplateBody.exists_last {w : List Char} {k : Nat} (h : IsTemplateBody w k) :
  ∃ v d, w = v ++ [d] ∧ d ≠ '\n'
  := by
  induction h with
  | close => exact ⟨[], '`', rfl, by decide⟩
  | substitution => exact ⟨['$'], '{', rfl, by decide⟩
  | escape d _ ih =>
      obtain ⟨v, e, rfl, he⟩ := ih
      exact ⟨'\\' :: d :: v, e, rfl, he⟩
  | @char c _ _ _ _ _ _ ih =>
      obtain ⟨v, e, rfl, he⟩ := ih
      exact ⟨c :: v, e, rfl, he⟩

/-- The line of a token is not further down than one of its characters. -/
theorem Begins.line_le {s : Spot} {c : Char} {cs : List Char} {kind : TokenKind} {n k : Nat}
    (h : Begins s c cs (.lexeme kind n k)) :
  s.line ≤ (s.token kind (c :: cs.take n) k).line
    ∧ ∃ a d b, c :: cs.take n = a ++ d :: b
      ∧ (s.token kind (c :: cs.take n) k).line ≤ s.line + newlines a
  := by
  by_cases hkind : kind = .template
  · have hcount := h.newlines_lexeme
    subst hkind
    cases h with
    | template hc hn =>
        obtain ⟨v, y, rfl, rfl, hv⟩ := exists_isTemplateBody hn
        obtain ⟨w, d, hw, hd⟩ := hv.exists_last
        rw [List.take_left] at hcount ⊢
        have hlast : newlines [d] = 0 := newlines_cons_of_ne hd []
        rw [hw, ← List.cons_append, newlines_append, hlast] at hcount
        rw [hw, Spot.token, if_pos rfl]
        refine ⟨Nat.le_add_right _ _, c :: w, d, [], rfl, ?_⟩
        dsimp only
        omega
  · rw [Spot.token, if_neg hkind]
    exact ⟨Nat.le_refl _, [], c, cs.take n, rfl, Nat.le_refl _⟩

/-- What stands behind a piece stands behind its characters. -/
theorem cons_eq_of_drop {c d : Char} {cs a b : List Char} {n : Nat} (h : cs.drop n = a ++ d :: b) :
  c :: cs = ((c :: cs.take n) ++ a) ++ d :: b
  := by rw [List.append_assoc, ← h, List.cons_append, List.take_append_drop]

/-- No token of a scan has a line in front of the spot where the scan begins, or behind the line of
the last character. -/
theorem Scans.line_le {s : Spot} {cs : List Char} {ts : List Token} (h : Scans s cs ts) :
  ∀ t ∈ ts, s.line ≤ t.line ∧ ∃ a d b, cs = a ++ d :: b ∧ t.line ≤ s.line + newlines a
  := by
  induction h with
  | done => rintro _ ⟨⟩
  | @gap s c cs n k ts hbegins htail ih =>
      intro t ht
      obtain ⟨hle, a, d, b, hrest, hline⟩ := ih t ht
      have hcount := hbegins.newlines_gap
      simp only [Spot.skip] at hle hline
      refine ⟨by omega, (c :: cs.take n) ++ a, d, b, cons_eq_of_drop hrest, ?_⟩
      rw [newlines_append]
      omega
  | @lexeme s c cs kind n k ts hbegins htail ih =>
      rw [List.forall_mem_cons]
      constructor
      · obtain ⟨hle, a, d, b, hpiece, hline⟩ := hbegins.line_le
        refine ⟨hle, a, d, b ++ cs.drop n, ?_, hline⟩
        rw [← List.cons_append, ← List.append_assoc, ← hpiece, List.cons_append,
          List.take_append_drop]
      · intro t ht
        obtain ⟨hle, a, d, b, hrest, hline⟩ := ih t ht
        have hcount := hbegins.newlines_lexeme
        simp only [Spot.pass] at hle hline
        refine ⟨by omega, (c :: cs.take n) ++ a, d, b, cons_eq_of_drop hrest, ?_⟩
        rw [newlines_append]
        omega

/-- The lines of tokens begin with 1, and a text has a character on them or behind them. -/
theorem line_le_of_scan {source : List Char} {ts : List Token} (h : scan source = .ok ts) :
  ∀ t ∈ ts, 1 ≤ t.line ∧ ∃ a d b, source = a ++ d :: b ∧ t.line ≤ 1 + newlines a
  := by
  intro t ht
  obtain ⟨hle, a, d, b, hrest, hline⟩ := (scans_of_scanFrom h).line_le t ht
  refine ⟨hle, source.take (shebangLength source) ++ a, d, b, ?_, ?_⟩
  · rw [List.append_assoc, ← hrest, List.take_append_drop]
  · rw [newlines_append]
    dsimp only at hline
    omega

/-- The line of a line hook is that of a token. -/
theorem exists_token_of_line {tokens : List Token} {hooks : List Insertion}
    (h : plan tokens = .ok hooks) {position n : Nat} (hi : ⟨position, .line n⟩ ∈ hooks) :
  ∃ t ∈ tokens, t.line = n
  := by
  have hlines := (Planner.run_reports h).1
  have htokens := Planner.map_token_readings h
  have hmem : ⟨position, .line n⟩ ∈ lineHooks hooks := List.mem_filter.mpr ⟨hi, rfl⟩
  rw [hlines, List.mem_map] at hmem
  obtain ⟨r, hr, heq⟩ := hmem
  cases heq
  refine ⟨r.token, ?_, rfl⟩
  rw [← htokens]
  apply List.mem_map_of_mem (List.mem_of_mem_filter hr)

/-! ### The table -/

/-- A program passes a table of texts to the profiler in its third line. -/
def Passes (program : String) (o : TrackingOptions) (table : List String) : Prop :=
  ∃ text : String,
    (program.toList.splitOn '\n')[2]?
        = some (hookName ++ ".start(" ++ optionsText o ++ ", " ++ text ++ ", __filename, "
          ++ toString headerLines ++ ");").toList
      ∧ Json.parse text.toList = .ok (Json.texts table)

theorem parse_texts (xs : List String) :
  Json.parse (Json.write Json.spaced (Json.texts xs)).toList = .ok (Json.texts xs)
  := by
  have hfits : Json.Fits Json.depthLimit (Json.texts xs) := by
    apply Json.Fits.arr
    rw [List.forall_mem_map]
    intro x _
    apply Json.Fits.str
  rw [Json.write, String.toList_ofList, Json.parse_chars hfits]

/-- A program passes the lines of its snippet, cut at every boundary. -/
theorem passes_lines (strict : Bool) (source body : String) (o : TrackingOptions) :
  Passes (assemble strict source body o) o (Text.lines source)
  := by
  use Json.write Json.spaced (Json.texts (Text.lines source))
  constructor
  · rw [splitOn_assemble]
    rfl
  · apply parse_texts

/-- The entry of a table for a line is that line. -/
def HasEntry (table : List String) (source : String) (k : Nat) : Prop :=
  ∃ line entry, (source.toList.splitOn '\n')[k]? = some line ∧ table[k]? = some entry
    ∧ Text.Agrees entry.toList line

theorem hasEntry_lines {source : String} {k : Nat} :
  HasEntry (Text.lines source) source k ↔ Text.HasLine source.toList k
  := by
  constructor
  · rintro ⟨line, entry, hline, hentry, hagrees⟩
    rw [Text.lines, List.getElem?_map, Option.map_eq_some_iff] at hentry
    obtain ⟨piece, hpiece, rfl⟩ := hentry
    rw [String.toList_ofList] at hagrees
    exact ⟨line, piece, hline, hpiece, hagrees⟩
  · rintro ⟨line, piece, hline, hpiece, hagrees⟩
    rw [← String.toList_ofList (l := piece)] at hagrees
    refine ⟨line, .ofList piece, hline, ?_, hagrees⟩
    rw [Text.lines, List.getElem?_map, hpiece, Option.map_some]

/-- The number of a line hook is that of a line.  The table has the first piece of this line, further
behind by the number of boundaries in the lines in front of it; and the table has all lines up to
this one in their places exactly when they have no boundaries in them. -/
theorem table_hasEntry_iff {source : String} {tokens : List Token} {hooks : List Insertion}
    (hscan : scan source.toList = .ok tokens) (hplan : plan tokens = .ok hooks)
    (o : TrackingOptions) :
  Passes (instrument source o) o (Text.lines source)
    ∧ ∀ position n, ⟨position, .line n⟩ ∈ hooks →
      ∃ k line, n = k + 1 ∧ (source.toList.splitOn '\n')[k]? = some line
        ∧ (Text.lines source)[k + Text.straysBefore source.toList k]?
            = some (.ofList (Text.firstPiece line))
        ∧ ((∀ j < n, HasEntry (Text.lines source) source j)
            ↔ ∀ l ∈ (source.toList.splitOn '\n').take n, Text.strays l = 0)
  := by
  constructor
  · rw [instrument, analyse_eq_ok.mpr ⟨hscan, hplan⟩]
    apply passes_lines
  · intro position n hi
    obtain ⟨t, ht, rfl⟩ := exists_token_of_line hplan hi
    obtain ⟨hpos, a, d, b, hsource, hle⟩ := line_le_of_scan hscan t ht
    have hlines : ∀ k < t.line, ∃ line, (source.toList.splitOn '\n')[k]? = some line
        ∧ (line ≠ [] ∨ k + 1 < (source.toList.splitOn '\n').length) := by
      intro k hk
      rw [hsource]
      apply Text.exists_line
      rw [newlines] at hle
      omega
    obtain ⟨k, hk⟩ := Nat.exists_eq_add_of_le' hpos
    obtain ⟨line, hline, hlast⟩ := hlines k (by omega)
    refine ⟨k, line, hk, hline, ?_, ?_⟩
    · rw [Text.lines, List.getElem?_map, Text.getElem?_splitLines hline hlast, Option.map_some]
    · rw [← Text.forall_hasLine_iff hlines]
      simp only [hasEntry_lines]

/-- Three statements, one with a vertical tab in a text. -/
def tabbed : String := "a = 1\nb = '\x0b'\nc = 3"

/-- The tokens of the statements. -/
def tabbedTokens : List Token :=
  [⟨.identifier, "a", 0, 1, 1⟩, ⟨.mark, "=", 2, 3, 1⟩, ⟨.number, "1", 4, 5, 1⟩,
    ⟨.identifier, "b", 6, 7, 2⟩, ⟨.mark, "=", 8, 9, 2⟩, ⟨.text, "'\x0b'", 10, 13, 2⟩,
    ⟨.identifier, "c", 14, 15, 3⟩, ⟨.mark, "=", 16, 17, 3⟩, ⟨.number, "3", 18, 19, 3⟩]

/-- The hooks of the statements. -/
def tabbedHooks : List Insertion :=
  [⟨0, .line 1⟩, ⟨6, .vars true ["a"] 1⟩, ⟨6, .line 2⟩, ⟨14, .vars true ["b"] 2⟩, ⟨14, .line 3⟩,
    ⟨19, .vars true ["c"] 3⟩]

/-- The first line is in its place, the second one is not, and the third one comes one place too
late. -/
theorem table_hasEntry_iff_tabbed :
  scan tabbed.toList = .ok tabbedTokens ∧ plan tabbedTokens = .ok tabbedHooks
    ∧ (∀ j < 1, HasEntry (Text.lines tabbed) tabbed j)
    ∧ (¬ ∀ j < 2, HasEntry (Text.lines tabbed) tabbed j)
    ∧ (Text.lines tabbed)[3]? = some "c = 3"
  := by
  have hscan : scan tabbed.toList = .ok tabbedTokens := by decide +kernel
  have hplan : plan tabbedTokens = .ok tabbedHooks := by decide
  obtain ⟨-, htable⟩ := table_hasEntry_iff hscan hplan {}
  refine ⟨hscan, hplan, ?_, ?_, ?_⟩
  · obtain ⟨k, line, -, -, -, hiff⟩ := htable 0 1 (by decide)
    apply hiff.mpr
    decide
  · obtain ⟨k, line, -, -, -, hiff⟩ := htable 6 2 (by decide)
    intro h
    have hnone := hiff.mp h
    revert hnone
    decide
  · obtain ⟨k, line, hk, hline, hpiece, -⟩ := htable 14 3 (by decide)
    cases hk
    have hthird : (tabbed.toList.splitOn '\n')[2]? = some "c = 3".toList := by decide
    rw [hthird] at hline
    cases hline
    exact hpiece

/-- The table does not always have the line of a line hook: here it has the end of the second line
in the place of the third one. -/
theorem not_always_in_table :
  ¬ ∀ (source : String) (tokens : List Token) (hooks : List Insertion) (position k : Nat),
    scan source.toList = .ok tokens → plan tokens = .ok hooks →
    ⟨position, .line (k + 1)⟩ ∈ hooks → HasEntry (Text.lines source) source k
  := by
  intro h
  have hscan : scan tabbed.toList = .ok tabbedTokens := by decide +kernel
  have hplan : plan tabbedTokens = .ok tabbedHooks := by decide
  obtain ⟨line, entry, hline, hentry, hagrees⟩ := h tabbed _ _ 14 2 hscan hplan (by decide)
  have hthird : (tabbed.toList.splitOn '\n')[2]? = some "c = 3".toList := by decide
  have hend : (Text.lines tabbed)[2]? = some "'" := by decide
  rw [hthird] at hline
  rw [hend] at hentry
  cases hline
  cases hentry
  revert hagrees
  rw [Text.Agrees]
  decide

end SnippetProfiler.Braced
