import SnippetProfiler.Text.Identifier

/-!
# Compatibility forms stay on their line

The compatibility form of a text without newlines has no newline: what a character is decomposed into and
what characters compose is never one, and everything else is kept, in another order at most.
-/

namespace SnippetProfiler.Text

/-- The code of a newline. -/
def newlineCode : Nat := '\n'.toNat

variable {n : Nat} {ns : List Nat} {s : List Char}

theorem ofNat_ne_newline (h : n ≠ newlineCode) :
  Char.ofNat n ≠ '\n'
  := by
  intro hchar
  by_cases hvalid : n.isValidChar
  · rw [Char.ofNat, dif_pos hvalid] at hchar
    have hnat : n = '\n'.toNat := congrArg Char.toNat hchar
    exact h hnat
  · rw [Char.ofNat, dif_neg hvalid] at hchar
    cases hchar

/-! ### Decompositions -/

theorem newlineCode_notMem_syllableParts (n : Nat) :
  newlineCode ∉ syllableParts n
  := by
  have hparts : ∀ m ∈ syllableParts n, 0x1100 ≤ m := by
    intro m hm
    rw [syllableParts] at hm
    split at hm
    · rw [List.mem_cons, List.mem_singleton] at hm
      omega
    · rw [List.mem_append, List.mem_cons, List.mem_singleton, List.mem_singleton] at hm
      omega
  intro h
  exact absurd (hparts _ h) (by decide)

theorem newlineCode_notMem_of_mem_decompositions (h : (n, ns) ∈ decompositions) :
  newlineCode ∉ ns
  := by
  unfold decompositions at h
  obtain ⟨⟨m, parts⟩, -, h⟩ := List.mem_map.mp h
  cases h
  intro hmem
  obtain ⟨part, -, hpart⟩ := List.mem_map.mp hmem
  rw [newlineCode, firstPart] at hpart
  have hle : 0x30 ≤ '\n'.toNat := hpart ▸ Nat.le_add_right _ _
  exact absurd hle (by decide)

theorem newlineCode_notMem_decomposed (h : n ≠ newlineCode) :
  newlineCode ∉ decomposed n
  := by
  rw [decomposed]
  split
  · exact newlineCode_notMem_syllableParts n
  · split
    case h_1 m ns hfind => exact newlineCode_notMem_of_mem_decompositions (List.mem_of_find?_eq_some hfind)
    case h_2 =>
      rw [List.mem_singleton]
      exact Ne.symm h

/-! ### Sorting marks -/

theorem mem_placeMark {k : Nat} {before : List (Nat × Nat)} {entry : Nat × Nat}
    (h : entry ∈ placeMark n k before) :
  entry = (n, k) ∨ entry ∈ before
  := by
  induction before with
  | nil => exact .inl (List.mem_singleton.mp h)
  | cons first before ih =>
      obtain ⟨m, j⟩ := first
      rw [placeMark] at h
      split at h
      · rw [List.mem_cons] at h ⊢
        obtain h | h := h
        · exact .inr (.inl h)
        · obtain h | h := ih h
          · exact .inl h
          · exact .inr (.inr h)
      · exact List.mem_cons.mp h

theorem mem_foldl_placeMark {before : List (Nat × Nat)} {entry : Nat × Nat}
    (h : entry ∈ ns.foldl (fun before n => placeMark n (combiningClass n) before) before) :
  entry.1 ∈ ns ∨ entry ∈ before
  := by
  induction ns generalizing before with
  | nil => exact .inr h
  | cons n ns ih =>
      rw [List.foldl_cons] at h
      obtain h | h := ih h
      · exact .inl (List.mem_cons_of_mem n h)
      · obtain rfl | h := mem_placeMark h
        · exact .inl List.mem_cons_self
        · exact .inr h

theorem mem_sortMarks {entry : Nat × Nat} (h : entry ∈ sortMarks ns) :
  entry.1 ∈ ns
  := by
  rw [sortMarks, List.mem_reverse] at h
  obtain h | h := mem_foldl_placeMark h
  · exact h
  · cases h

/-! ### Composing -/

theorem composed?_ne_newlineCode {a b c : Nat} (h : composed? a b = some c) :
  c ≠ newlineCode
  := by
  have hle : 0xC0 ≤ c := by
    rw [composed?] at h
    split at h
    · rw [Option.some_inj] at h
      omega
    · split at h
      case isTrue hsyllable =>
        simp only [Bool.and_eq_true, decide_eq_true_eq] at hsyllable
        rw [Option.some_inj] at h
        omega
      case isFalse =>
        obtain ⟨⟨m, pair⟩, hfind, rfl⟩ := Option.map_eq_some_iff.mp h
        have hmem := List.mem_of_find?_eq_some hfind
        unfold pairs at hmem
        obtain ⟨⟨m, pair⟩, -, heq⟩ := List.mem_map.mp hmem
        cases heq
        exact Nat.le_add_right _ _
  rintro rfl
  exact absurd hle (by decide)

/-- Whatever composing gives has been there before or is composed. -/
theorem newlineCode_notMem_compose {starter : Option Nat} {marks : List Nat} {last : Nat}
    {entries : List (Nat × Nat)} (hstarter : newlineCode ∉ starter.toList)
    (hmarks : newlineCode ∉ marks) (hentries : ∀ entry ∈ entries, entry.1 ≠ newlineCode) :
  newlineCode ∉ compose starter marks last entries
  := by
  induction entries generalizing starter marks last with
  | nil =>
      rw [compose, List.mem_append, List.mem_reverse, not_or]
      exact ⟨hstarter, hmarks⟩
  | cons entry entries ih =>
      obtain ⟨n, k⟩ := entry
      rw [List.forall_mem_cons] at hentries
      obtain ⟨hn, hentries⟩ := hentries
      have hne : newlineCode ≠ n := Ne.symm hn
      have hnil := List.not_mem_nil (a := newlineCode)
      have hfresh : newlineCode ∉ (some n).toList := by
        rwa [Option.toList_some, List.mem_singleton]
      cases starter with
      | none =>
          rw [compose]
          split
          · exact ih hfresh hnil hentries
          · rw [List.mem_cons, not_or]
            exact ⟨hne, ih hnil hnil hentries⟩
      | some s =>
          rw [compose]
          split
          case h_1 c hcomposed =>
            have hc : c ≠ newlineCode := by
              split at hcomposed
              · exact composed?_ne_newlineCode hcomposed
              · cases hcomposed
            refine ih ?_ hmarks hentries
            rw [Option.toList_some, List.mem_singleton]
            exact Ne.symm hc
          case h_2 =>
            split
            · rw [Option.toList_some, List.mem_singleton] at hstarter
              rw [List.mem_append, List.mem_cons, List.mem_reverse, not_or, not_or]
              exact ⟨⟨hstarter, hmarks⟩, ih hfresh hnil hentries⟩
            · refine ih hstarter ?_ hentries
              rw [List.mem_cons, not_or]
              exact ⟨hne, hmarks⟩

theorem newline_notMem_compatible (h : '\n' ∉ s) :
  '\n' ∉ compatible s
  := by
  have hparts : newlineCode ∉ s.flatMap fun c => decomposed c.toNat := by
    intro hmem
    obtain ⟨c, hc, hmem⟩ := List.mem_flatMap.mp hmem
    have hne : c.toNat ≠ newlineCode := by
      intro hcode
      rw [Char.toNat_inj.mp hcode] at hc
      exact h hc
    exact newlineCode_notMem_decomposed hne hmem
  intro hmem
  rw [compatible] at hmem
  obtain ⟨n, hn, hchar⟩ := List.mem_map.mp hmem
  refine ofNat_ne_newline ?_ hchar
  rintro rfl
  refine newlineCode_notMem_compose List.not_mem_nil List.not_mem_nil ?_ hn
  intro entry hentry hcode
  rw [← hcode] at hparts
  exact hparts (mem_sortMarks hentry)

end SnippetProfiler.Text
