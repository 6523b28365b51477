import SnippetProfiler.Proofs.Braced.Statements

/-!
# The tokens of hooks

A hook in which names are words is a statement.  It begins with a semicolon or an identifier, so
that nothing in front of it that ends with a mark runs into it.
-/

namespace SnippetProfiler.Braced

/-! ### Hooks -/

/-- A hook in which names are words. -/
def Hook.IsProper : Hook → Prop
  | .line _ => True
  | .rebind _ name => IsWord name.toList
  | .vars _ names _ => ∀ name ∈ names, IsWord name.toList

/-- The names that hooks use. -/
def ownWords : List String := [hookName, "line", "traced", "vars"]

theorem isWord_of_mem_ownWords {w : String} (hw : w ∈ ownWords) :
  IsWord w.toList
  := by
  have hall : ∀ w ∈ ownWords,
      (w.toList.head?.any fun c => !Text.isBlank c && startsIdentifier c) = true
        ∧ w.toList.tail.all continuesIdentifier = true := by
    decide
  obtain ⟨hhead, htail⟩ := hall w hw
  cases hchars : w.toList with
  | nil =>
      rw [hchars] at hhead
      cases hhead
  | cons c cs =>
      rw [hchars, List.head?_cons, Option.any_some, Bool.and_eq_true, Bool.not_eq_true'] at hhead
      rw [hchars] at htail
      exact ⟨c, cs, rfl, hhead.1, hhead.2, List.all_eq_true.mp htail⟩

theorem separator_isStatement {cs : List Char} (h : IsStatement cs) (separate : Bool) :
  IsStatement ((separator separate).toList ++ cs)
  := by
  cases separate with
  | true =>
      apply h.mark
      decide
  | false => exact h

/-- A call of the profiler. -/
theorem call_isStatement {w : String} (hw : w ∈ ownWords) {d : Char} {v cs : List Char}
    (hchars : w.toList = d :: v) (hd : d ∈ ['l', 't', 'v']) (h : IsStatement cs) :
  IsStatement (hookName.toList ++ '.' :: (w.toList ++ '(' :: cs))
  := by
  have hround : IsStatement ('(' :: cs) := by
    apply h.mark
    decide
  have hcall : IsStatement (w.toList ++ '(' :: cs) := by
    apply hround.word (isWord_of_mem_ownWords hw)
    decide
  have hdot : IsStatement ('.' :: (w.toList ++ '(' :: cs)) := by
    apply hcall.dot _ hd
    · exact v ++ '(' :: cs
    · rw [hchars]
      rfl
  apply hdot.word
  · apply isWord_of_mem_ownWords
    decide
  · decide

/-- The end of a call. -/
theorem end_isStatement :
  IsStatement [')', ';']
  := by
  apply IsStatement.semicolon.mark
  decide

theorem lineHook_isStatement (n : Nat) :
  IsStatement (Hook.line n).text.toList
  := by
  have hline : "line" ∈ ownWords := by decide
  have harguments : IsStatement ((toString n).toList ++ [')', ';']) := by
    apply end_isStatement.digits n
    decide
  have h := call_isStatement hline rfl (by decide) harguments
  have hopen : ".line(".toList = '.' :: ("line".toList ++ ['(']) := by decide
  have hclose : ");".toList = [')', ';'] := by decide
  simpa only [Hook.text, String.toList_append, hopen, hclose, List.append_assoc, List.cons_append,
    List.nil_append] using h

/-- A comma in front of an argument. -/
theorem comma_isStatement {cs : List Char} (h : IsStatement cs) :
  IsStatement (',' :: ' ' :: cs)
  := by
  apply h.blank.mark
  decide

theorem rebindHook_isStatement {name : String} (hname : IsWord name.toList) (separate : Bool) :
  IsStatement (Hook.rebind separate name).text.toList
  := by
  have htraced : "traced" ∈ ownWords := by decide
  have hquoted := comma_isStatement (end_isStatement.quoted name)
  have harguments := hquoted.word hname (by decide)
  have hcall := call_isStatement htraced rfl (by decide) harguments
  have hassign := hcall.equals.blank.word hname (by decide)
  have h := separator_isStatement hassign separate
  have hopen : ".traced(".toList = '.' :: ("traced".toList ++ ['(']) := by decide
  have hclose : ");".toList = [')', ';'] := by decide
  have hequals : " = ".toList = [' ', '=', ' '] := by decide
  have hbetween : ", ".toList = [',', ' '] := by decide
  simpa only [Hook.text, String.toList_append, hopen, hclose, hequals, hbetween, List.append_assoc,
    List.cons_append, List.nil_append] using h

theorem variableEntry_isStatement {name : String} (hname : IsWord name.toList) (line : Nat)
    {cs : List Char} (h : IsStatement cs) :
  IsStatement ((variableEntry line name).toList ++ cs)
  := by
  have hclose : IsStatement (']' :: cs) := by
    apply h.mark
    decide
  have hline := comma_isStatement (hclose.digits line (by decide))
  have hvalue := comma_isStatement (hline.word hname (by decide))
  have hentry := (hvalue.quoted name).mark (c := '[') (by decide)
  have hopen : "[".toList = ['['] := by decide
  have hlast : "]".toList = [']'] := by decide
  have hbetween : ", ".toList = [',', ' '] := by decide
  simpa only [variableEntry, String.toList_append, hopen, hlast, hbetween, List.append_assoc,
    List.cons_append, List.nil_append] using hentry

theorem variableEntries_isStatement {names : List String}
    (hnames : ∀ name ∈ names, IsWord name.toList) (line : Nat) {cs : List Char}
    (h : IsStatement cs) :
  IsStatement ((", ".intercalate (names.map (variableEntry line))).toList ++ cs)
  := by
  induction names with
  | nil => exact h
  | cons name names ih =>
      rw [List.forall_mem_cons] at hnames
      cases names with
      | nil =>
          apply variableEntry_isStatement hnames.1 line h
      | cons next names =>
          have hentry := variableEntry_isStatement hnames.1 line (comma_isStatement (ih hnames.2))
          have hbetween : ", ".toList = [',', ' '] := by decide
          simpa only [List.map_cons, String.intercalate_cons_cons, String.toList_append, hbetween,
            List.append_assoc, List.cons_append, List.nil_append] using hentry

theorem varsHook_isStatement {names : List String} (hnames : ∀ name ∈ names, IsWord name.toList)
    (separate : Bool) (line : Nat) :
  IsStatement (Hook.vars separate names line).text.toList
  := by
  have hvars : "vars" ∈ ownWords := by decide
  have hround : IsStatement [']', ')', ';'] := by
    apply end_isStatement.mark
    decide
  have hentries := variableEntries_isStatement
    (fun name hname => hnames name (List.mem_eraseDups.mp hname)) line hround
  have hsquare := hentries.mark (c := '[') (by decide)
  have hcall := call_isStatement hvars rfl (by decide) hsquare
  have h := separator_isStatement hcall separate
  have hopen : ".vars([".toList = '.' :: ("vars".toList ++ ['(', '[']) := by decide
  have hclose : "]);".toList = [']', ')', ';'] := by decide
  simpa only [Hook.text, String.toList_append, hopen, hclose, List.append_assoc, List.cons_append,
    List.nil_append] using h

/-- A hook is a statement. -/
theorem Hook.IsProper.isStatement {h : Hook} (hh : h.IsProper) :
  IsStatement h.text.toList
  := by
  cases h with
  | line n => apply lineHook_isStatement
  | rebind separate name => apply rebindHook_isStatement hh
  | vars separate names line => apply varsHook_isStatement hh

/-- Whether a hook begins with a semicolon. -/
def Hook.isSeparate : Hook → Bool
  | .line _ => false
  | .rebind separate _ => separate
  | .vars separate _ _ => separate

/-- A hook begins with a semicolon or an identifier. -/
theorem Hook.IsProper.opensHook {h : Hook} (hh : h.IsProper) :
  ∃ x w, h.text.toList = x :: w ∧ opensHook x = true ∧ (h.isSeparate = true → x = ';')
  := by
  have hown : hookName.toList = '_' :: "_probe".toList := by decide
  have hlead : (separator true).toList = [';'] := by decide
  have hnone : (separator false).toList = [] := by decide
  cases h with
  | line n =>
      rw [Hook.text, String.toList_append, String.toList_append, String.toList_append, hown]
      exact ⟨'_', _, rfl, by decide, fun h => by cases h⟩
  | rebind separate name =>
      obtain ⟨c, cs, hname, -, hc, -⟩ := hh
      simp only [Hook.text, String.toList_append]
      cases separate with
      | true =>
          rw [hlead]
          exact ⟨';', _, rfl, by decide, fun _ => rfl⟩
      | false =>
          rw [hnone, hname]
          have hopens : Braced.opensHook c = true := by rw [Braced.opensHook, hc, Bool.or_true]
          exact ⟨c, _, rfl, hopens, fun h => by cases h⟩
  | vars separate names line =>
      simp only [Hook.text, String.toList_append]
      cases separate with
      | true =>
          rw [hlead]
          exact ⟨';', _, rfl, by decide, fun _ => rfl⟩
      | false =>
          rw [hnone, hown]
          exact ⟨'_', _, rfl, by decide, fun h => by cases h⟩

/-- A hook that stands alone is cut into tokens. -/
theorem Hook.IsProper.scan {h : Hook} (hh : h.IsProper) {ws : List (TokenKind × String)}
    (hws : Spells h.text.toList ws) :
  ∃ vs, scan h.text.toList = .ok vs ∧ vs.map Token.lexeme = ws
  := by
  obtain ⟨us, s', hs, hus, hread⟩ := hws.read {}
  use us
  constructor
  · have hfirst : shebangLength h.text.toList = 0 := by
      obtain ⟨x, w, hchars, hx, -⟩ := hh.opensHook
      rw [hchars, shebangLength, if_neg]
      intro hp
      rw [List.isPrefixOf_iff_prefix, List.cons_prefix_cons] at hp
      rw [← hp.1] at hx
      cases hx
    have hend := hread [] [] (Scans.done hs.openings)
    rw [List.append_nil, List.append_nil] at hend
    rw [Braced.scan, hfirst]
    apply hend.scanFrom
  · exact hus

end SnippetProfiler.Braced
