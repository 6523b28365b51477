import SnippetProfiler.Proofs.Indented.Features
import SnippetProfiler.Proofs.Indented.Operands
import SnippetProfiler.Proofs.Text.Lines

/-!
# The header of a program

An instrumented program begins with exactly three lines, behind which comes the body that wraps the
snippet.  The header holds literals, and these denote what they are made from: the lines of the snippet,
and its documentation text where the snippet has one and is rewritten.  A snippet that is kept as a text
is passed on as a literal that denotes exactly this snippet.

Nothing in the header ends a line.  A literal hides all that does, and the names of features are names.
The documentation text may have halves of surrogate pairs in it.
-/

namespace SnippetProfiler.Indented

open Literal (IsCode codeLimit)
open Text (newline_notMem_toString newline_notMem_intercalate splitOn_line_append)
open Text.Quoted (encodeCodes literal)

/-- A literal denotes a text. -/
def Denotes (literal : String) (codes : List Nat) : Prop :=
  parse literal.toList = some [.expression 1 (.constant 1 (.text codes false))]

/-- The literal of a list denotes a list of texts. -/
def DenotesAll (literal : String) (texts : List (List Nat)) : Prop :=
  parse literal.toList
    = some [.expression 1 (.list 1 (texts.map fun codes => .constant 1 (.text codes false)))]

/-- A program consists of three header lines and the lines of a body.  The second header line assigns the
documentation text of the snippet, if there is one, and the third one holds the lines of the snippet. -/
def HasHeader (source : String) (o : TrackingOptions) (features : List String)
    (mapping : Option (List (Nat × Nat))) (documentation : Option (List Nat)) (body program : String) :
    Prop :=
  ∃ assignment table : String,
    program.toList.splitOn '\n'
        = (featureLine features).toList
          :: ("import _perfscope_probe as __probe__" ++ assignment).toList
          :: ("__probe__.start(" ++ optionsLiteral o ++ ", " ++ mapArgument mapping ++ ", " ++ table
            ++ ")").toList
          :: body.toList.splitOn '\n'
      ∧ (match documentation with
        | none => assignment = ""
        | some codes => ∃ literal, assignment = "; __doc__ = " ++ literal ∧ Denotes literal codes)
      ∧ DenotesAll table ((Text.lines source).map codes)

/-- The body of a program that keeps a snippet as a text, given the literal of the text. -/
def fallbackBody (literal : String) : List String :=
  ["try:", "    exec(compile(" ++ literal ++ ", '<snippet>', 'exec'))",
    "except BaseException as __probe_exc__:", "    __probe__.finish(__probe_exc__)", "else:",
    "    __probe__.finish()"]

variable {source : String} {o : TrackingOptions} {features : List String}
  {mapping : Option (List (Nat × Nat))} {documentation : Option (List Nat)}

/-! ### Literals -/

theorem isCode_of_mem_codes (s : String) :
  ∀ n ∈ codes s, IsCode n
  := by
  rw [codes, List.forall_mem_map]
  exact fun c _ => Literal.isCode_toNat c

theorem newline_notMem_encodeCodes {ns : List Nat} (h : ∀ n ∈ ns, IsCode n) :
  '\n' ∉ encodeCodes ns
  := fun hmem => absurd (Token.le_toNat_of_mem_encodeCodes h hmem) (by decide)

theorem newline_notMem_literal (s : String) :
  '\n' ∉ (literal s).toList
  := by
  rw [literal, String.toList_ofList]
  exact newline_notMem_encodeCodes (isCode_of_mem_codes s)

theorem denotes_encodeCodes {ns : List Nat} (h : ∀ n ∈ ns, IsCode n) :
  Denotes (.ofList (encodeCodes ns)) ns
  := by
  rw [Denotes, String.toList_ofList]
  exact parse_encodeCodes h

theorem intercalate_encodeCodes (ns : List Nat) (texts : List (List Nat)) :
  [',', ' '].intercalate ((ns :: texts).map encodeCodes) = encodeCodes ns ++ Token.furtherItems texts
  := by
  induction texts generalizing ns with
  | nil => rfl
  | cons ms texts ih =>
      have hfurther : Token.furtherItems (ms :: texts)
          = [',', ' '] ++ (encodeCodes ms ++ Token.furtherItems texts) := rfl
      rw [hfurther, ← ih, List.map_cons, List.map_cons, List.intercalate_cons_cons, List.append_assoc]

/-- A list of literals is written as it is scanned. -/
theorem toList_linesLiteral (lines : List String) :
  (linesLiteral lines).toList = Token.listText (lines.map codes)
  := by
  have hliterals : (lines.map literal).map String.toList = (lines.map codes).map encodeCodes := by
    rw [List.map_map, List.map_map]
    apply List.map_congr_left
    intro line _
    exact String.toList_ofList
  have hmarks : "[".toList = ['['] ∧ "]".toList = [']'] ∧ ", ".toList = [',', ' '] := by decide
  rw [linesLiteral, String.toList_append, String.toList_append, String.toList_intercalate, hliterals,
    hmarks.1, hmarks.2.1, hmarks.2.2]
  cases lines with
  | nil => rfl
  | cons line lines =>
      rw [List.map_cons, intercalate_encodeCodes, Token.listText, List.append_assoc, List.append_assoc]
      rfl

theorem denotesAll_linesLiteral (lines : List String) :
  DenotesAll (linesLiteral lines) (lines.map codes)
  := by
  rw [DenotesAll, toList_linesLiteral]
  apply parse_listText
  rw [List.forall_mem_map]
  exact fun line _ => isCode_of_mem_codes line

/-! ### Header lines -/

theorem newline_notMem_integer (n : Nat) :
  '\n' ∉ (Decimal.integer n).toList
  := by
  have hdigits : (toString n).toList = Decimal.digits (n : Int).natAbs := Nat.toList_repr
  rw [Decimal.integer, if_neg (by omega), String.toList_ofList, ← hdigits]
  exact newline_notMem_toString n

theorem newline_notMem_optionsLiteral (o : TrackingOptions) :
  '\n' ∉ (optionsLiteral o).toList
  := by
  have htruth (b : Bool) : '\n' ∉ (truth b).toList := by
    cases b
    · decide
    · decide
  simp only [optionsLiteral, String.toList_append, List.mem_append, not_or]
  refine ⟨⟨by decide, newline_notMem_intercalate (by decide) ?_⟩, by decide⟩
  rw [List.forall_mem_map]
  rintro ⟨k, v⟩ _
  simp only [String.toList_append, List.mem_append, not_or]
  exact ⟨⟨newline_notMem_literal k, by decide⟩, htruth v⟩

theorem newline_notMem_mapLiteral (m : List (Nat × Nat)) :
  '\n' ∉ (mapLiteral m).toList
  := by
  simp only [mapLiteral, String.toList_append, List.mem_append, not_or]
  refine ⟨⟨by decide, newline_notMem_intercalate (by decide) ?_⟩, by decide⟩
  rw [List.forall_mem_map]
  rintro ⟨k, v⟩ _
  simp only [String.toList_append, List.mem_append, not_or]
  exact ⟨⟨newline_notMem_integer k, by decide⟩, newline_notMem_integer v⟩

theorem newline_notMem_linesLiteral (lines : List String) :
  '\n' ∉ (linesLiteral lines).toList
  := by
  have hliterals : ∀ text ∈ lines.map literal, '\n' ∉ text.toList := by
    rw [List.forall_mem_map]
    exact fun line _ => newline_notMem_literal line
  simp only [linesLiteral, String.toList_append, List.mem_append, not_or]
  exact ⟨⟨by decide, newline_notMem_intercalate (by decide) hliterals⟩, by decide⟩

theorem newline_notMem_featureLine (h : ∀ id ∈ features, '\n' ∉ id.toList) :
  '\n' ∉ (featureLine features).toList
  := by
  rw [featureLine]
  split
  · decide
  · rw [String.toList_append, List.mem_append, not_or]
    exact ⟨by decide, newline_notMem_intercalate (by decide) h⟩

theorem newline_notMem_importLine (h : ∀ ns ∈ documentation, ∀ n ∈ ns, IsCode n) :
  '\n' ∉ (importLine documentation).toList
  := by
  cases documentation with
  | none => decide
  | some ns =>
      simp only [importLine, String.toList_append, List.mem_append, not_or, String.toList_ofList]
      exact ⟨by decide, by decide, newline_notMem_encodeCodes (h ns rfl)⟩

theorem newline_notMem_mapArgument (mapping : Option (List (Nat × Nat))) :
  '\n' ∉ (mapArgument mapping).toList
  := by
  cases mapping with
  | none => decide
  | some m => exact newline_notMem_mapLiteral m

theorem newline_notMem_startLine (o : TrackingOptions) (mapping : Option (List (Nat × Nat)))
    (lines : List String) :
  '\n' ∉ (startLine o mapping lines).toList
  := by
  simp only [startLine, String.toList_append, List.mem_append, not_or]
  exact ⟨⟨⟨⟨⟨⟨⟨by decide, by decide⟩, newline_notMem_optionsLiteral o⟩, by decide⟩,
    newline_notMem_mapArgument mapping⟩, by decide⟩, newline_notMem_linesLiteral lines⟩, by decide⟩

/-- A program has a header, if what its header is made from can be written in one line. -/
theorem hasHeader_header (hfeatures : ∀ id ∈ features, '\n' ∉ id.toList)
    (hdocumentation : ∀ ns ∈ documentation, ∀ n ∈ ns, IsCode n) (body : String) :
  HasHeader source o features mapping documentation body
    (header features o mapping (Text.lines source) documentation ++ body)
  := by
  have hlines : header features o mapping (Text.lines source) documentation ++ body
      = featureLine features ++ "\n" ++ (importLine documentation ++ "\n"
        ++ (startLine o mapping (Text.lines source) ++ "\n" ++ body)) := by
    simp only [header, String.append_assoc]
  have hsplit := splitOn_line_append (newline_notMem_featureLine hfeatures)
    (importLine documentation ++ "\n" ++ (startLine o mapping (Text.lines source) ++ "\n" ++ body))
  rw [splitOn_line_append (newline_notMem_importLine hdocumentation),
    splitOn_line_append (newline_notMem_startLine o mapping (Text.lines source)), ← hlines] at hsplit
  refine ⟨_, linesLiteral (Text.lines source), hsplit, ?_, denotesAll_linesLiteral _⟩
  cases documentation with
  | none => rfl
  | some ns => exact ⟨_, rfl, denotes_encodeCodes (hdocumentation ns rfl)⟩

/-! ### Snippets that are kept as texts -/

theorem expr_execCall (source : String) :
  Print.expr false Strength.yield (execCall source)
    = some ("exec(compile(" ++ .ofList (encodeCodes (codes source)) ++ ", '<snippet>', 'exec'))")
  := by
  have hopening : "exec(compile(" = "exec" ++ ("(" ++ ("compile" ++ "(")) := by decide
  have hclosing : ", '<snippet>', 'exec'))"
      = ", " ++ ("'<snippet>'" ++ (", " ++ ("'exec'" ++ (")" ++ ")")))) := by decide
  have hsource : Print.constant false (.text (codes source) false)
      = some (.ofList (encodeCodes (codes source))) :=
    congrArg some String.empty_append
  have hfile : Print.constant false (.text (codes snippetFile) false) = some "'<snippet>'" := by decide
  have hmode : Print.constant false (.text (codes "exec") false) = some "'exec'" := by decide
  simp only [execCall, textAt, Print.expr, Print.exprs, Print.keywords, hsource, hfile, hmode,
    Print.separated, Option.bind_eq_bind, Option.bind_some, Option.pure_def, List.append_nil,
    String.intercalate_cons_cons, String.intercalate_singleton, hopening, hclosing, String.append_assoc]

theorem block_execCall (source : String) :
  Print.block 1 [.expression 0 (execCall source)]
    = some ["    exec(compile(" ++ .ofList (encodeCodes (codes source)) ++ ", '<snippet>', 'exec'))"]
  := by
  have hindent : Print.lineAt 1 "exec(compile(" = "    exec(compile(" := by decide
  simp only [Print.block, Print.stmt, expr_execCall, Option.bind_eq_bind, Option.bind_some,
    Option.pure_def, List.append_nil]
  rw [← hindent]
  simp only [Print.lineAt, String.append_assoc]

theorem program_fallback (source : String) :
  Print.program (wrap [.expression 0 (execCall source)])
    = some (fallbackBody (.ofList (encodeCodes (codes source))))
  := by
  have hhandlers : Print.handlers 0 "except"
      [.handler 0 (some (.name 0 "BaseException")) (some exceptionName)
        [.expression 0 (hookCall 0 "finish" [.name 0 exceptionName])]]
      = some ["except BaseException as __probe_exc__:", "    __probe__.finish(__probe_exc__)"] := by
    decide
  have helse : Print.elseLines 0 "else:" [.expression 0 (hookCall 0 "finish" [])]
      = some ["else:", "    __probe__.finish()"] := by decide
  have hfinally : Print.elseLines 0 "finally:" [] = some [] := by decide
  have hblock := block_execCall source
  rw [Print.program, wrap, Print.definition, Print.stmt, List.isEmpty_cons, if_neg Bool.false_ne_true,
    if_neg Bool.false_ne_true, hblock, hhandlers, helse, hfinally]
  · rfl
  · rintro _ _ _ _ ⟨⟩

/-- The program that keeps a snippet as a text. -/
theorem hasHeader_fallback (source : String) (o : TrackingOptions) :
  HasHeader source o [] none none
    ("\n".intercalate (fallbackBody (.ofList (encodeCodes (codes source)))) ++ "\n") (fallback source o)
  := by
  rw [fallback, print, program_fallback, Option.map_some, Option.getD_some, String.append_assoc]
  exact hasHeader_header (List.forall_mem_nil _) (by rintro _ ⟨⟩) _

/-! ### Snippets that are rewritten -/

theorem mem_of_mem_splitText {program : Block} {s : Stmt} (h : s ∈ (splitText program).2) :
  s ∈ program
  := by
  rw [splitText.eq_def] at h
  split at h
  · exact List.mem_cons_of_mem _ h
  · exact h

/-- A feature is a name. -/
theorem newline_notMem_features {program : Block} (h : ∀ s ∈ program, s.IsWritable) :
  ∀ id ∈ (splitFuture (splitText program).2).1, '\n' ∉ id.toList
  := by
  intro id hid
  obtain ⟨s, hs, hid⟩ := List.mem_flatMap.mp hid
  have hwritable := h s (mem_of_mem_splitText hs)
  rw [Stmt.features.eq_def] at hid
  split at hid
  · obtain ⟨a, ha, rfl⟩ := List.mem_map.mp hid
    exact hwritable a ha
  · cases hid

/-- A program that can be run has no null character in it. -/
theorem null_notMem_of_runs {text : String} (h : runs text = true) :
  '\x00' ∉ text.toList
  := by
  rw [runs] at h
  split at h
  case h_1 hparse =>
    obtain ⟨tokens, hscan, -⟩ := Option.bind_eq_some_iff.mp hparse
    rw [Token.scan] at hscan
    split at hscan
    case isTrue => cases hscan
    case isFalse hnull => rwa [List.contains_iff_mem] at hnull
  case h_2 => cases h

/-- The documentation text of a program is made of codes, if it is quoted without a null character. -/
theorem isCode_of_mem_documentation {program : Block} (h : ∀ s ∈ program, s.IsWritable) {ns : List Nat}
    (hns : (splitText program).1 = some ns) (hnull : '\x00' ∉ encodeCodes ns) :
  ∀ n ∈ ns, IsCode n
  := by
  intro n hn
  have hlt : n < codeLimit := by
    rw [splitText.eq_def] at hns
    split at hns
    · cases hns
      exact h _ List.mem_cons_self n hn
    · cases hns
  apply Literal.isCode_of_notMem hlt
  intro hmem
  apply hnull
  rw [encodeCodes, List.mem_append, List.mem_cons, List.mem_flatMap]
  exact .inl (.inr ⟨n, hn, hmem⟩)

/-- The documentation text is quoted in the header. -/
theorem mem_toList_header {lines : List String} {ns : List Nat} {c : Char} (h : c ∈ encodeCodes ns) :
  c ∈ (header features o mapping lines (some ns)).toList
  := by
  have himport : c ∈ (importLine (some ns)).toList := by
    simp only [importLine, String.toList_append, List.mem_append, String.toList_ofList]
    exact .inr (.inr h)
  simp only [header, String.toList_append, List.mem_append]
  exact .inl (.inl (.inl (.inr himport)))

/-- What a rewritten snippet consists of. -/
theorem eq_of_rewritten {text : String} (h : rewritten source o = some text) :
  ∃ program body mapping, parse source.toList = some program
    ∧ print (wrap (injectBlock (splitFuture (splitText program).2).2)) = some body
    ∧ text = header (splitFuture (splitText program).2).1 o (some mapping) (Text.lines source)
        (splitText program).1 ++ (body ++ "\n")
  := by
  obtain ⟨program, hparse, h⟩ := Option.bind_eq_some_iff.mp h
  obtain ⟨_, -, h⟩ := Option.bind_eq_some_iff.mp h
  obtain ⟨body, hprint, h⟩ := Option.bind_eq_some_iff.mp h
  obtain ⟨reread, -, h⟩ := Option.bind_eq_some_iff.mp h
  refine ⟨program, body, lineMap (moduleShape (wrap (injectBlock (splitFuture (splitText program).2).2)))
    (moduleShape reread) headerLines, hparse, hprint, ?_⟩
  rw [← String.append_assoc]
  exact (Option.some_inj.mp h).symm

/-- The program of a snippet that is rewritten. -/
theorem hasHeader_rewritten {text : String} (h : rewritten source o = some text)
    (hruns : runs text = true) :
  ∃ program body mapping, parse source.toList = some program
    ∧ print (wrap (injectBlock (splitFuture (splitText program).2).2)) = some body
    ∧ HasHeader source o (splitFuture (splitText program).2).1 (some mapping) (splitText program).1
        (body ++ "\n") text
  := by
  obtain ⟨program, body, mapping, hparse, hprint, rfl⟩ := eq_of_rewritten h
  have hwritable := isWritable_of_mem_parse hparse
  refine ⟨program, body, mapping, hparse, hprint,
    hasHeader_header (newline_notMem_features hwritable) ?_ _⟩
  intro ns hns
  have hdocumentation : (splitText program).1 = some ns := hns
  refine isCode_of_mem_documentation hwritable hdocumentation fun hmem => null_notMem_of_runs hruns ?_
  rw [String.toList_append, hdocumentation]
  exact List.mem_append_left _ (mem_toList_header hmem)

/-! ### Programs of snippets -/

/-- The program of a snippet consists of three header lines and a body, and the literals in it are
faithful, whether the snippet is kept as a text or rewritten. -/
theorem program_isFaithful (source : String) (o : TrackingOptions) :
  (∃ literal, Denotes literal (codes source)
      ∧ HasHeader source o [] none none ("\n".intercalate (fallbackBody literal) ++ "\n")
          (fallback source o))
    ∧ (instrument source o = fallback source o
      ∨ ∃ program body mapping, parse source.toList = some program
        ∧ print (wrap (injectBlock (splitFuture (splitText program).2).2)) = some body
        ∧ HasHeader source o (splitFuture (splitText program).2).1 (some mapping) (splitText program).1
            (body ++ "\n") (instrument source o))
  := by
  refine ⟨⟨_, denotes_encodeCodes (isCode_of_mem_codes source), hasHeader_fallback source o⟩, ?_⟩
  rw [instrument]
  split
  case h_1 text hrewritten =>
    split
    case isTrue hruns => exact .inr (hasHeader_rewritten hrewritten hruns)
    case isFalse => exact .inl rfl
  case h_2 => exact .inl rfl

end SnippetProfiler.Indented
