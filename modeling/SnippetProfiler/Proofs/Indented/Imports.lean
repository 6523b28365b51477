import Mathlib.Data.List.Basic
import SnippetProfiler.Proofs.Indented.Erasure
import SnippetProfiler.Proofs.Indented.Header

/-!
# Where features are imported

A program may import features of the language at its very start only, behind its documentation text.  A
feature import anywhere else is late, and a program with a late import on a later line cannot be run
(`compiles_eq_false_of_late`).

The header of an instrumented program takes over all feature imports that stand at the top level of the
snippet, the late ones included.  So a snippet with a late import stays what it is when the import stands
inside another statement, or when the snippet is kept as a text for some other reason, and only then.
-/

namespace SnippetProfiler.Indented

open Text (splitOn_line_append)

/-- The feature imports that a program starts with, behind its documentation text. -/
def leadingImports (program : Block) : Block := (splitText program).2.takeWhile Stmt.isFuture

/-- The statements of a program behind its documentation text and the feature imports that it starts
with. -/
def mainPart (program : Block) : Block := (splitText program).2.dropWhile Stmt.isFuture

/-- The program that runs in place of a snippet keeps the late imports of the snippet where they are: the
snippet is kept as a text, or the header of the program has the leading imports only and all later ones
are in its body. -/
def KeepsLateImports (source : String) (o : TrackingOptions) (program : Block) : Prop :=
  instrument source o = fallback source o
    ∨ ∃ body text mapping, print body = some text
      ∧ instrument source o
        = header ((leadingImports program).flatMap Stmt.features) o (some mapping) (Text.lines source)
            (splitText program).1 ++ (text ++ "\n")
      ∧ ∀ s : Stmt, s.features ≠ [] → s.StandsIn (mainPart program) → s.StandsIn body

/-! ### Feature imports -/

/-- What imports a feature is a feature import. -/
theorem isFuture_of_features_ne_nil {s : Stmt} (h : s.features ≠ []) :
  s.isFuture = true
  := by
  rw [Stmt.features.eq_def] at h
  split at h
  · rfl
  · cases h rfl

theorem blocks_eq_nil_of_isFuture {s : Stmt} (h : s.isFuture = true) :
  s.blocks = []
  := by
  cases s with
  | importFrom l module names level => rfl
  | _ => cases h

theorem blocks_eq_nil_of_isText {s : Stmt} (h : s.isText = true) :
  s.blocks = []
  := by
  cases s with
  | expression l e => rfl
  | _ => cases h

theorem inject_of_isFuture {s : Stmt} (h : s.isFuture = true) :
  s.inject = timed s :: varHooks s.line s.assignedNames
  := by
  cases s with
  | importFrom l module names level => rfl
  | _ => cases h

theorem isText_eq_false_of_isFuture {s : Stmt} (h : s.isFuture = true) :
  s.isText = false
  := by
  cases s with
  | importFrom l module names level => rfl
  | _ => cases h

/-! ### What stands in a block with hooks -/

theorem mem_injectBlock {s t : Stmt} {b : Block} (hs : s ∈ b) (ht : t ∈ s.inject) :
  t ∈ injectBlock b
  := by
  induction b with
  | nil => cases hs
  | cons u b ih =>
      rw [injectBlock, List.mem_append]
      cases hs with
      | head => exact .inl ht
      | tail _ hs => exact .inr (ih hs)

theorem mem_injectBody {s t : Stmt} {b : Block} (hs : s ∈ b) (hne : s.isText = false) (ht : t ∈ s.inject) :
  t ∈ injectBody b
  := by
  cases b with
  | nil => cases hs
  | cons u b =>
      rw [injectBody, List.mem_append]
      cases hs with
      | head =>
          left
          rwa [hne, if_neg Bool.false_ne_true]
      | tail _ hs => exact .inr (mem_injectBlock hs ht)

theorem mem_injectHandlers {b : Block} {hs : List Handler} (h : b ∈ hs.map Handler.body) :
  injectBlock b ∈ (injectHandlers hs).map Handler.body
  := by
  induction hs with
  | nil => cases h
  | cons handler hs ih =>
      obtain ⟨l, exception, name, body⟩ := handler
      cases h with
      | head => exact List.mem_cons_self
      | tail _ h => exact List.mem_cons_of_mem _ (ih h)

theorem mem_injectCases {b : Block} {cs : List Case} (h : b ∈ cs.map Case.body) :
  injectBlock b ∈ (injectCases cs).map Case.body
  := by
  induction cs with
  | nil => cases h
  | cons case cs ih =>
      obtain ⟨p, guard, body⟩ := case
      cases h with
      | head => exact List.mem_cons_self
      | tail _ h => exact List.mem_cons_of_mem _ (ih h)

/-- A block with hooks takes the place of each block of a statement. -/
theorem exists_mem_inject {s : Stmt} {b : Block} (h : b ∈ s.blocks) :
  ∃ t ∈ s.inject, ∃ c ∈ t.blocks, c = injectBody b ∨ ∀ u ∈ injectBlock b, u ∈ c
  := by
  cases s with
  | functionDef l isAsync name ps body ds returns =>
      cases List.mem_singleton.mp h
      exact ⟨_, List.mem_singleton_self _, _, List.mem_singleton_self _, .inl rfl⟩
  | classDef l name bases ks body ds =>
      cases List.mem_singleton.mp h
      exact ⟨_, List.mem_singleton_self _, _, List.mem_singleton_self _, .inl rfl⟩
  | withItems l isAsync items body =>
      cases List.mem_singleton.mp h
      exact ⟨_, List.mem_singleton_self _, _, List.mem_singleton_self _, .inr fun _ hu => hu⟩
  | forIn l isAsync target iterable body orelse =>
      refine ⟨_, List.mem_singleton_self _, ?_⟩
      rcases List.mem_pair.mp h with rfl | rfl
      · exact ⟨_, List.mem_cons_self, .inr fun _ hu => List.mem_append_right _ hu⟩
      · exact ⟨_, List.mem_cons_of_mem _ List.mem_cons_self, .inr fun _ hu => hu⟩
  | whileLoop l test body orelse =>
      refine ⟨_, List.mem_singleton_self _, ?_⟩
      rcases List.mem_pair.mp h with rfl | rfl
      · exact ⟨_, List.mem_cons_self, .inr fun _ hu => hu⟩
      · exact ⟨_, List.mem_cons_of_mem _ List.mem_cons_self, .inr fun _ hu => hu⟩
  | ifElse l test body orelse =>
      refine ⟨_, List.mem_singleton_self _, ?_⟩
      rcases List.mem_pair.mp h with rfl | rfl
      · exact ⟨_, List.mem_cons_self, .inr fun _ hu => hu⟩
      · exact ⟨_, List.mem_cons_of_mem _ List.mem_cons_self, .inr fun _ hu => hu⟩
  | tryExcept l isGroup body hs orelse finalbody =>
      refine ⟨_, List.mem_singleton_self _, injectBlock b, ?_, .inr fun _ hu => hu⟩
      rw [Stmt.blocks, List.cons_append, List.mem_cons, List.mem_append, List.mem_pair] at h ⊢
      obtain rfl | h | rfl | rfl := h
      · exact .inl rfl
      · exact .inr (.inl (mem_injectHandlers h))
      · exact .inr (.inr (.inl rfl))
      · exact .inr (.inr (.inr rfl))
  | matchOn l subject cs =>
      exact ⟨_, List.mem_singleton_self _, _, mem_injectCases h, .inr fun _ hu => hu⟩
  | _ => cases h

theorem Stmt.StandsIn.mono {s : Stmt} {b c : Block} (h : s.StandsIn b) (hsub : ∀ t ∈ b, t ∈ c) :
  s.StandsIn c
  := by
  cases h with
  | here h => exact .here (hsub s h)
  | inside ht hd h => exact .inside (hsub _ ht) hd h

/-- A feature import stands in a block with hooks when it stands in the block, and the same holds of the
block of a definition. -/
theorem standsIn_inject {s : Stmt} {b : Block} (hs : s.isFuture = true) (h : s.StandsIn b) :
  s.StandsIn (injectBlock b) ∧ s.StandsIn (injectBody b)
  := by
  induction h with
  | here h =>
      have hmem : timed s ∈ s.inject := by
        rw [inject_of_isFuture hs]
        exact List.mem_cons_self
      have htimed : [s] ∈ (timed s).blocks := List.mem_singleton_self _
      constructor
      · exact .inside (mem_injectBlock h hmem) htimed (.here (List.mem_singleton_self s))
      · exact .inside (mem_injectBody h (isText_eq_false_of_isFuture hs) hmem) htimed
          (.here (List.mem_singleton_self s))
  | @inside t b c ht hc _ ih =>
      obtain ⟨u, hu, d, hd, hin⟩ := exists_mem_inject hc
      have hstands : s.StandsIn d := by
        obtain rfl | hsub := hin
        · exact ih.2
        · exact ih.1.mono hsub
      have htext : t.isText = false := by
        by_contra htext
        rw [Bool.not_eq_false] at htext
        rw [blocks_eq_nil_of_isText htext] at hc
        cases hc
      exact ⟨.inside (mem_injectBlock ht hu) hd hstands, .inside (mem_injectBody ht htext hu) hd hstands⟩

/-! ### The header -/

theorem wrap_standsIn {s : Stmt} {b : Block} (h : s.StandsIn b) :
  s.StandsIn (wrap b)
  := by
  have hne : b.isEmpty = false := by
    cases h with
    | here h => exact List.isEmpty_eq_false_iff.mpr (List.ne_nil_of_mem h)
    | inside ht => exact List.isEmpty_eq_false_iff.mpr (List.ne_nil_of_mem ht)
  rw [wrap, hne, if_neg Bool.false_ne_true]
  exact .inside List.mem_cons_self List.mem_cons_self h

/-- The features of a program are those of its leading imports and those that are imported late at the top
level. -/
theorem features_splitFuture (program : Block) :
  (splitFuture (splitText program).2).1
    = (leadingImports program).flatMap Stmt.features ++ (mainPart program).flatMap Stmt.features
  := by
  rw [splitFuture, leadingImports, mainPart, ← List.flatMap_append, List.takeWhile_append_dropWhile]

theorem length_intercalate_lt (id : String) (features : List String) {late : List String} (h : late ≠ []) :
  (", ".intercalate (id :: features)).length < (", ".intercalate (id :: (features ++ late))).length
  := by
  have hcomma : ", ".length = 2 := rfl
  induction features generalizing id with
  | nil =>
      obtain ⟨l, late, rfl⟩ := List.exists_cons_of_ne_nil h
      rw [List.nil_append, String.intercalate_singleton, String.intercalate_cons_cons, String.length_append,
        String.length_append, hcomma]
      omega
  | cons f features ih =>
      have hrest := ih f
      rw [List.cons_append, String.intercalate_cons_cons, String.intercalate_cons_cons]
      simp only [String.length_append]
      omega

/-- A feature line tells how many features there are. -/
theorem eq_nil_of_featureLine_append {features late : List String}
    (h : featureLine (features ++ late) = featureLine features) :
  late = []
  := by
  by_contra hne
  obtain ⟨l, ls, rfl⟩ := List.exists_cons_of_ne_nil hne
  cases features with
  | nil =>
      have hfirst := congrArg (fun s => s.toList.head?) h
      simp only [featureLine, List.nil_append, List.isEmpty_cons, Bool.false_eq_true, if_false,
        List.isEmpty_nil, if_true, String.toList_append] at hfirst
      cases hfirst
  | cons f fs =>
      have hlength := congrArg String.length h
      have hlt := length_intercalate_lt f fs hne
      simp only [featureLine, List.cons_append, List.isEmpty_cons, Bool.false_eq_true, if_false,
        String.length_append] at hlength
      omega

/-- A feature import that stands inside a statement is not taken out of it. -/
theorem standsIn_splitFuture {s : Stmt} {program : Block} (hs : s.features ≠ [])
    (hnone : ∀ t ∈ mainPart program, t.features = []) (h : s.StandsIn (mainPart program)) :
  s.StandsIn (splitFuture (splitText program).2).2
  := by
  cases h with
  | here hmem => cases hs (hnone s hmem)
  | @inside t b c ht hc hinner =>
      apply Stmt.StandsIn.inside _ hc hinner
      rw [splitFuture, List.mem_filter, Bool.not_eq_true']
      refine ⟨(List.dropWhile_sublist _).subset ht, ?_⟩
      by_contra hfuture
      rw [Bool.not_eq_false] at hfuture
      rw [blocks_eq_nil_of_isFuture hfuture] at hc
      cases hc

/-- A header begins with its feature line. -/
theorem exists_header_eq (features : List String) (o : TrackingOptions)
    (mapping : Option (List (Nat × Nat))) (lines : List String) (documentation : Option (List Nat))
    (text : String) :
  ∃ rest, header features o mapping lines documentation ++ text = featureLine features ++ "\n" ++ rest
  := by
  refine ⟨importLine documentation ++ "\n" ++ startLine o mapping lines ++ "\n" ++ text, ?_⟩
  simp only [header, String.append_assoc]

theorem featureLine_eq_of_header_eq {features features' : List String} {o : TrackingOptions}
    {m m' : Option (List (Nat × Nat))} {lines : List String} {documentation : Option (List Nat)}
    {text text' : String} (hfeatures : ∀ id ∈ features, '\n' ∉ id.toList)
    (hfeatures' : ∀ id ∈ features', '\n' ∉ id.toList)
    (h : header features o m lines documentation ++ text = header features' o m' lines documentation ++ text') :
  featureLine features = featureLine features'
  := by
  obtain ⟨rest, hrest⟩ := exists_header_eq features o m lines documentation text
  obtain ⟨rest', hrest'⟩ := exists_header_eq features' o m' lines documentation text'
  have hlines := congrArg (fun t => t.toList.splitOn '\n') (hrest.symm.trans (h.trans hrest'))
  simp only [splitOn_line_append (newline_notMem_featureLine hfeatures),
    splitOn_line_append (newline_notMem_featureLine hfeatures'), List.cons.injEq] at hlines
  exact String.toList_inj.mp hlines.1

/-- What a snippet is rewritten to, from the steps on the way. -/
theorem rewritten_eq {source text : String} {o : TrackingOptions} {program statements body reread : Block}
    {documentation : Option (List Nat)} {features : List String}
    (hparse : parse source.toList = some program) (hdoc : splitText program = (documentation, statements))
    (hsplit : splitFuture statements = (features, body))
    (hprinted : isPrinted (moduleShape (wrap (injectBlock body))) = true)
    (hprint : print (wrap (injectBlock body)) = some text) (hreread : parse text.toList = some reread) :
  rewritten source o = some (header features o
    (some (lineMap (moduleShape (wrap (injectBlock body))) (moduleShape reread) headerLines))
    (Text.lines source) documentation ++ text ++ "\n")
  := by
  simp only [rewritten, hparse, hdoc, hsplit, hprinted, hprint, hreread, guard, if_true, Option.pure_def,
    Option.bind_eq_bind, Option.bind_some]

/-- A text can be run when the program that its lines hold compiles. -/
theorem runs_join {lines : List String} (h : (parse (lines.flatMap String.toList)).any compiles = true) :
  runs (String.join lines) = true
  := by
  obtain ⟨program, hparse, hcompiles⟩ := Option.any_eq_true .. |>.mp h
  rw [runs, String.toList_join, hparse]
  exact hcompiles

/-- A snippet that is not kept as a text is rewritten. -/
theorem rewritten_of_ne_fallback {source : String} {o : TrackingOptions}
    (h : instrument source o ≠ fallback source o) :
  rewritten source o = some (instrument source o)
  := by
  rw [instrument] at h ⊢
  split at h
  case h_1 text hrewritten =>
    split at h
    case isTrue hruns => simp only [hrewritten, if_pos hruns]
    case isFalse => cases h rfl
  case h_2 => cases h rfl

/-! ### Programs with late imports -/

namespace Placement

theorem block_of_mem {first : Nat} {pl : Place} {s : Stmt} {b : Block} (hs : s ∈ b)
    (h : block first pl b = true) :
  stmt first pl s = true
  := by
  induction b with
  | nil => cases hs
  | cons t b ih =>
      rw [block, Bool.and_eq_true] at h
      cases hs with
      | head => exact h.1
      | tail _ hs => exact ih hs h.2

theorem block_of_mem_handlers {first : Nat} {pl : Place} {b : Block} {hs : List Handler}
    (hb : b ∈ hs.map Handler.body) (h : handlers first pl hs = true) :
  ∃ pl', block first pl' b = true
  := by
  induction hs with
  | nil => cases hb
  | cons handler hs ih =>
      obtain ⟨l, exception, name, body⟩ := handler
      simp only [handlers, Bool.and_eq_true] at h
      cases hb with
      | head => exact ⟨_, h.1.2⟩
      | tail _ hb => exact ih hb h.2

theorem block_of_mem_cases {first : Nat} {pl : Place} {several : Bool} {b : Block} {cs : List Case}
    (hb : b ∈ cs.map Case.body) (h : cases first pl several cs = true) :
  ∃ pl', block first pl' b = true
  := by
  induction cs with
  | nil => cases hb
  | cons case cs ih =>
      obtain ⟨p, guard, body⟩ := case
      simp only [cases, Bool.and_eq_true] at h
      cases hb with
      | head => exact ⟨_, h.1.2⟩
      | tail _ hb => exact ih hb h.2

/-- The blocks of a statement that is placed well are placed well. -/
theorem block_of_mem_blocks {first : Nat} {pl : Place} {s : Stmt} {b : Block} (hb : b ∈ s.blocks)
    (h : stmt first pl s = true) :
  ∃ pl', block first pl' b = true
  := by
  cases s with
  | functionDef l isAsync name ps body ds returns =>
      cases List.mem_singleton.mp hb
      simp only [stmt, Bool.and_eq_true] at h
      exact ⟨_, h.2⟩
  | classDef l name bases ks body ds =>
      cases List.mem_singleton.mp hb
      simp only [stmt, Bool.and_eq_true] at h
      exact ⟨_, h.2⟩
  | withItems l isAsync items body =>
      cases List.mem_singleton.mp hb
      simp only [stmt, Bool.and_eq_true] at h
      exact ⟨_, h.2⟩
  | forIn l isAsync target iterable body orelse =>
      simp only [stmt, Bool.and_eq_true] at h
      rcases List.mem_pair.mp hb with rfl | rfl
      · exact ⟨_, h.1.2⟩
      · exact ⟨_, h.2⟩
  | whileLoop l test body orelse =>
      simp only [stmt, Bool.and_eq_true] at h
      rcases List.mem_pair.mp hb with rfl | rfl
      · exact ⟨_, h.1.2⟩
      · exact ⟨_, h.2⟩
  | ifElse l test body orelse =>
      simp only [stmt, Bool.and_eq_true] at h
      rcases List.mem_pair.mp hb with rfl | rfl
      · exact ⟨_, h.1.2⟩
      · exact ⟨_, h.2⟩
  | tryExcept l isGroup body hs orelse finalbody =>
      simp only [stmt, Bool.and_eq_true] at h
      rw [Stmt.blocks, List.cons_append, List.mem_cons, List.mem_append, List.mem_pair] at hb
      obtain rfl | hb | rfl | rfl := hb
      · exact ⟨_, h.1.1.1.2⟩
      · exact block_of_mem_handlers hb h.1.2
      · exact ⟨_, h.1.1.2⟩
      · exact ⟨_, h.2⟩
  | matchOn l subject cs =>
      simp only [stmt, Bool.and_eq_true] at h
      exact block_of_mem_cases hb h.2
  | _ => cases hb

/-- Each statement of a block that is placed well is placed well, at any depth. -/
theorem stmt_of_standsIn {first : Nat} {pl : Place} {s : Stmt} {b : Block} (hs : s.StandsIn b)
    (h : block first pl b = true) :
  ∃ pl', stmt first pl' s = true
  := by
  induction hs generalizing pl with
  | here hs => exact ⟨pl, block_of_mem hs h⟩
  | inside ht hc _ ih =>
      obtain ⟨pl', hblock⟩ := block_of_mem_blocks hc (block_of_mem ht h)
      exact ih hblock

end Placement

/-- A program that imports a feature on a later line than its leading imports cannot be run. -/
theorem compiles_eq_false_of_late {program : Block} {s : Stmt} (hs : s.isFuture = true)
    (hstands : s.StandsIn program)
    (hlate : Placement.futureLine (Placement.behindText program) 0 < s.line) :
  compiles program = false
  := by
  by_contra hcompiles
  rw [Bool.not_eq_false, compiles, Bool.and_eq_true] at hcompiles
  obtain ⟨pl, hplaced⟩ := Placement.stmt_of_standsIn hstands hcompiles.2
  rw [Stmt.isFuture.eq_def] at hs
  split at hs
  · simp only [Placement.stmt, Bool.and_eq_true, Bool.or_eq_true, decide_eq_true_eq] at hplaced
    obtain ⟨-, hne | hle⟩ := hplaced
    · cases hne rfl
    · exact absurd hle (Nat.not_le.mpr hlate)
  · cases hs

/-- A snippet whose late imports stay where they are has none at the top level, unless it is kept as a
text. -/
theorem KeepsLateImports.features_eq_nil {source : String} {o : TrackingOptions} {program : Block}
    (h : KeepsLateImports source o program) (hparse : parse source.toList = some program)
    (hrewritten : rewritten source o = some (instrument source o))
    (hfallback : instrument source o ≠ fallback source o) :
  ∀ s ∈ mainPart program, s.features = []
  := by
  obtain ⟨program', text, mapping, hparse', -, heq⟩ := eq_of_rewritten hrewritten
  cases Option.some_inj.mp (hparse.symm.trans hparse')
  have hwritable := newline_notMem_features (isWritable_of_mem_parse hparse)
  rw [features_splitFuture] at heq hwritable
  obtain hkept | ⟨body, text', mapping', -, heq', -⟩ := h
  · cases hfallback hkept
  · have hline := featureLine_eq_of_header_eq hwritable
      (fun id hid => hwritable id (List.mem_append_left _ hid)) (heq.symm.trans heq')
    exact List.flatMap_eq_nil_iff.mp (eq_nil_of_featureLine_append hline)

/-- Late imports that all stand inside other statements stay where they are. -/
theorem keepsLateImports_of_features_eq_nil {source : String} {o : TrackingOptions} {program : Block}
    (h : ∀ s ∈ mainPart program, s.features = []) (hparse : parse source.toList = some program)
    (hrewritten : rewritten source o = some (instrument source o)) :
  KeepsLateImports source o program
  := by
  obtain ⟨program', text, mapping, hparse', hprint, heq⟩ := eq_of_rewritten hrewritten
  cases Option.some_inj.mp (hparse.symm.trans hparse')
  rw [features_splitFuture, List.flatMap_eq_nil_iff.mpr h, List.append_nil] at heq
  refine .inr ⟨_, text, mapping, hprint, heq, fun s hs hstands => ?_⟩
  have hfuture := isFuture_of_features_ne_nil hs
  exact wrap_standsIn (standsIn_inject hfuture (standsIn_splitFuture hs h hstands)).1

/-- The late imports of a snippet stay where they are exactly when none of them stands at the top level, or
when the snippet is kept as a text.  A program with a late import on a later line than the leading ones
cannot be run. -/
theorem keepsLateImports_iff {source : String} {program : Block} (o : TrackingOptions)
    (h : parse source.toList = some program) :
  (KeepsLateImports source o program
      ↔ instrument source o = fallback source o ∨ ∀ s ∈ mainPart program, s.features = [])
    ∧ ∀ s : Stmt, s.isFuture = true → s.StandsIn program →
      Placement.futureLine (Placement.behindText program) 0 < s.line → compiles program = false
  := by
  refine ⟨?_, fun s hs hstands hlate => compiles_eq_false_of_late hs hstands hlate⟩
  by_cases hfallback : instrument source o = fallback source o
  · exact ⟨fun _ => .inl hfallback, fun _ => .inl hfallback⟩
  have hrewritten := rewritten_of_ne_fallback hfallback
  constructor
  · exact fun hkeeps => .inr (hkeeps.features_eq_nil h hrewritten hfallback)
  · rintro (hkept | hnone)
    · exact .inl hkept
    · exact keepsLateImports_of_features_eq_nil hnone h hrewritten

/-- A feature import inside another statement. -/
def inner : String := "if x:\n from __future__ import division\n"

/-- The program that is written there. -/
def innerProgram : Block :=
  [.ifElse 1 (.name 1 "x") [.importFrom 2 (some "__future__") [⟨2, "division", none⟩] 0] []]

theorem keepsLateImports_iff_inner :
  parse inner.toList = some innerProgram ∧ KeepsLateImports inner {} innerProgram
    ∧ compiles innerProgram = false
  := by
  have hparse : parse inner.toList = some innerProgram := by rfl
  obtain ⟨hkeeps, hrefused⟩ := keepsLateImports_iff {} hparse
  refine ⟨hparse, hkeeps.mpr (.inr ?_), ?_⟩
  · intro s hs
    cases List.mem_singleton.mp hs
    rfl
  · apply hrefused (.importFrom 2 (some "__future__") [⟨2, "division", none⟩] 0) rfl _ (by decide)
    exact .inside List.mem_cons_self List.mem_cons_self (.here List.mem_cons_self)

/-- A late import at the top level. -/
def late : String := "pass\nfrom __future__ import division\n"

/-- The program that is written there. -/
def lateProgram : Block := [.pass 1, .importFrom 2 (some "__future__") [⟨2, "division", none⟩] 0]

/-- The lines of the header of the program of `late`, the last one in parts. -/
def lateHeader : List String :=
  ["from __future__ import division\n", "import _perfscope_probe as __probe__\n",
    "__probe__.start(", "\x7b'trackMemory': True, 'trackVariables': True, ",
    "'trackFunctions': True, 'trackExecutionFlow': True\x7d, ", "\x7b5: 1, 6: 1\x7d, ",
    "['pass', 'from __future__ import division'])\n"]

/-- The lines of the body of that program. -/
def lateBody : List String :=
  ["try:\n", "    with __probe__.line(1):\n", "        pass\n",
    "except BaseException as __probe_exc__:\n", "    __probe__.finish(__probe_exc__)\n",
    "else:\n", "    __probe__.finish()"]

/-- The program of `late` has its late import in the header. -/
theorem rewritten_late :
  rewritten late {} = some (String.join (lateHeader ++ lateBody ++ ["\n"]))
  := by
  have hparse : parse late.toList = some lateProgram := by rfl
  have hsplit : splitFuture lateProgram = (["division"], [.pass 1]) := by rfl
  have hprint : print (wrap (injectBlock [.pass 1])) = some (String.join lateBody) := by decide +kernel
  have hreread : ∃ reread, parse (String.join lateBody).toList = some reread
      ∧ lineMap (moduleShape (wrap (injectBlock [.pass 1]))) (moduleShape reread) headerLines
        = [(5, 1), (6, 1)] := by
    apply Option.map_eq_some_iff.mp
    -- each line is read into characters on its own, as a long text is slow to read
    rw [String.toList_join]
    simp only [lateBody, List.flatMap_cons, List.flatMap_nil, String.reduceToList]
    decide +kernel
  have hheader : header ["division"] {} (some [(5, 1), (6, 1)]) (Text.lines late) none
      = String.join lateHeader := by
    decide +kernel
  obtain ⟨reread, hreread, hmapping⟩ := hreread
  rw [rewritten_eq hparse rfl hsplit (by decide) hprint hreread, hmapping, hheader]
  rw [String.join_append, String.join_append]
  rfl

/-- That program can be run. -/
theorem runs_late :
  runs (String.join (lateHeader ++ lateBody ++ ["\n"])) = true
  := by
  apply runs_join
  simp only [lateHeader, lateBody, List.cons_append, List.nil_append, List.flatMap_cons, List.flatMap_nil,
    String.reduceToList]
  decide +kernel

/-- Late imports do not always stay where they are, not even in a snippet that cannot be run for them: here
such a snippet becomes a program that can be run, with the import in its header. -/
theorem not_always_keepsLateImports :
  ¬ ∀ (source : String) (o : TrackingOptions) (program : Block), parse source.toList = some program →
    compiles program = false → KeepsLateImports source o program
  := by
  intro h
  have hparse : parse late.toList = some lateProgram := by rfl
  have htext : instrument late {} = String.join (lateHeader ++ lateBody ++ ["\n"]) := by
    rw [instrument, rewritten_late]
    exact if_pos runs_late
  have hrewritten := rewritten_late
  rw [← htext] at hrewritten
  have hfallback : instrument late {} ≠ fallback late {} := by
    obtain ⟨program, body, mapping, hparse', -, heq⟩ := eq_of_rewritten hrewritten
    cases Option.some_inj.mp (hparse.symm.trans hparse')
    rw [heq, fallback, String.append_assoc]
    intro hsame
    have hline : featureLine ["division"] = featureLine [] :=
      featureLine_eq_of_header_eq (by decide) (by decide) hsame
    cases @eq_nil_of_featureLine_append [] ["division"] hline
  have hnone := (h late {} lateProgram hparse (by decide)).features_eq_nil hparse hrewritten hfallback
  cases hnone _ (List.mem_cons_of_mem _ List.mem_cons_self)

end SnippetProfiler.Indented
