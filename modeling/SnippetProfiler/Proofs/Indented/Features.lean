import SnippetProfiler.Indented.Program
import SnippetProfiler.Proofs.Indented.Codes
import SnippetProfiler.Proofs.Indented.Reading

/-!
# Features and documentation texts

What the header of an instrumented program takes over from a snippet can stand in one line: the features
that the snippet imports have no newline in their names, and the codes of its documentation text can be
written in digits.

The proof follows the grammar.  A documentation text is a literal that is passed through all the readers
of expressions, which return it as it is or put it into a larger expression.  Only simple statements are
of interest: nothing in a block can be a feature or the documentation text of the whole.
-/

namespace SnippetProfiler.Indented

/-- Whether an expression is no text, or a text all of whose codes can be written in digits. -/
def Expr.IsWritable : Expr → Prop
  | .constant _ (.text codes _) => ∀ n ∈ codes, n < Literal.codeLimit
  | _ => True

/-- Whether what the header may take over from a statement can be written in one line. -/
def Stmt.IsWritable : Stmt → Prop
  | .expression _ e => e.IsWritable
  | .importFrom _ _ names _ => ∀ a ∈ names, '\n' ∉ a.name.toList
  | _ => True

namespace Grammar

open Literal (codeLimit lt_of_mem_text?)
open Read

variable {r : Rules}

/-! ### Atoms -/

theorem yields_peek :
  Yields Lexeme.IsPlain peek
  := by
  rintro (_ | ⟨t, ts⟩) _ _ hts ⟨⟩
  · trivial
  · exact hts t List.mem_cons_self

theorem yields_name :
  Yields (fun id => '\n' ∉ id.toList) name
  := by
  rintro (_ | ⟨⟨x, l⟩, ts⟩) id rest hts h
  · cases h
  · have hx := hts _ List.mem_cons_self
    cases x with
    | name id =>
        cases h
        exact hx
    | _ => cases h

/-- A piece of a literal is a text of codes, or a field. -/
def IsWritablePiece : Format.Piece → Prop
  | .text codes => ∀ n ∈ codes, n < codeLimit
  | .field _ => True

theorem yields_text? (raw : Bool) (body : List Char) :
  Yields (fun codes => ∀ n ∈ codes, n < codeLimit) (liftM (Literal.text? raw body))
  := by
  cases htext : Literal.text? raw body with
  | none => exact .fail
  | some codes => exact .pure (lt_of_mem_text? htext)

theorem yields_texts :
  Yields Expr.IsWritable (texts r)
  := by
  refine .after fun l => .after fun tokens => ?_
  dsimp only
  split
  · exact .after fun parts => .pure trivial
  · split
    · exact .fail
    · by_cases hplain : ∀ token ∈ tokens, token.2.2.1 = false
      · -- No literal is a format literal, so that each of them is read to one piece.
        refine .bind (P := fun parts => ∀ part ∈ parts, ∀ piece ∈ part, IsWritablePiece piece) ?_ ?_
        · refine .mapM fun token htoken => ?_
          rw [hplain token htoken, if_neg Bool.false_ne_true]
          refine (yields_text? _ _).bind fun codes hcodes => .pure ?_
          rw [List.forall_mem_singleton]
          exact hcodes
        · intro parts hparts
          split
          · exact .pure trivial
          · refine .pure fun n hn => ?_
            obtain ⟨piece, hpiece, hn⟩ := List.mem_flatMap.mp hn
            obtain ⟨part, hpart, hpiece⟩ := List.mem_flatten.mp hpiece
            have h := hparts part hpart piece hpiece
            cases piece with
            | text codes => exact h n hn
            | field value => cases hn
      · refine .after fun parts => ?_
        split
        case isTrue => exact .pure trivial
        case isFalse hnone =>
          refine absurd (fun token htoken => ?_) hplain
          exact Bool.eq_false_iff.mpr fun h => hnone (List.any_eq_true.mpr ⟨token, htoken, h⟩)

theorem yields_constant {value : Constant} (h : (Lexeme.number value).IsPlain) (l : Nat) :
  (Expr.constant l value).IsWritable
  := by
  cases value with
  | text codes marked => cases h codes marked rfl
  | _ => trivial

/-! ### Expressions -/

section

variable (hr : Yields Expr.IsWritable r.expression)

include hr

theorem yields_namedExpression :
  Yields Expr.IsWritable (namedExpression r)
  := by
  refine .after fun l => .after fun x => .after fun y => ?_
  split
  · exact .after fun id => .after fun _ => .after fun e => .pure trivial
  · refine hr.bind fun e he => .after fun isNamed => ?_
    split
    · exact .fail
    · exact .pure he

theorem yields_displayItem :
  Yields Expr.IsWritable (displayItem r)
  := by
  refine .after fun isStarred => ?_
  split
  · exact .after fun l => .after fun _ => .after fun e => .pure trivial
  · exact yields_namedExpression hr

theorem yields_listItem :
  Yields Expr.IsWritable (listItem r)
  := by
  refine .after fun isStarred => ?_
  split
  · exact .after fun l => .after fun _ => .after fun e => .pure trivial
  · exact hr

theorem yields_starExpressions :
  Yields Expr.IsWritable (starExpressions r)
  := by
  refine .after fun l => (yields_listItem hr).listed.bind fun result hes => ?_
  split
  · exact .pure (hes _ List.mem_cons_self)
  · exact .pure trivial

omit hr in
theorem yields_yieldExpression :
  Yields Expr.IsWritable (yieldExpression r)
  := by
  refine .after fun l => .after fun _ => .after fun isFrom => ?_
  split
  · exact .after fun e => .pure trivial
  · exact .after fun e => .pure trivial

theorem yields_parenthesized :
  Yields Expr.IsWritable (parenthesized r)
  := by
  refine .after fun l => .after fun _ => .after fun isEmpty => ?_
  split
  · exact .pure trivial
  · refine .after fun isYield => ?_
    split
    · exact yields_yieldExpression.bind fun e he => .after fun _ => .pure he
    · refine (yields_displayItem hr).bind fun first hfirst => .after fun isClause => ?_
      split
      · exact .fail
      · exact .after fun cs => .after fun _ => .pure trivial
      · refine .after fun isTuple => ?_
        split
        · exact .after fun rest => .after fun _ => .after fun _ => .pure trivial
        · split
          · exact .fail
          · exact .after fun _ => .pure hfirst

omit hr in
theorem yields_bracketed :
  Yields Expr.IsWritable (bracketed r)
  := by
  refine .after fun l => .after fun _ => .after fun isEmpty => ?_
  split
  · exact .pure trivial
  · refine .after fun first => .after fun isClause => ?_
    split
    · exact .fail
    · exact .after fun cs => .after fun _ => .pure trivial
    · exact .after fun rest => .after fun _ => .after fun _ => .pure trivial

omit hr in
theorem yields_braced :
  Yields Expr.IsWritable (braced r)
  := by
  refine .after fun l => .after fun _ => .after fun isEmpty => ?_
  split
  · exact .pure trivial
  · refine .after fun isUnpacked => ?_
    split
    · exact .after fun first => .after fun rest => .after fun _ => .after fun _ => .pure trivial
    · refine .after fun naming => .after fun first => .after fun isDict => ?_
      split
      · split
        · exact .fail
        · exact .fail
        · refine .after fun _ => .after fun value => .after fun isClause => ?_
          split
          · exact .after fun cs => .after fun _ => .pure trivial
          · exact .after fun rest => .after fun _ => .after fun _ => .pure trivial
      · refine .after fun isClause => ?_
        split
        · exact .fail
        · exact .after fun cs => .after fun _ => .pure trivial
        · exact .after fun rest => .after fun _ => .after fun _ => .pure trivial

theorem yields_atom :
  Yields Expr.IsWritable (atom r)
  := by
  refine .after fun l => yields_peek.bind fun x hx => ?_
  split
  · exact .after fun _ => .pure trivial
  · exact .after fun _ => .pure trivial
  · exact .after fun _ => .pure trivial
  · exact .after fun _ => .pure trivial
  · exact .after fun _ => .pure (yields_constant hx l)
  · exact yields_texts
  · exact yields_parenthesized hr
  · exact yields_bracketed
  · exact yields_braced
  · exact .after fun _ => .pure trivial
  · exact .fail

/-! ### Operators -/

omit hr in
theorem yields_trailers (l n : Nat) {e : Expr} (he : e.IsWritable) :
  Yields Expr.IsWritable (trailers r l n e)
  := by
  induction n generalizing e with
  | zero => exact .pure he
  | succ n ih =>
      refine .after fun x => ?_
      split
      · exact .after fun _ => .after fun id => ih trivial
      · exact .after fun result => ih trivial
      · exact .after fun index => ih trivial
      · exact .pure he

theorem yields_awaited :
  Yields Expr.IsWritable (awaited r)
  := by
  have hprimary : Yields Expr.IsWritable (primary r) :=
    .after fun l => (yields_atom hr).bind fun e he => .after fun n => yields_trailers l n he
  refine .after fun l => .after fun isAwait => ?_
  split
  · exact .after fun e => .pure trivial
  · exact hprimary

theorem yields_factor (n : Nat) :
  Yields Expr.IsWritable (factor r n)
  := by
  cases n with
  | zero => exact .fail
  | succ n =>
      refine .after fun l => .after fun x => ?_
      split
      · exact .after fun _ => .after fun e => .pure trivial
      · exact .after fun _ => .after fun e => .pure trivial
      · exact .after fun _ => .after fun e => .pure trivial
      · refine (yields_awaited hr).bind fun base hbase => .after fun isPower => ?_
        split
        · exact .after fun e => .pure trivial
        · exact .pure hbase

omit hr in
theorem yields_leftward (operator : String → Option BinaryOp) (operand : Read Expr) (l n : Nat) {e : Expr}
    (he : e.IsWritable) :
  Yields Expr.IsWritable (leftward operator operand l n e)
  := by
  induction n generalizing e with
  | zero => exact .pure he
  | succ n ih =>
      refine .after fun x => ?_
      split
      · split
        · exact .after fun _ => .after fun right => ih trivial
        · exact .pure he
      · exact .pure he

omit hr in
theorem yields_level (operator : String → Option BinaryOp) {operand : Read Expr}
    (h : Yields Expr.IsWritable operand) :
  Yields Expr.IsWritable (level operator operand)
  := .after fun l => h.bind fun _ he => .after fun n => yields_leftward operator operand l n he

theorem yields_bitwiseOr :
  Yields Expr.IsWritable (bitwiseOr r)
  := by
  have hsigned : Yields Expr.IsWritable (remaining >>= fun n => factor r n) :=
    .after fun n => yields_factor hr n
  exact yields_level _ (yields_level _ (yields_level _ (yields_level _ (yields_level _
    (yields_level _ hsigned)))))

theorem yields_comparison :
  Yields Expr.IsWritable (comparison r)
  := by
  refine .after fun l => (yields_bitwiseOr hr).bind fun left hleft => .after fun rest => ?_
  split
  · exact .pure hleft
  · exact .pure trivial

theorem yields_inversion (n : Nat) :
  Yields Expr.IsWritable (inversion r n)
  := by
  cases n with
  | zero => exact .fail
  | succ n =>
      refine .after fun l => .after fun isNot => ?_
      split
      · exact .after fun e => .pure trivial
      · exact yields_comparison hr

theorem yields_conjunction :
  Yields Expr.IsWritable (conjunction r)
  := by
  have hoperand : Yields Expr.IsWritable (remaining >>= fun n => inversion r n) :=
    .after fun n => yields_inversion hr n
  refine .after fun l => hoperand.bind fun first hfirst => .after fun rest => ?_
  split
  · exact .pure hfirst
  · exact .pure trivial

theorem yields_disjunction :
  Yields Expr.IsWritable (disjunction r)
  := by
  refine .after fun l => (yields_conjunction hr).bind fun first hfirst => .after fun rest => ?_
  split
  · exact .pure hfirst
  · exact .pure trivial

theorem yields_expression :
  Yields Expr.IsWritable (expression r)
  := by
  refine .after fun isLambda => ?_
  split
  · exact .after fun l => .after fun _ => .after fun ps => .after fun _ => .after fun body => .pure trivial
  · refine .after fun l => (yields_disjunction hr).bind fun body hbody => .after fun isConditional => ?_
    split
    · exact .after fun test => .after fun _ => .after fun e => .pure trivial
    · exact .pure hbody

end

/-- All expressions of a program are writable. -/
theorem yields_rules (n : Nat) :
  Yields Expr.IsWritable (rules n).expression
  := by
  induction n with
  | zero => exact .fail
  | succ n ih => exact yields_expression ih

/-! ### Simple statements -/

section

variable (hr : Yields Expr.IsWritable r.expression)

include hr

theorem yields_expressionStatement :
  Yields Stmt.IsWritable (expressionStatement r)
  := by
  refine .after fun l => .after fun isYield => ?_
  split
  · exact yields_yieldExpression.bind fun e he => .pure he
  · refine .after fun x => .after fun left? => (yields_starExpressions hr).bind fun e he =>
      .after fun y => ?_
    split
    · exact .after fun left => .after fun _ => .after fun _ => .after fun note =>
        .after fun value => .pure trivial
    · exact .after fun _ => .after fun n => .after fun result => .pure trivial
    · split
      · exact .after fun _ => .after fun _ => .after fun value => .pure trivial
      · exact .pure he
    · exact .pure he

omit hr in
theorem yields_fromStatement :
  Yields Stmt.IsWritable fromStatement
  := by
  have hone : Yields (fun a : Alias => '\n' ∉ a.name.toList) importedName :=
    .after fun l => yields_name.bind fun id hid => .after fun as => .pure hid
  refine .after fun l => .after fun _ => .after fun level => .after fun path => .after fun _ =>
    .after fun _ => .after fun x => ?_
  split
  · refine .after fun starLine => .after fun _ => .pure ?_
    rw [Stmt.IsWritable, List.forall_mem_singleton]
    exact show '\n' ∉ "*".toList by decide
  · exact .after fun _ => hone.listed.bind fun result hnames => .after fun _ => .pure hnames
  · exact hone.separated.bind fun names hnames => .pure hnames

theorem yields_simpleStatement :
  Yields Stmt.IsWritable (simpleStatement r)
  := by
  refine .after fun l => .after fun x => ?_
  split
  · exact .after fun _ => .pure trivial
  · exact .after fun _ => .pure trivial
  · exact .after fun _ => .pure trivial
  · refine .after fun _ => .after fun isEnd => ?_
    split
    · exact .pure trivial
    · exact .after fun e => .pure trivial
  · refine .after fun _ => .after fun isEnd => ?_
    split
    · exact .pure trivial
    · refine .after fun e => .after fun isCaused => ?_
      dsimp only
      split
      · exact .after fun cause => .pure trivial
      · exact .after fun cause => .pure trivial
  · exact .after fun _ => .after fun ids => .pure trivial
  · exact .after fun _ => .after fun ids => .pure trivial
  · exact .after fun _ => .after fun result => .pure trivial
  · refine .after fun _ => .after fun test => .after fun isExplained => ?_
    dsimp only
    split
    · exact .after fun message => .pure trivial
    · exact .after fun message => .pure trivial
  · exact .after fun l => .after fun _ => .after fun names => .pure trivial
  · exact yields_fromStatement
  · exact yields_expressionStatement hr

theorem yields_simpleStatements :
  Yields (fun b => ∀ s ∈ b, s.IsWritable) (simpleStatements r)
  := (yields_simpleStatement hr).bind fun _ hfirst => 
    (Yields.after fun _ => yields_simpleStatement hr).many.bind fun _ hrest =>
      .after fun _ => .after fun _ => .pure (List.forall_mem_cons.mpr ⟨hfirst, hrest⟩)

end

/-! ### Compound statements -/

variable (block : Read Block) (depth : Nat)

theorem yields_ifStatement (n : Nat) (word : String) :
  Yields Stmt.IsWritable (ifStatement r block n word)
  := by
  cases n with
  | zero => exact .fail
  | succ n =>
      refine .after fun l => .after fun _ => .after fun test => .after fun _ => .after fun body =>
        .after fun isElif => ?_
      split
      · exact .after fun s => .pure trivial
      · exact .after fun orelse => .pure trivial

theorem yields_whileStatement :
  Yields Stmt.IsWritable (whileStatement r block)
  := .after fun _ => .after fun _ => .after fun _ => .after fun _ => .after fun _ => .after fun _ =>
    .pure trivial

theorem yields_forStatement (l : Nat) (isAsync : Bool) :
  Yields Stmt.IsWritable (forStatement r block l isAsync)
  := .after fun _ => .after fun _ => .after fun _ => .after fun _ => .after fun _ => .after fun _ =>
    .after fun _ => .pure trivial

theorem yields_withStatement (l : Nat) (isAsync : Bool) :
  Yields Stmt.IsWritable (withStatement r block l isAsync)
  := .after fun _ => .after fun _ => .after fun _ => .pure trivial

theorem yields_tryStatement :
  Yields Stmt.IsWritable (tryStatement r block)
  := by
  refine .after fun l => .after fun _ => .after fun _ => .after fun body => .after fun handlers =>
    .after fun orelse => .after fun finalbody => ?_
  dsimp only
  split
  · exact .fail
  · split
    · exact .fail
    · exact .pure trivial

theorem yields_functionDefinition (l : Nat) (isAsync : Bool) (ds : List Expr) :
  Yields Stmt.IsWritable (functionDefinition r block l isAsync ds)
  := .after fun _ => .after fun _ => .after fun _ => .after fun _ => .after fun _ => .after fun _ =>
    .after fun _ => .after fun _ => .pure trivial

theorem yields_definition :
  Yields Stmt.IsWritable (definition r block)
  := by
  refine .after fun ds => .after fun l => .after fun x => ?_
  split
  · exact yields_functionDefinition block l false ds
  · exact .after fun _ => yields_functionDefinition block l true ds
  · exact .after fun l => .after fun _ => .after fun id => .after fun args => .after fun _ =>
      .after fun body => .pure trivial

theorem yields_matchStatement :
  Yields Stmt.IsWritable (matchStatement r block depth)
  := .after fun _ => .after fun _ => .after fun _ => .after fun _ => .after fun _ => .after fun _ =>
    .after fun _ => .after fun _ => .pure trivial

/-! ### Whole programs -/

/-- A statement alone on its line. -/
theorem yields_one {p : Read Stmt} (h : Yields Stmt.IsWritable p) :
  Yields (fun b : Block => ∀ s ∈ b, s.IsWritable) (p >>= fun s => pure [s])
  := h.bind fun s hs => .pure (by rwa [List.forall_mem_singleton])

theorem yields_statement (hr : Yields Expr.IsWritable r.expression) :
  Yields (fun b => ∀ s ∈ b, s.IsWritable) (statement r block depth)
  := by
  refine .after fun l => .after fun x => .after fun y => ?_
  dsimp only
  split
  · exact .after fun n => yields_one (yields_ifStatement block n "if")
  · exact yields_one (yields_whileStatement block)
  · exact yields_one (yields_forStatement block l false)
  · exact yields_one (yields_withStatement block l false)
  · exact yields_one (yields_tryStatement block)
  · exact yields_one (yields_definition block)
  · exact yields_one (yields_definition block)
  · exact yields_one (yields_definition block)
  · exact .after fun _ => yields_one (yields_forStatement block l true)
  · exact .after fun _ => yields_one (yields_withStatement block l true)
  · exact yields_one (yields_definition block)
  · exact .either (yields_one (yields_matchStatement block depth)) (yields_simpleStatements hr)
  · exact yields_simpleStatements hr

theorem yields_program (depth : Nat) :
  Yields (fun b => ∀ s ∈ b, s.IsWritable) (program depth)
  := by
  refine (yields_statement _ _ (yields_rules depth)).many.bind fun statements hstatements =>
    .after fun _ => .pure fun s hs => ?_
  obtain ⟨b, hb, hs⟩ := List.mem_flatten.mp hs
  exact hstatements b hb s hs

end Grammar

/-- All that the header may take over from a program can be written in one line. -/
theorem isWritable_of_mem_parse {source : List Char} {program : Block} (h : parse source = some program) :
  ∀ s ∈ program, s.IsWritable
  := by
  obtain ⟨tokens, hscan, h⟩ := Option.bind_eq_some_iff.mp h
  obtain ⟨⟨statements, rest⟩, hrun, h⟩ := Option.bind_eq_some_iff.mp h
  cases h
  exact Grammar.yields_program _ tokens _ rest (Token.arePlain_scan hscan) hrun

end SnippetProfiler.Indented
