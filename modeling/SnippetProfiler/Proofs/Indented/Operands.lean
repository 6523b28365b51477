import SnippetProfiler.Proofs.Indented.Reading
import SnippetProfiler.Proofs.Indented.Scanning

/-!
# Expressions without operators

Where an expression is an atom that begins with no operator and ends in front of a separator, each of the
readers from `primary` to `expression` reads that atom and nothing else.  All of them read an operand
first and go on only behind it, if the next token allows it; so the atom passes through all of them.

With this a literal is read as the text that it denotes, and a list of literals as a list of texts.
-/

namespace SnippetProfiler.Indented.Grammar

open Read

/-- The lexemes in front of which every expression ends. -/
def inert : List Lexeme := [.op ",", .op "]", .newline]

/-- A lexeme with which an atom may begin, and nothing that is not one. -/
def IsOpening (x : Lexeme) : Prop :=
  x = .op "[" ∨ x = .finish ∨ ∃ raw octets format marked body, x = .text raw octets format marked body

/-- Every expression ends in front of these tokens. -/
def IsClosed (rest : List Token) : Prop := ∃ x ∈ inert, ∃ l rest', rest = ⟨x, l⟩ :: rest'

/-- A reader reads nothing, or ends where every expression ends. -/
def Stops (p : Read Expr) (ts : List Token) : Prop :=
  ∀ e rest, p.run ts = some (e, rest) → IsClosed rest

variable {r : Rules} {p q : Read Expr} {k : Expr → Read Expr} {t : Token} {ts rest : List Token} {e : Expr}

theorem Stops.congr (h : Stops q ts) (heq : p.run ts = q.run ts) :
  Stops p ts
  := by
  rw [Stops, heq]
  exact h

/-- What may follow an operand changes nothing where the operand stops. -/
theorem run_bind_of_stops (h : Stops p ts)
    (hk : ∀ e, ∀ x ∈ inert, ∀ l rest, (k e).run (⟨x, l⟩ :: rest) = some (e, ⟨x, l⟩ :: rest)) :
  (p >>= k).run ts = p.run ts
  := by
  rw [run_bind]
  cases hrun : p.run ts with
  | none => rfl
  | some result =>
      obtain ⟨e, rest⟩ := result
      obtain ⟨x, hx, l, rest, rfl⟩ := h e _ hrun
      exact hk e x hx l rest

theorem run_trailers (l n : Nat) (e : Expr) {x : Lexeme} (hx : x ∈ inert) (l' : Nat) (rest : List Token) :
  (trailers r l n e).run (⟨x, l'⟩ :: rest) = some (e, ⟨x, l'⟩ :: rest)
  := by
  cases n with
  | zero => rfl
  | succ n =>
      rw [trailers, run_bind, run_peek, Option.bind_some]
      simp only [inert, List.mem_cons, List.not_mem_nil, or_false] at hx
      obtain rfl | rfl | rfl := hx
      · rfl
      · rfl
      · rfl

theorem run_primary (h : Stops (atom r) (t :: ts)) :
  (primary r).run (t :: ts) = (atom r).run (t :: ts)
  := by
  rw [primary, run_bind, run_line, Option.bind_some]
  apply run_bind_of_stops h
  intro e x hx l rest
  rw [run_bind, run_remaining, Option.bind_some]
  exact run_trailers _ _ e hx l rest

/-- An atom begins with no word. -/
theorem ne_keyword (ht : IsOpening t.lexeme) (word : String) :
  t.lexeme ≠ .keyword word
  := by
  obtain h | h | ⟨_, _, _, _, _, h⟩ := ht
  · rw [h]
    nofun
  · rw [h]
    nofun
  · rw [h]
    nofun

theorem run_awaited (ht : IsOpening t.lexeme) (h : Stops (atom r) (t :: ts)) :
  (awaited r).run (t :: ts) = (atom r).run (t :: ts)
  := by
  rw [awaited, run_bind, run_line, Option.bind_some]
  dsimp only
  rw [run_bind, run_skipKeyword_of_ne (ne_keyword ht _), Option.bind_some]
  exact run_primary h

theorem run_factor (ht : IsOpening t.lexeme) (h : Stops (atom r) (t :: ts)) (n : Nat) :
  (factor r (n + 1)).run (t :: ts) = (atom r).run (t :: ts)
  := by
  have hawaited := run_awaited ht h
  have hunsigned : (factor r (n + 1)).run (t :: ts)
      = (awaited r >>= fun base => do
          if ← skipOp "**" then return .binary t.line base .pow (← factor r n)
          else return base).run (t :: ts) := by
    obtain ⟨x, l⟩ := t
    obtain rfl | rfl | ⟨_, _, _, _, _, rfl⟩ := ht
    · rfl
    · rfl
    · rfl
  rw [hunsigned, ← hawaited]
  apply run_bind_of_stops (h.congr hawaited)
  intro e x hx l rest
  have hne : x ≠ .op "**" := (show ∀ x ∈ inert, x ≠ .op "**" by decide) x hx
  rw [run_bind, run_skipOp_of_ne hne]
  rfl

theorem run_leftward {operator : String → Option BinaryOp} (operand : Read Expr) (l n : Nat) (e : Expr)
    {x : Lexeme} (hx : x ∈ inert) (hcomma : operator "," = none) (hclosing : operator "]" = none)
    (l' : Nat) (rest : List Token) :
  (leftward operator operand l n e).run (⟨x, l'⟩ :: rest) = some (e, ⟨x, l'⟩ :: rest)
  := by
  cases n with
  | zero => rfl
  | succ n =>
      rw [leftward, run_bind, run_peek, Option.bind_some]
      simp only [inert, List.mem_cons, List.not_mem_nil, or_false] at hx
      obtain rfl | rfl | rfl := hx
      · dsimp only
        rw [hcomma]
        rfl
      · dsimp only
        rw [hclosing]
        rfl
      · rfl

theorem run_level (operator : String → Option BinaryOp) {operand : Read Expr}
    (hcomma : operator "," = none) (hclosing : operator "]" = none)
    (heq : operand.run (t :: ts) = p.run (t :: ts)) (h : Stops p (t :: ts)) :
  (level operator operand).run (t :: ts) = p.run (t :: ts)
  := by
  rw [level, run_bind, run_line, Option.bind_some, ← heq]
  apply run_bind_of_stops (h.congr heq)
  intro e x hx l rest
  rw [run_bind, run_remaining, Option.bind_some]
  exact run_leftward operand _ _ e hx hcomma hclosing l rest

theorem run_bitwiseOr (ht : IsOpening t.lexeme) (h : Stops (atom r) (t :: ts)) :
  (bitwiseOr r).run (t :: ts) = (atom r).run (t :: ts)
  := by
  have hsigned : (remaining >>= fun n => factor r n).run (t :: ts) = (atom r).run (t :: ts) :=
    run_factor ht h _
  have hterms := run_level termOp rfl rfl hsigned h
  have hsums := run_level sumOp rfl rfl hterms h
  have hshifts := run_level shiftOp rfl rfl hsums h
  have hands := run_level (onlyOp "&" .bitAnd) rfl rfl hshifts h
  have hxors := run_level (onlyOp "^" .bitXor) rfl rfl hands h
  exact run_level (onlyOp "|" .bitOr) rfl rfl hxors h

/-- Nothing that can be repeated begins with an inert lexeme. -/
theorem run_compareOp {x : Lexeme} (hx : x ∈ inert) (l : Nat) (rest : List Token) :
  compareOp.run (⟨x, l⟩ :: rest) = none
  := by
  simp only [inert, List.mem_cons, List.not_mem_nil, or_false] at hx
  obtain rfl | rfl | rfl := hx
  · rfl
  · rfl
  · rfl

theorem run_comparison (ht : IsOpening t.lexeme) (h : Stops (atom r) (t :: ts)) :
  (comparison r).run (t :: ts) = (atom r).run (t :: ts)
  := by
  have hoperand := run_bitwiseOr ht h
  rw [comparison, run_bind, run_line, Option.bind_some, ← hoperand]
  apply run_bind_of_stops (h.congr hoperand)
  intro e x hx l rest
  rw [run_bind, run_many_of_none]
  · rfl
  · rw [run_bind, run_compareOp hx]
    rfl

theorem run_inversion (ht : IsOpening t.lexeme) (h : Stops (atom r) (t :: ts)) (n : Nat) :
  (inversion r (n + 1)).run (t :: ts) = (atom r).run (t :: ts)
  := by
  rw [inversion, run_bind, run_line, Option.bind_some]
  dsimp only
  rw [run_bind, run_skipKeyword_of_ne (ne_keyword ht _), Option.bind_some]
  exact run_comparison ht h

/-- No operand follows behind a word. -/
theorem run_many_keyword {word : String} {x : Lexeme} (hx : x ∈ inert) (l : Nat) (rest : List Token) :
  (many (do keyword word; p)).run (⟨x, l⟩ :: rest) = some ([], ⟨x, l⟩ :: rest)
  := by
  have hne : x ≠ .keyword word := by
    simp only [inert, List.mem_cons, List.not_mem_nil, or_false] at hx
    obtain rfl | rfl | rfl := hx
    · nofun
    · nofun
    · nofun
  apply run_many_of_none
  rw [run_bind, keyword, run_token_of_ne hne]
  rfl

theorem run_conjunction (ht : IsOpening t.lexeme) (h : Stops (atom r) (t :: ts)) :
  (conjunction r).run (t :: ts) = (atom r).run (t :: ts)
  := by
  have hoperand : (remaining >>= fun n => inversion r n).run (t :: ts) = (atom r).run (t :: ts) :=
    run_inversion ht h _
  rw [conjunction, run_bind, run_line, Option.bind_some, ← hoperand]
  apply run_bind_of_stops (h.congr hoperand)
  intro e x hx l rest
  rw [run_bind, run_many_keyword hx]
  rfl

theorem run_disjunction (ht : IsOpening t.lexeme) (h : Stops (atom r) (t :: ts)) :
  (disjunction r).run (t :: ts) = (atom r).run (t :: ts)
  := by
  have hoperand := run_conjunction ht h
  rw [disjunction, run_bind, run_line, Option.bind_some, ← hoperand]
  apply run_bind_of_stops (h.congr hoperand)
  intro e x hx l rest
  rw [run_bind, run_many_keyword hx]
  rfl

/-- Where an atom stops, the expression is the atom. -/
theorem run_expression (ht : IsOpening t.lexeme) (h : Stops (atom r) (t :: ts)) :
  (expression r).run (t :: ts) = (atom r).run (t :: ts)
  := by
  have hoperand := run_disjunction ht h
  rw [expression, run_bind, seesKeyword, run_sees, Option.bind_some, decide_eq_false (ne_keyword ht _)]
  dsimp only
  rw [if_neg Bool.false_ne_true, run_bind, run_line, Option.bind_some, ← hoperand]
  apply run_bind_of_stops (h.congr hoperand)
  intro e x hx l rest
  have hne : x ≠ .keyword "if" := (show ∀ x ∈ inert, x ≠ .keyword "if" by decide) x hx
  rw [run_bind, run_skipKeyword_of_ne hne]
  rfl

/-! ### Literals -/

variable {codes : List Nat}

theorem run_texts (hcodes : ∀ n ∈ codes, Literal.IsCode n) {x : Lexeme} (hx : x ∈ inert) (l l' : Nat)
    (rest : List Token) :
  (texts r).run (Token.ofLiteral l codes :: ⟨x, l'⟩ :: rest)
    = some (.constant l (.text codes false), ⟨x, l'⟩ :: rest)
  := by
  let content := codes.flatMap (Text.Quoted.escape (Text.Quoted.mark codes))
  have htext : Literal.text? false content = some codes :=
    Literal.text?_flatMap_escape (Literal.mark_mem_marks codes) hcodes
  have hnone : textToken.run (⟨x, l'⟩ :: rest) = none := by
    simp only [inert, List.mem_cons, List.not_mem_nil, or_false] at hx
    obtain rfl | rfl | rfl := hx
    · rfl
    · rfl
    · rfl
  have hone : (some1 textToken).run (Token.ofLiteral l codes :: ⟨x, l'⟩ :: rest)
      = some ([(false, false, false, false, content, l)], ⟨x, l'⟩ :: rest) := by
    have hfirst : textToken.run (Token.ofLiteral l codes :: ⟨x, l'⟩ :: rest)
        = some ((false, false, false, false, content, l), ⟨x, l'⟩ :: rest) := rfl
    rw [some1, run_bind, hfirst, Option.bind_some]
    dsimp only
    rw [run_bind, run_many_of_none hnone]
    rfl
  rw [texts, run_bind, Token.ofLiteral, run_line, Option.bind_some]
  dsimp only
  rw [← Token.ofLiteral, run_bind, hone, Option.bind_some]
  simp only [Bool.false_eq_true, not_false_eq_true, List.filter_cons_of_neg, List.filter_nil,
    List.length_nil, List.length_cons, Nat.zero_add, Nat.zero_ne_one, if_false, bne_self_eq_false,
    List.any_cons, List.any_nil, Bool.or_self, run_bind, run_pure]
  rw [@run_mapM_singleton _ _ _ _ _ (⟨x, l'⟩ :: rest) [.text codes]]
  · simp only [Option.bind_some, List.flatten_cons, List.flatten_nil, List.append_nil,
      List.flatMap_cons, List.flatMap_nil]
  · simp only [Bool.false_eq_true, if_false, htext, run_bind, run_liftM_some, run_pure, Option.bind_some]

theorem run_atom_literal (hcodes : ∀ n ∈ codes, Literal.IsCode n) {x : Lexeme} (hx : x ∈ inert)
    (l l' : Nat) (rest : List Token) :
  (atom r).run (Token.ofLiteral l codes :: ⟨x, l'⟩ :: rest)
    = some (.constant l (.text codes false), ⟨x, l'⟩ :: rest)
  := by
  rw [← run_texts hcodes hx]
  rfl

theorem run_namedExpression (ht : IsOpening t.lexeme) {x : Lexeme} (hx : x ∈ inert) {l : Nat}
    (h : r.expression.run (t :: ts) = some (e, ⟨x, l⟩ :: rest)) :
  (namedExpression r).run (t :: ts) = some (e, ⟨x, l⟩ :: rest)
  := by
  have hne : x ≠ .op ":=" := (show ∀ x ∈ inert, x ≠ .op ":=" by decide) x hx
  have hunnamed : (namedExpression r).run (t :: ts)
      = (r.expression >>= fun e => do if ← seesOp ":=" then fail else return e).run (t :: ts) := by
    obtain ⟨y, l⟩ := t
    obtain rfl | rfl | ⟨_, _, _, _, _, rfl⟩ := ht
    · rfl
    · rfl
    · rfl
  rw [hunnamed, run_bind, h, Option.bind_some]
  dsimp only
  rw [run_bind, seesOp, run_sees, decide_eq_false hne]
  rfl

theorem ne_star (ht : IsOpening t.lexeme) :
  t.lexeme ≠ .op "*"
  := by
  obtain h | h | ⟨_, _, _, _, _, h⟩ := ht
  · rw [h]
    decide
  · rw [h]
    nofun
  · rw [h]
    nofun

theorem run_displayItem (ht : IsOpening t.lexeme) {x : Lexeme} (hx : x ∈ inert) {l : Nat}
    (h : r.expression.run (t :: ts) = some (e, ⟨x, l⟩ :: rest)) :
  (displayItem r).run (t :: ts) = some (e, ⟨x, l⟩ :: rest)
  := by
  rw [displayItem, run_bind, seesOp, run_sees, decide_eq_false (ne_star ht)]
  exact run_namedExpression ht hx h

/-- Readers that read literals in front of inert lexemes. -/
def ReadsLiterals (r : Rules) : Prop :=
  ∀ codes : List Nat, (∀ n ∈ codes, Literal.IsCode n) → ∀ x ∈ inert, ∀ l l' rest,
    r.expression.run (Token.ofLiteral l codes :: ⟨x, l'⟩ :: rest)
      = some (.constant l (.text codes false), ⟨x, l'⟩ :: rest)

theorem readsLiterals_rules (n : Nat) :
  ReadsLiterals (rules (n + 1))
  := by
  intro codes hcodes x hx l l' rest
  have hatom := run_atom_literal (r := rules n) hcodes hx l l' rest
  rw [← hatom]
  apply run_expression
  · exact .inr (.inr ⟨_, _, _, _, _, rfl⟩)
  · intro e rest' h
    rw [hatom] at h
    cases h
    exact ⟨x, hx, l', rest, rfl⟩

/-! ### Lists of literals -/

variable {texts : List (List Nat)}

/-- The items of a list of texts. -/
def textItems (l : Nat) (texts : List (List Nat)) : List Expr :=
  texts.map fun codes => .constant l (.text codes false)

theorem isOpening_ofLiteral (l : Nat) (codes : List Nat) :
  IsOpening (Token.ofLiteral l codes).lexeme
  := .inr (.inr ⟨_, _, _, _, _, rfl⟩)

theorem run_furtherItems (hr : ReadsLiterals r) (htexts : ∀ codes ∈ texts, ∀ n ∈ codes, Literal.IsCode n)
    (l : Nat) (rest : List Token) :
  (many (do op ","; displayItem r)).run
      (Token.furtherTokens l texts ++ Token.ofSymbol l ']' :: rest)
    = some (textItems l texts, Token.ofSymbol l ']' :: rest)
  := by
  have hcomma : Token.ofSymbol l ',' = ⟨.op ",", l⟩ := rfl
  refine run_many_flatMap IsClosed ?_ ?_ ?_ ?_ ?_
  · rintro codes hcodes rest ⟨x, hx, l', rest, rfl⟩
    rw [hcomma, List.cons_append, List.singleton_append, run_bind, op, run_token_self, Option.bind_some]
    exact run_displayItem (isOpening_ofLiteral l codes) hx (hr codes (htexts codes hcodes) x hx l l' rest)
  · intro codes
    exact List.cons_ne_nil _ _
  · intro codes rest
    exact ⟨_, List.mem_cons_self, l, _, rfl⟩
  · exact ⟨.op "]", by decide, l, rest, rfl⟩
  · rfl

theorem run_seesClause {x : Lexeme} (hx : x ∈ inert) (l : Nat) (rest : List Token) :
  seesClause.run (⟨x, l⟩ :: rest) = some (false, ⟨x, l⟩ :: rest)
  := by
  simp only [inert, List.mem_cons, List.not_mem_nil, or_false] at hx
  obtain rfl | rfl | rfl := hx
  · rfl
  · rfl
  · rfl

theorem run_bracketed (hr : ReadsLiterals r) (htexts : ∀ codes ∈ texts, ∀ n ∈ codes, Literal.IsCode n)
    (l : Nat) (rest : List Token) :
  (bracketed r).run (Token.listTokens l texts ++ rest) = some (.list l (textItems l texts), rest)
  := by
  cases texts with
  | nil => rfl
  | cons codes texts =>
      rw [List.forall_mem_cons] at htexts
      have hfurther := run_furtherItems hr htexts.2 l rest
      have hclosed : IsClosed (Token.furtherTokens l texts ++ Token.ofSymbol l ']' :: rest) := by
        cases texts with
        | nil => exact ⟨.op "]", by decide, l, rest, rfl⟩
        | cons codes texts => exact ⟨_, List.mem_cons_self, l, _, rfl⟩
      have hfirst : (displayItem r).run
            (Token.ofLiteral l codes :: (Token.furtherTokens l texts ++ Token.ofSymbol l ']' :: rest))
          = some (.constant l (.text codes false),
              Token.furtherTokens l texts ++ Token.ofSymbol l ']' :: rest) := by
        obtain ⟨x, hx, l', rest', hrest⟩ := hclosed
        rw [hrest]
        exact run_displayItem (isOpening_ofLiteral l codes) hx (hr codes htexts.1 x hx l l' rest')
      have hopening : Token.ofSymbol l '[' = ⟨.op "[", l⟩ := rfl
      have hnonempty : (Token.ofLiteral l codes).lexeme ≠ .op "]" := nofun
      have hclause : seesClause.run (Token.furtherTokens l texts ++ Token.ofSymbol l ']' :: rest)
          = some (false, Token.furtherTokens l texts ++ Token.ofSymbol l ']' :: rest) := by
        obtain ⟨x, hx, l', rest', hrest⟩ := hclosed
        rw [hrest]
        exact run_seesClause hx l' rest'
      rw [bracketed, Token.listTokens, List.cons_append, List.cons_append, List.append_assoc,
        List.singleton_append, run_bind, run_line, Option.bind_some]
      dsimp only
      rw [hopening, run_bind, op, run_token_self, Option.bind_some]
      dsimp only
      rw [run_bind, run_skipOp_of_ne hnonempty, Option.bind_some]
      dsimp only
      rw [if_neg Bool.false_ne_true, run_bind, hfirst, Option.bind_some]
      dsimp only
      rw [run_bind, hclause, Option.bind_some]
      dsimp only
      rw [run_bind, hfurther, Option.bind_some]
      rfl

theorem run_atom_list (hr : ReadsLiterals r) (htexts : ∀ codes ∈ texts, ∀ n ∈ codes, Literal.IsCode n)
    (l : Nat) (rest : List Token) :
  (atom r).run (Token.listTokens l texts ++ rest) = some (.list l (textItems l texts), rest)
  := by
  rw [← run_bracketed hr htexts]
  cases texts with
  | nil => rfl
  | cons codes texts => rfl

/-! ### Programs of one expression -/

/-- A reader reads nothing, or ends at the end of a line. -/
def EndsLine (p : Read Expr) (ts : List Token) : Prop :=
  ∀ e rest, p.run ts = some (e, rest) → ∃ l rest', rest = ⟨.newline, l⟩ :: rest'

theorem EndsLine.stops (h : EndsLine p ts) :
  Stops p ts
  := by
  intro e rest hrun
  obtain ⟨l, rest', hrest⟩ := h e rest hrun
  exact ⟨.newline, by decide, l, rest', hrest⟩

theorem EndsLine.congr (h : EndsLine q ts) (heq : p.run ts = q.run ts) :
  EndsLine p ts
  := by
  rw [EndsLine, heq]
  exact h

theorem run_listItem {n : Nat} (ht : IsOpening t.lexeme) (h : EndsLine (atom (rules n)) (t :: ts)) :
  (listItem (rules (n + 1))).run (t :: ts) = (atom (rules n)).run (t :: ts)
  := by
  rw [listItem, run_bind, seesOp, run_sees, Option.bind_some, decide_eq_false (ne_star ht)]
  exact run_expression ht h.stops

theorem run_starExpressions (h : EndsLine (listItem r) (t :: ts)) :
  (starExpressions r).run (t :: ts) = (listItem r).run (t :: ts)
  := by
  rw [starExpressions, expressionList, run_bind, run_line, Option.bind_some]
  dsimp only
  rw [run_bind, listed, run_bind, separated, run_bind]
  cases hrun : (listItem r).run (t :: ts) with
  | none => rfl
  | some result =>
      obtain ⟨e, rest⟩ := result
      obtain ⟨l, rest, rfl⟩ := h e _ hrun
      rw [Option.bind_some]
      dsimp only
      rw [run_bind, run_many_of_none rfl]
      rfl

theorem run_expressionStatement (ht : IsOpening t.lexeme) (h : EndsLine (starExpressions r) (t :: ts)) :
  (expressionStatement r).run (t :: ts)
    = ((starExpressions r).run (t :: ts)).map fun (e, rest) => (.expression t.line e, rest)
  := by
  rw [expressionStatement, run_bind, run_line, Option.bind_some]
  dsimp only
  rw [run_bind, seesKeyword, run_sees, Option.bind_some, decide_eq_false (ne_keyword ht _)]
  dsimp only
  rw [if_neg Bool.false_ne_true, run_bind, run_peek, Option.bind_some]
  dsimp only
  rw [run_bind, wouldLeave?, run_look, Option.bind_some]
  dsimp only
  rw [run_bind]
  cases hrun : (starExpressions r).run (t :: ts) with
  | none => rfl
  | some result =>
      obtain ⟨e, rest⟩ := result
      obtain ⟨l, rest, rfl⟩ := h e _ hrun
      rfl

/-- An atom alone on its line is a statement. -/
theorem run_statement {n : Nat} (ht : IsOpening t.lexeme) (h : EndsLine (atom (rules n)) (t :: ts))
    (block : Read Block) (depth : Nat) :
  (statement (rules (n + 1)) block depth).run (t :: ts)
    = ((atom (rules n)).run (t :: ts)).map fun (e, rest) => ([.expression t.line e], rest.tail)
  := by
  have hitem := run_listItem ht h
  have hstar := run_starExpressions (h.congr hitem)
  have hexpression := run_expressionStatement ht (h.congr (hstar.trans hitem))
  have hsimple : (statement (rules (n + 1)) block depth).run (t :: ts)
        = (simpleStatements (rules (n + 1))).run (t :: ts)
      ∧ (simpleStatement (rules (n + 1))).run (t :: ts)
        = (expressionStatement (rules (n + 1))).run (t :: ts) := by
    obtain ⟨x, l⟩ := t
    obtain rfl | rfl | ⟨_, _, _, _, _, rfl⟩ := ht
    · exact ⟨rfl, rfl⟩
    · exact ⟨rfl, rfl⟩
    · exact ⟨rfl, rfl⟩
  rw [hsimple.1, simpleStatements, run_bind, hsimple.2, hexpression, hstar, hitem]
  cases hrun : (atom (rules n)).run (t :: ts) with
  | none => rfl
  | some result =>
      obtain ⟨e, rest⟩ := result
      obtain ⟨l, rest, rfl⟩ := h e _ hrun
      rw [Option.map_some, Option.bind_some]
      dsimp only
      rw [run_bind, run_many_of_none rfl]
      rfl

/-- A program may consist of one atom. -/
theorem run_program {n l l' : Nat} (ht : IsOpening t.lexeme)
    (h : (atom (rules n)).run (t :: ts) = some (e, [⟨.newline, l⟩, ⟨.finish, l'⟩])) :
  (program (n + 1)).run (t :: ts) = some ([.expression t.line e], [])
  := by
  have hline : EndsLine (atom (rules n)) (t :: ts) := by
    intro e' rest hrun
    rw [h] at hrun
    cases hrun
    exact ⟨l, _, rfl⟩
  have hfinish : EndsLine (atom (rules n)) [⟨.finish, l'⟩] := by
    rintro e' rest ⟨⟩
  have hmany (block : Read Block) (depth : Nat) :
      (many (statement (rules (n + 1)) block depth)).run (t :: ts)
        = some ([[.expression t.line e]], [⟨.finish, l'⟩]) := by
    apply run_many_one
    · rw [run_statement ht hline, h]
      rfl
    · rw [run_statement (.inr (.inl rfl)) hfinish]
      rfl
  rw [program, run_bind, hmany]
  rfl

end SnippetProfiler.Indented.Grammar

namespace SnippetProfiler.Indented

open Text.Quoted (encodeCodes)

variable {codes : List Nat} {texts : List (List Nat)}

/-- A literal denotes the text that was quoted. -/
theorem parse_encodeCodes (hcodes : ∀ n ∈ codes, Literal.IsCode n) :
  parse (encodeCodes codes) = some [.expression 1 (.constant 1 (.text codes false))]
  := by
  have hatom := @Grammar.run_atom_literal (rules ((encodeCodes codes).length + 7)) codes hcodes .newline
    (by decide) 1 1 [⟨.finish, 2⟩]
  rw [parse, Token.scan_encodeCodes hcodes, Option.bind_eq_bind, Option.bind_some,
    Grammar.run_program (Grammar.isOpening_ofLiteral 1 codes) hatom]
  rfl

/-- A list of literals denotes the list of the texts that were quoted. -/
theorem parse_listText (htexts : ∀ codes ∈ texts, ∀ n ∈ codes, Literal.IsCode n) :
  parse (Token.listText texts) = some [.expression 1 (.list 1 (Grammar.textItems 1 texts))]
  := by
  obtain ⟨tokens, htokens⟩ : ∃ tokens, Token.listTokens 1 texts = Token.ofSymbol 1 '[' :: tokens := by
    cases texts with
    | nil => exact ⟨_, rfl⟩
    | cons codes texts => exact ⟨_, rfl⟩
  have hatom := Grammar.run_atom_list
    (Grammar.readsLiterals_rules ((Token.listText texts).length + 6)) htexts 1
    [⟨.newline, 1⟩, ⟨.finish, 2⟩]
  rw [htokens, List.cons_append] at hatom
  have hprogram : (Grammar.program ((Token.listText texts).length + 8)).run _ = _ :=
    Grammar.run_program (.inl rfl) hatom
  rw [parse, Token.scan_listText htexts, Option.bind_eq_bind, Option.bind_some, htokens, List.cons_append,
    hprogram]
  rfl

end SnippetProfiler.Indented
