import SnippetProfiler.Proofs.Braced.Nesting
import SnippetProfiler.Proofs.Braced.Places
import SnippetProfiler.Proofs.Metrics.Tally

/-!
# Statements and their hooks

A plan writes one line hook for each token that begins a statement, and one variable hook for each
statement that declares variables or assigns to a name.  `plan_accounts` says so, and says which
names a variable hook lists and where it stands, by looking forward from the statement: the hook
stands at the first token of the same block that ends the statement.

The plan itself does not look forward.  It keeps the statements whose hooks are due in the scopes
that are open.  The invariant is that the hooks written so far, the hooks of the statements that are
due, and the hooks of the statements further behind are together the hooks of all statements
(`Planner.step_reports`).
-/

namespace SnippetProfiler.Braced

/-! ### What a plan reads -/

/-- A token as a plan reads it: the token behind it, whether it begins a statement, and the number
of scopes that are open in front of it. -/
structure Reading where
  token : Token
  next : Option Token
  starts : Bool
  depth : Nat
  deriving DecidableEq, Repr

/-- How a plan reads a token that is followed by the tokens `rest`. -/
def Planner.reading (p : Planner) (t : Token) (rest : List Token) : Reading :=
  ⟨t, rest.head?, p.starts t, p.depth⟩

/-- How a plan reads the tokens from here on, as far as it comes. -/
def Planner.readings (p : Planner) : List Token → List Reading
  | [] => []
  | t :: rest =>
    p.reading t rest ::
      match p.step t rest with
      | .error _ => []
      | .ok (q, _) => q.readings rest

/-- How the plan of a snippet reads its tokens. -/
def readings (tokens : List Token) : List Reading :=
  Planner.readings { inner := openBlock tokens 0 } tokens

/-! ### Statements -/

/-- An assignment of a statement that stands in a block, when `depth` scopes are open in the
block. -/
structure Due where
  depth : Nat
  assignment : Assignment
  deriving DecidableEq, Repr

/-- A token ends a statement when it is in the same block and begins the next statement, is a
semicolon, or closes the block. -/
def Due.isEndedBy (d : Due) (r : Reading) : Bool :=
  r.depth = d.depth && (r.starts || r.token.isMark [";", "\x7d"])

/-- The first token that ends a statement, if it is followed by `behind`. -/
def Due.ending? (d : Due) (behind : List Reading) : Option Reading := behind.find? d.isEndedBy

/-- The name that stands behind a token, if the token is a comma of a declaration. -/
def Due.further? (d : Due) (r : Reading) : Option String :=
  if d.assignment.declares && r.depth = d.depth && r.token.isMark [","] then
    (r.next.filter Token.isName).map Token.text
  else none

/-- The names that a statement gives values, if it is followed by `behind`. -/
def Due.names (d : Due) (behind : List Reading) : List String :=
  d.assignment.names ++ (behind.takeWhile fun r => !d.isEndedBy r).filterMap d.further?

/-- Where the hook of a statement stands, if it is followed by `behind` and the last token ends at
`stop`, and whether a semicolon has to stand in front of it. -/
def Due.place (d : Due) (stop : Nat) (behind : List Reading) : Nat × Bool :=
  match d.ending? behind with
  | none => (stop, true)
  | some r => if r.token.isMark [";"] then (r.token.stop, false) else (r.token.start, true)

/-- The hook of a statement, if it is followed by `behind` and the last token ends at `stop`. -/
def Due.report (d : Due) (stop : Nat) (behind : List Reading) : Insertion :=
  ⟨(d.place stop behind).1, .vars (d.place stop behind).2 (d.names behind) d.assignment.line⟩

/-- What a token assigns that begins a statement. -/
def Reading.due? (r : Reading) : Option Due :=
  if r.starts then (Planner.assignment? r.token r.next).map fun a => ⟨r.depth, a⟩ else none

/-- A statement that declares variables or assigns to a name, with its first token and what is read
behind that. -/
structure Statement extends Due where
  first : Token
  behind : List Reading
  deriving DecidableEq, Repr

/-- The statements that declare variables or assign to a name. -/
def statements : List Reading → List Statement
  | [] => []
  | r :: rs => (r.due?.map fun d => ⟨d, r.token, rs⟩).toList ++ statements rs

/-- The hook of a statement, if the last token ends at `stop`. -/
def Statement.insertion (stop : Nat) (s : Statement) : Insertion := s.report stop s.behind

/-- Where the last token ends, or `stop` if there is none. -/
def endOf (stop : Nat) (tokens : List Token) : Nat := (tokens.getLast?.map Token.stop).getD stop

/-- The names that a hook lists for a statement, each of them once. -/
def Statement.listed (s : Statement) : List String := (s.names s.behind).eraseDups

/-- The position of the hook of a statement and its text, if the last token ends at `stop`. -/
def Statement.written (stop : Nat) (s : Statement) : Nat × String :=
  ((s.place stop s.behind).1,
    separator (s.place stop s.behind).2 ++ hookName ++ ".vars(["
      ++ ", ".intercalate (s.listed.map (variableEntry s.assignment.line)) ++ "]);")

/-- The position of a hook and its text. -/
def Insertion.written (i : Insertion) : Nat × String := (i.position, i.hook.text)

/-- The first token behind the beginning of a statement that begins another one in the same block or
closes the block. -/
def Statement.limit? (s : Statement) : Option Reading :=
  s.behind.find? fun r => r.depth = s.depth && (r.starts || r.token.isMark ["\x7d"])

/-! ### Hooks by kind -/

/-- Whether a hook reports that a statement begins. -/
def Hook.isLine : Hook → Bool
  | .line _ => true
  | _ => false

/-- Whether a hook reports the values of variables. -/
def Hook.isVars : Hook → Bool
  | .vars .. => true
  | _ => false

/-- The hooks that report that statements begin. -/
def lineHooks (hooks : List Insertion) : List Insertion := hooks.filter fun i => i.hook.isLine

/-- The hooks that report the values of variables. -/
def varsHooks (hooks : List Insertion) : List Insertion := hooks.filter fun i => i.hook.isVars

theorem lineHooks_append (a b : List Insertion) :
  lineHooks (a ++ b) = lineHooks a ++ lineHooks b
  := List.filter_append ..

theorem varsHooks_append (a b : List Insertion) :
  varsHooks (a ++ b) = varsHooks a ++ varsHooks b
  := List.filter_append ..

/-! ### Reports -/

theorem endOf_cons (stop : Nat) (t : Token) (ts : List Token) :
  endOf stop (t :: ts) = endOf t.stop ts
  := by
  rw [endOf, endOf, List.getLast?_cons]
  cases ts.getLast? with
  | none => rfl
  | some u => rfl

namespace Due

variable {d : Due} {r : Reading}

/-- The hook of a statement that nothing ends stands behind the last token. -/
theorem report_nil (d : Due) (stop : Nat) :
  d.report stop [] = ⟨stop, .vars true d.assignment.names d.assignment.line⟩
  := by
  rw [report, names, List.takeWhile_nil, List.filterMap_nil, List.append_nil]
  rfl

/-- The hook of a statement stands at the token that ends it. -/
theorem report_cons_of_isEndedBy (h : d.isEndedBy r = true) (stop : Nat) (rs : List Reading) :
  d.report stop (r :: rs)
    = if r.token.isMark [";"] then ⟨r.token.stop, .vars false d.assignment.names d.assignment.line⟩
      else ⟨r.token.start, .vars true d.assignment.names d.assignment.line⟩
  := by
  have hnames : d.names (r :: rs) = d.assignment.names := by
    rw [names, List.takeWhile_cons_of_neg (by rw [h]; decide), List.filterMap_nil, List.append_nil]
  rw [report, hnames, place, ending?, List.find?_cons_of_pos h]
  simp only
  split
  · rfl
  · rfl

/-- A token that does not end a statement may add a name to it. -/
theorem report_cons (h : d.isEndedBy r = false) (stop : Nat) (rs : List Reading) :
  d.report stop (r :: rs)
    = report ⟨d.depth, { d.assignment with names := d.assignment.names ++ (d.further? r).toList }⟩
      stop rs
  := by
  have hne : ¬ d.isEndedBy r = true := by rw [h]; decide
  have hnames : d.names (r :: rs) = d.assignment.names ++ (d.further? r).toList
      ++ (rs.takeWhile fun r => !d.isEndedBy r).filterMap d.further? := by
    rw [names, List.takeWhile_cons_of_pos (by rw [h]; rfl), List.append_assoc]
    cases hfurther : d.further? r with
    | none =>
        rw [List.filterMap_cons_none hfurther]
        rfl
    | some name =>
        rw [List.filterMap_cons_some hfurther]
        rfl
  rw [report, hnames, place, ending?, List.find?_cons_of_neg hne]
  rfl

theorem report_cons_of_quiet (h : d.isEndedBy r = false) (hfurther : d.further? r = none)
    (stop : Nat) (rs : List Reading) :
  d.report stop (r :: rs) = d.report stop rs
  := by
  rw [report_cons h, hfurther, Option.toList_none, List.append_nil]

end Due

theorem Token.isMark_eq_true {t : Token} {texts : List String} :
  t.isMark texts = true ↔ t.kind = .mark ∧ t.text ∈ texts
  := by
  rw [Token.isMark, Bool.and_eq_true, decide_eq_true_eq, List.contains_iff_mem]

theorem Token.isMark_eq_false_of_subset {t : Token} {a b : List String} (h : a ⊆ b)
    (ht : t.isMark b = false) :
  t.isMark a = false
  := by
  rw [Bool.eq_false_iff, Ne, Token.isMark_eq_true] at ht ⊢
  intro ha
  apply ht ⟨ha.1, h ha.2⟩

/-! ### What is due -/

/-- The assignment that is due in a scope. -/
def Scope.due : Scope → Option Assignment
  | .block _ _ due => due
  | _ => none

/-- Nothing is due in a scope that is no block. -/
theorem Scope.due_of_not_isBlock {s : Scope} (hs : s.isBlock = false) :
  s.due = none
  := by
  cases s with
  | block => cases hs
  | object | classBody | switchBody | group | header | list | substitution => rfl

/-- A scope whose bracket is no brace is no block. -/
theorem Scope.isBlock_of_bracket {s : Scope} (hs : s.bracket ≠ .curly) :
  s.isBlock = false
  := by
  cases s with
  | block => cases hs rfl
  | object | classBody | switchBody | group | header | list | substitution => rfl

/-- What is due in scopes, innermost first. -/
def duesOf : List Scope → List Due
  | [] => []
  | s :: outer => (s.due.map fun a => ⟨outer.length + 1, a⟩).toList ++ duesOf outer

theorem depth_le_of_mem_duesOf {scopes : List Scope} {d : Due} (h : d ∈ duesOf scopes) :
  d.depth ≤ scopes.length
  := by
  induction scopes with
  | nil => cases h
  | cons s outer ih =>
      rw [duesOf, List.mem_append, Option.mem_toList, Option.map_eq_some_iff] at h
      obtain ⟨a, -, rfl⟩ | h := h
      · apply Nat.le_refl
      · apply Nat.le_succ_of_le (ih h)

namespace Planner

variable {p q : Planner} {t : Token} {rest : List Token} {hooks : List Insertion}

/-- What is due in the innermost scope. -/
def innerDue (p : Planner) : List Due := (p.inner.due.map fun a => ⟨p.depth, a⟩).toList

/-- What is due in the open scopes. -/
def dues (p : Planner) : List Due := p.innerDue ++ duesOf p.outer

theorem dues_push (p : Planner) {s : Scope} (hs : s.due = none) :
  (p.push s).dues = p.dues
  := by
  rw [dues, innerDue, push, hs]
  rfl

theorem dues_setDue (p : Planner) (hp : p.inner.isBlock = true) (due : Option Assignment) :
  (p.setDue due).dues = (due.map fun a => ⟨p.depth, a⟩).toList ++ duesOf p.outer
  := by
  cases hinner : p.inner with
  | block =>
      rw [setDue, hinner]
      rfl
  | object | classBody | switchBody | group | header | list | substitution =>
      rw [hinner] at hp
      cases hp

theorem dues_setDue_none (p : Planner) :
  (p.setDue none).dues = duesOf p.outer
  := by
  cases hinner : p.inner with
  | block => rw [p.dues_setDue (by rw [hinner]; rfl), Option.map_none, Option.toList_none,
      List.nil_append]
  | object | classBody | switchBody | group | header | list | substitution =>
      rw [setDue, hinner, dues, innerDue, hinner]
      rfl

theorem innerDue_of_not_isBlock (hp : p.inner.isBlock = false) :
  p.innerDue = []
  := by
  rw [innerDue, Scope.due_of_not_isBlock hp]
  rfl

/-- The hooks of what is due in the innermost scope. -/
theorem dueHooks_eq (p : Planner) (position : Nat) (separate : Bool) :
  p.dueHooks position separate
    = p.innerDue.map fun d => ⟨position, .vars separate d.assignment.names d.assignment.line⟩
  := by
  rw [dueHooks, innerDue]
  split
  · rename_i hinner
    rw [hinner]
    rfl
  · rename_i hinner
    cases hp : p.inner with
    | block top separate due =>
        cases due with
        | none => rfl
        | some a => cases hinner _ _ _ hp
    | object | classBody | switchBody | group | header | list | substitution => rfl

theorem varsHooks_dueHooks (p : Planner) (position : Nat) (separate : Bool) :
  varsHooks (p.dueHooks position separate) = p.dueHooks position separate
  := by
  rw [varsHooks, List.filter_eq_self, dueHooks_eq]
  intro i hi
  rw [List.mem_map] at hi
  obtain ⟨d, -, rfl⟩ := hi
  rfl

theorem lineHooks_dueHooks (p : Planner) (position : Nat) (separate : Bool) :
  lineHooks (p.dueHooks position separate) = []
  := by
  rw [lineHooks, List.filter_eq_nil_iff, dueHooks_eq]
  intro i hi
  rw [List.mem_map] at hi
  obtain ⟨d, -, rfl⟩ := hi
  apply Bool.false_ne_true

/-! ### Steps -/

theorem kind_of_starts (h : p.starts t = true) :
  t.kind ≠ .mark
  := by
  rw [starts] at h
  simp only [Bool.and_eq_true, decide_eq_true_eq] at h
  exact h.1.1.1.2

theorem isBlock_of_starts (h : p.starts t = true) :
  p.inner.isBlock = true
  := by
  rw [starts] at h
  simp only [Bool.and_eq_true, decide_eq_true_eq] at h
  exact h.1.1.1.1

/-- A token with another depth does nothing to what is due further outside. -/
theorem map_report_outer (p : Planner) (t : Token) (rest : List Token) (stop : Nat)
    (rs : List Reading) :
  (duesOf p.outer).map (fun d => d.report stop (p.reading t rest :: rs))
    = (duesOf p.outer).map fun d => d.report stop rs
  := by
  apply List.map_congr_left
  intro d hd
  have hne : (p.reading t rest).depth ≠ d.depth := by
    have hle := depth_le_of_mem_duesOf hd
    simp only [reading, depth]
    omega
  apply Due.report_cons_of_quiet
  · rw [Due.isEndedBy, decide_eq_false hne, Bool.false_and]
  · rw [Due.further?, decide_eq_false hne, Bool.and_false, Bool.false_and, if_neg (by decide)]

/-- A token that neither ends nor goes on with a statement does nothing to what is due. -/
theorem map_report_of_quiet (hstarts : p.starts t = false)
    (ht : t.isMark [";", "\x7d", ","] = false) (stop : Nat) (rs : List Reading) :
  p.dues.map (fun d => d.report stop (p.reading t rest :: rs))
    = p.dues.map fun d => d.report stop rs
  := by
  have hends : t.isMark [";", "\x7d"] = false := Token.isMark_eq_false_of_subset (by decide) ht
  have hcomma : t.isMark [","] = false := Token.isMark_eq_false_of_subset (by decide) ht
  apply List.map_congr_left
  intro d _
  apply Due.report_cons_of_quiet
  · simp only [Due.isEndedBy, reading, hstarts, hends, Bool.or_false, Bool.and_false]
  · simp only [Due.further?, reading, hcomma, Bool.and_false, Bool.false_eq_true, if_false]

/-- At a token that ends statements the hooks are written that are due in the innermost scope. -/
theorem map_report_of_ends (ht : p.starts t = true ∨ t.isMark [";", "\x7d"] = true) (stop : Nat)
    (rs : List Reading) :
  p.dues.map (fun d => d.report stop (p.reading t rest :: rs))
    = (if t.isMark [";"] then p.dueHooks t.stop false else p.dueHooks t.start true)
      ++ (duesOf p.outer).map fun d => d.report stop rs
  := by
  have hends : (p.starts t || t.isMark [";", "\x7d"]) = true := by rwa [Bool.or_eq_true]
  have hreport : ∀ d ∈ p.innerDue, d.report stop (p.reading t rest :: rs)
      = if t.isMark [";"] then ⟨t.stop, .vars false d.assignment.names d.assignment.line⟩
        else ⟨t.start, .vars true d.assignment.names d.assignment.line⟩ := by
    intro d hd
    rw [innerDue, Option.mem_toList, Option.map_eq_some_iff] at hd
    obtain ⟨a, -, rfl⟩ := hd
    apply Due.report_cons_of_isEndedBy
    simp only [Due.isEndedBy, reading, hends, Bool.and_true, decide_true]
  rw [dues, List.map_append, map_report_outer, List.map_congr_left hreport, dueHooks_eq,
    dueHooks_eq]
  split
  · rfl
  · rfl

theorem dues_await (p : Planner) (t : Token) :
  (p.await t).dues = p.dues
  := by
  rw [await]
  split
  · rfl
  · split
    · rfl
    · rfl

theorem dues_openBrace (p : Planner) (t : Token) (rest : List Token) :
  (p.openBrace t rest).dues = p.dues
  := by
  rw [openBrace]
  split
  · rfl
  split
  · rfl
  split
  · rfl
  · rfl

theorem dues_pop {b : Bracket} (h : p.pop b = some q) :
  q.dues = duesOf p.outer ∧ p.inner.bracket = b
  := by
  rw [pop] at h
  split at h
  · cases h
  · rename_i s outer houter
    split at h
    · rename_i hbracket
      cases h
      rw [houter]
      exact ⟨rfl, hbracket⟩
    · cases h

/-- Nothing is due in a scope that is no block. -/
theorem dues_pop_of_ne {b : Bracket} (h : p.pop b = some q) (hb : b ≠ .curly) :
  q.dues = p.dues
  := by
  obtain ⟨hdues, rfl⟩ := dues_pop h
  rw [hdues, dues, innerDue_of_not_isBlock (Scope.isBlock_of_bracket hb), List.nil_append]

theorem dues_readTemplate (h : p.readTemplate t = .ok (q, hooks)) :
  q.dues = p.dues ∧ hooks = []
  := by
  obtain ⟨rfl, r, hr, hq⟩ := exists_of_readTemplate h
  have hdues : r.dues = p.dues := by
    obtain rfl | hpop := hr
    · rfl
    · exact dues_pop_of_ne hpop (by decide)
  obtain rfl | rfl := hq
  · exact ⟨hdues, rfl⟩
  · exact ⟨(dues_push r rfl).trans hdues, rfl⟩

/-- No hook of a function reports variables or lines. -/
theorem filter_functionHooks (p : Planner) (t : Token) (starts : Bool) (next : Option Token) :
  varsHooks (p.functionHooks t starts next) = [] ∧ lineHooks (p.functionHooks t starts next) = []
  := by
  unfold functionHooks
  split
  · split
    · exact ⟨rfl, rfl⟩
    · exact ⟨rfl, rfl⟩
  · exact ⟨rfl, rfl⟩

/-- A comma adds the name behind it to what is due in the innermost scope. -/
theorem innerDue_declareNext (ht : t.isMark [","] = true) :
  (p.declareNext rest.head?).innerDue = p.innerDue.map fun d =>
    ⟨d.depth, { d.assignment with
      names := d.assignment.names ++ (d.further? (p.reading t rest)).toList }⟩
  := by
  have hfurther (a : Assignment) : Due.further? ⟨p.depth, a⟩ (p.reading t rest)
      = if a.declares then (rest.head?.filter Token.isName).map Token.text else none := by
    simp only [Due.further?, reading, ht, Bool.and_true, decide_true]
  cases hinner : p.inner with
  | block top separate due =>
      cases due with
      | none => simp [declareNext, innerDue, hinner, Scope.due]
      | some a =>
          obtain ⟨names, line, declares⟩ := a
          simp only [declareNext, innerDue, hinner, Scope.due, Option.map_some, Option.toList_some,
            List.map_cons, List.map_nil, hfurther]
          cases rest.head? with
          | none => simp [hinner]
          | some name =>
              cases hname : name.isName with
              | false => simp [hinner, hname, Option.filter]
              | true =>
                  cases declares with
                  | false => simp [hinner]
                  | true => simp [hname, depth, Option.filter]
  | object | classBody | switchBody | group | header | list | substitution =>
      simp [declareNext, innerDue, hinner, Scope.due]

theorem outer_declareNext (p : Planner) (next : Option Token) :
  (p.declareNext next).outer = p.outer
  := by
  unfold declareNext
  split
  · split
    · rfl
    · rfl
  · rfl

/-- What is due in a block gets the name that a comma adds. -/
theorem map_report_of_comma (hstarts : p.starts t = false) (ht : t.isMark [","] = true) (stop : Nat)
    (rs : List Reading) :
  (p.declareNext rest.head?).dues.map (fun d => d.report stop rs)
    = p.dues.map fun d => d.report stop (p.reading t rest :: rs)
  := by
  have hends : t.isMark [";", "\x7d"] = false := by
    rw [Token.isMark_eq_true, List.mem_singleton] at ht
    rw [Bool.eq_false_iff, Ne, Token.isMark_eq_true, ht.2]
    simp
  rw [dues, outer_declareNext, innerDue_declareNext ht, List.map_append, List.map_map, dues,
    List.map_append, map_report_outer]
  congr 1
  apply List.map_congr_left
  intro d _
  rw [Due.report_cons]
  · rfl
  · simp only [Due.isEndedBy, reading, hstarts, hends, Bool.or_false, Bool.and_false]

/-- A mark writes the hooks that are due in the innermost scope if it ends statements. -/
theorem reports_of_readMark (ht : t.kind = .mark) (hstarts : p.starts t = false)
    (h : p.readMark t rest = .ok (q, hooks)) (stop : Nat) (rs : List Reading) :
  lineHooks hooks = [] ∧
  varsHooks hooks ++ q.dues.map (fun d => d.report stop rs)
    = p.dues.map fun d => d.report stop (p.reading t rest :: rs)
  := by
  have hmark {texts : List String} : t.isMark texts = texts.contains t.text := by
    rw [Token.isMark, decide_eq_true ht, Bool.true_and]
  -- A mark that neither ends statements nor goes on with them leaves what is due as it was.
  have hquiet {q : Planner} (htext : [";", "\x7d", ","].contains t.text = false)
      (hdues : q.dues = p.dues) : q.dues.map (fun d => d.report stop rs)
        = p.dues.map fun d => d.report stop (p.reading t rest :: rs) := by
    rw [hdues, map_report_of_quiet hstarts (hmark.trans htext)]
  cases readsMark_of_readMark h with
  | ends htext =>
      use lineHooks_dueHooks ..
      have hends : t.isMark [";"] = true ∧ t.isMark [";", "\x7d"] = true := by
        rw [hmark, hmark, htext]
        exact ⟨rfl, rfl⟩
      rw [map_report_of_ends (.inr hends.2), if_pos hends.1, varsHooks_dueHooks, dues_setDue_none]
  | goesOn htext =>
      use rfl
      apply map_report_of_comma hstarts
      rw [hmark, htext]
      rfl
  | opens htext hs =>
      use rfl
      apply hquiet _ (dues_push p (Scope.due_of_not_isBlock hs))
      obtain htext | htext := htext
      · rw [htext]
        decide
      · rw [htext]
        decide
  | opensBrace htext =>
      use rfl
      apply hquiet _ (dues_openBrace p t rest)
      rw [htext]
      decide
  | closes htext hb hpop =>
      use rfl
      apply hquiet _ (dues_pop_of_ne hpop hb)
      obtain htext | htext := htext
      · rw [htext]
        decide
      · rw [htext]
        decide
  | closesBrace htext hpop =>
      use lineHooks_dueHooks ..
      have hends : t.isMark [";"] = false ∧ t.isMark [";", "\x7d"] = true := by
        rw [hmark, hmark, htext]
        decide
      rw [map_report_of_ends (.inr hends.2), hends.1, varsHooks_dueHooks, (dues_pop hpop).1]
      rfl
  | other htext =>
      use rfl
      apply hquiet _ rfl
      rw [Bool.eq_false_iff, Ne, List.contains_iff_mem]
      have hsub : [";", "\x7d", ","] ⊆ [";", ",", "(", "[", "\x7b", ")", "]", "\x7d"] := by decide
      exact fun hmem => htext (hsub hmem)

/-- A token that is no mark leaves what is due as it was, apart from beginning a statement. -/
theorem dues_effect {starts : Bool} (hkind : t.kind ≠ .mark)
    (h : p.effect t starts rest = .ok (q, hooks)) :
  q.dues = p.dues ∧ varsHooks hooks = [] ∧ lineHooks hooks = []
  := by
  rw [effect] at h
  split at h
  · cases h
    exact ⟨dues_await p t, filter_functionHooks ..⟩
  · obtain ⟨hdues, rfl⟩ := dues_readTemplate h
    exact ⟨hdues, rfl, rfl⟩
  · rename_i hmark
    cases hkind hmark
  · cases h
    exact ⟨rfl, rfl, rfl⟩

/-- A token that begins no statement writes the hooks that are due in the innermost scope if it ends
statements. -/
theorem reports_of_effect {starts : Bool} (hstarts : p.starts t = false)
    (h : p.effect t starts rest = .ok (q, hooks)) (stop : Nat) (rs : List Reading) :
  lineHooks hooks = [] ∧
  varsHooks hooks ++ q.dues.map (fun d => d.report stop rs)
    = p.dues.map fun d => d.report stop (p.reading t rest :: rs)
  := by
  by_cases hkind : t.kind = .mark
  · simp only [effect, hkind] at h
    apply reports_of_readMark hkind hstarts h
  · obtain ⟨hdues, hvars, hlines⟩ := dues_effect hkind h
    have hmark : t.isMark [";", "\x7d", ","] = false := by
      rw [Token.isMark, decide_eq_false hkind, Bool.false_and]
    rw [hdues, hvars, hlines, map_report_of_quiet hstarts hmark]
    exact ⟨rfl, rfl⟩

/-- A token that begins a statement writes the hooks that are due in its block, and what the
statement assigns is due behind it. -/
theorem reports_of_beginStatement {starts : Bool} (hstarts : p.starts t = true)
    (h : (p.beginStatement t rest.head?).1.effect t starts rest = .ok (q, hooks)) (stop : Nat)
    (rs : List Reading) :
  lineHooks hooks = [] ∧
  (varsHooks ((p.beginStatement t rest.head?).2 ++ hooks)
      ++ q.dues.map fun d => d.report stop rs).Perm
    ((p.dues.map fun d => d.report stop (p.reading t rest :: rs))
      ++ (p.reading t rest).due?.toList.map fun d => d.report stop rs)
  := by
  obtain ⟨hdues, hvars, hlines⟩ := dues_effect (kind_of_starts hstarts) h
  use hlines
  have hmark : t.isMark [";"] = false := by
    rw [Token.isMark, decide_eq_false (kind_of_starts hstarts), Bool.false_and]
  have hline : varsHooks [⟨t.start, .line t.line⟩] = [] := rfl
  have hnew : (p.reading t rest).due?.toList
      = ((assignment? t rest.head?).map fun a => ⟨p.depth, a⟩).toList := by
    simp only [Reading.due?, reading, hstarts, if_true]
  rw [varsHooks_append, hvars, List.append_nil, hdues, beginStatement, varsHooks_append, hline,
    varsHooks_dueHooks, List.append_nil, dues_setDue _ (isBlock_of_starts hstarts),
    map_report_of_ends (.inl hstarts), hmark, hnew, List.map_append, List.append_assoc]
  apply List.Perm.append_left
  apply List.perm_append_comm

/-- The hooks that a token writes, and the hooks of what is due behind it, are the hooks of what was
due in front of it and of the statement that it begins. -/
theorem step_reports (h : p.step t rest = .ok (q, hooks)) (stop : Nat) (rs : List Reading) :
  lineHooks hooks = (if p.starts t then [⟨t.start, .line t.line⟩] else []) ∧
  (varsHooks hooks ++ q.dues.map fun d => d.report stop rs).Perm
    ((p.dues.map fun d => d.report stop (p.reading t rest :: rs))
      ++ (p.reading t rest).due?.toList.map fun d => d.report stop rs)
  := by
  cases hstarts : p.starts t with
  | false =>
      simp only [step, hstarts] at h
      split at h
      · cases h
      · rename_i heffect
        cases h
        obtain ⟨hlines, hvars⟩ := reports_of_effect hstarts heffect stop rs
        have hnone : (p.reading t rest).due? = none := by
          simp only [Reading.due?, reading, hstarts, Bool.false_eq_true, if_false]
        use hlines
        rw [hnone, Option.toList_none, List.map_nil, List.append_nil, ← hvars]
        rfl
  | true =>
      simp only [step, hstarts] at h
      split at h
      · cases h
      · rename_i heffect
        cases h
        obtain ⟨hlines, hvars⟩ := reports_of_beginStatement hstarts heffect stop rs
        constructor
        · rw [lineHooks_append, hlines, List.append_nil]
          simp only [if_true, beginStatement, lineHooks_append, lineHooks_dueHooks,
            List.nil_append]
          rfl
        · exact hvars

theorem readings_cons {ts : List Token} (h : p.step t ts = .ok (q, hooks)) :
  p.readings (t :: ts) = p.reading t ts :: q.readings ts
  := by rw [readings, h]

theorem map_insertion_statements_cons (stop : Nat) (r : Reading) (rs : List Reading) :
  (statements (r :: rs)).map (Statement.insertion stop)
    = (r.due?.toList.map fun d => d.report stop rs)
      ++ (statements rs).map (Statement.insertion stop)
  := by
  rw [statements, List.map_append]
  cases r.due? with
  | none => rfl
  | some d => rfl

/-- The variable hooks of a run are the hooks of what is due and of the statements that begin in it;
its line hooks stand at the tokens that begin statements. -/
theorem run_reports {stop : Nat} {ts : List Token} (h : p.run stop ts = .ok hooks) :
  lineHooks hooks = ((p.readings ts).filter Reading.starts).map
    (fun r => ⟨r.token.start, .line r.token.line⟩) ∧
  (varsHooks hooks).Perm
    ((p.dues.map fun d => d.report (endOf stop ts) (p.readings ts))
      ++ (statements (p.readings ts)).map (Statement.insertion (endOf stop ts)))
  := by
  induction ts generalizing p stop hooks with
  | nil =>
      rw [run] at h
      split at h
      · rename_i hempty
        cases h
        rw [List.isEmpty_iff] at hempty
        use lineHooks_dueHooks ..
        rw [varsHooks_dueHooks, dueHooks_eq, dues, hempty, duesOf, List.append_nil, readings,
          statements, List.map_nil, List.append_nil, endOf, List.getLast?_nil, Option.map_none,
          Option.getD_none]
        simp only [Due.report_nil, List.Perm.refl]
      · cases h
  | cons t ts ih =>
      obtain ⟨q, written, more, hstep, hrun, rfl⟩ := run_cons h
      obtain ⟨hlines, hvars⟩ := step_reports hstep (endOf t.stop ts) (q.readings ts)
      obtain ⟨ihlines, ihvars⟩ := ih hrun
      have hstarts : (p.reading t ts).starts = p.starts t := rfl
      rw [readings_cons hstep, endOf_cons]
      constructor
      · rw [lineHooks_append, hlines, ihlines, List.filter_cons, hstarts]
        split
        · rfl
        · rfl
      · rw [varsHooks_append, map_insertion_statements_cons, ← List.append_assoc]
        apply (ihvars.append_left _).trans
        rw [← List.append_assoc]
        apply hvars.append_right

/-- A run that succeeds reads all tokens. -/
theorem map_token_readings {stop : Nat} {ts : List Token} (h : p.run stop ts = .ok hooks) :
  (p.readings ts).map Reading.token = ts
  := by
  induction ts generalizing p stop hooks with
  | nil => rfl
  | cons t ts ih =>
      obtain ⟨q, _, _, hstep, hrun, -⟩ := run_cons h
      rw [readings_cons hstep, List.map_cons, ih hrun]
      rfl

/-- The depth of a token is one more than the number of brackets that are open in front of it. -/
theorem depth_reading {stop : Nat} {ts : List Token} (h : p.run stop ts = .ok hooks)
    {before behind : List Reading} {r : Reading} (hr : p.readings ts = before ++ r :: behind) :
  ∃ stack, follow p.brackets ((before.map Reading.token).flatMap Token.sides) = some stack
    ∧ r.depth = stack.length + 1
  := by
  induction ts generalizing p stop hooks before with
  | nil =>
      cases before with
      | nil => cases hr
      | cons _ _ => cases hr
  | cons t ts ih =>
      obtain ⟨q, _, _, hstep, hrun, -⟩ := run_cons h
      rw [readings_cons hstep] at hr
      cases before with
      | nil =>
          cases hr
          use p.brackets, rfl
          rw [length_brackets]
          rfl
      | cons r0 before =>
          rw [List.cons_append, List.cons.injEq] at hr
          obtain ⟨rfl, hr⟩ := hr
          have hbrackets := brackets_of_step hstep
          rw [List.map_cons, List.flatMap_cons, follow_append, reading, hbrackets]
          apply ih hrun hr

/-- A token that begins a statement is no mark. -/
theorem kind_of_mem_readings {ts : List Token} :
  ∀ r ∈ p.readings ts, r.starts = true → r.token.kind ≠ .mark
  := by
  induction ts generalizing p with
  | nil =>
      intro r hr
      cases hr
  | cons t ts ih =>
      rw [readings, List.forall_mem_cons]
      constructor
      · apply kind_of_starts
      · split
        · intro r hr
          cases hr
        · apply ih

end Planner

/-! ### Places of hooks -/

theorem eq_append_of_mem_statements {rs : List Reading} {s : Statement} (h : s ∈ statements rs) :
  ∃ before r, rs = before ++ r :: s.behind ∧ r.token = s.first ∧ r.starts = true
  := by
  induction rs with
  | nil => cases h
  | cons r rs ih =>
      rw [statements, List.mem_append, Option.mem_toList, Option.map_eq_some_iff] at h
      obtain ⟨d, hd, rfl⟩ | h := h
      · use [], r, rfl, rfl
        rw [Reading.due?] at hd
        split at hd
        · assumption
        · cases hd
      · obtain ⟨before, r', rfl, hr'⟩ := ih h
        exact ⟨r :: before, r', rfl, hr'⟩

/-- What is read behind the beginning of a statement is a part of all that is read. -/
theorem behind_of_mem_statements {rs : List Reading} {stop : Nat}
    (hpairwise : rs.Pairwise fun r r' => r.token.stop ≤ r'.token.start)
    (hstop : ∀ r ∈ rs, r.token.stop ≤ stop) {s : Statement} (hs : s ∈ statements rs) :
  s.first.stop ≤ stop ∧ (∀ r ∈ s.behind, s.first.stop ≤ r.token.start ∧ r ∈ rs)
    ∧ s.behind.Pairwise fun r r' => r.token.stop ≤ r'.token.start
  := by
  obtain ⟨before, r, rfl, hfirst, -⟩ := eq_append_of_mem_statements hs
  obtain ⟨-, hrest, -⟩ := List.pairwise_append.mp hpairwise
  rw [List.pairwise_cons] at hrest
  rw [← hfirst]
  use hstop r (List.mem_append_right _ List.mem_cons_self)
  constructor
  · intro r' hr'
    exact ⟨hrest.1 r' hr', List.mem_append_right _ (List.mem_cons_of_mem _ hr')⟩
  · exact hrest.2

/-- Tokens do not reach beyond the end of the last one. -/
theorem stop_le_endOf {previous : Option Token} {ts : List Token} (h : Linked previous ts)
    (stop : Nat) :
  ∀ t ∈ ts, t.stop ≤ endOf stop ts
  := by
  induction ts generalizing previous stop with
  | nil =>
      intro t ht
      cases ht
  | cons t ts ih =>
      rw [endOf_cons, List.forall_mem_cons]
      constructor
      · cases ts with
        | nil => apply Nat.le_refl
        | cons u ts =>
            have hle := ih h.2 t.stop u List.mem_cons_self
            have hapart := h.2.1.apart t rfl
            have hpos := h.2.1.pos
            omega
      · apply ih h.2

namespace Statement

variable {s : Statement} {stop : Nat}

/-- The hook of a statement stands behind its first token. -/
theorem le_written (hstop : s.first.stop ≤ stop)
    (hbehind : ∀ r ∈ s.behind, s.first.stop ≤ r.token.start ∧ r.token.start < r.token.stop) :
  s.first.stop ≤ (s.written stop).1
  := by
  rw [written, Due.place]
  cases hending : s.ending? s.behind with
  | none => exact hstop
  | some r =>
      obtain ⟨hle, hlt⟩ := hbehind r (List.mem_of_find?_eq_some hending)
      simp only
      split
      · omega
      · exact hle

/-- The hook of a statement stands no further than the end of the last token. -/
theorem written_le (hbehind : ∀ r ∈ s.behind, r.token.start < r.token.stop ∧ r.token.stop ≤ stop) :
  (s.written stop).1 ≤ stop
  := by
  rw [written, Due.place]
  cases hending : s.ending? s.behind with
  | none => apply Nat.le_refl
  | some r =>
      obtain ⟨hlt, hle⟩ := hbehind r (List.mem_of_find?_eq_some hending)
      simp only
      split
      · exact hle
      · omega

/-- The hook of a statement stands no further than the next statement of the block and the end of
the block. -/
theorem written_le_limit
    (hbehind : s.behind.Pairwise fun r r' => r.token.stop ≤ r'.token.start)
    (hpos : ∀ r ∈ s.behind, r.token.start < r.token.stop)
    (hkind : ∀ r ∈ s.behind, r.starts = true → r.token.kind ≠ .mark) :
  ∀ r ∈ s.limit?, (s.written stop).1 ≤ r.token.start
  := by
  intro r hr
  have hmem := List.mem_of_find?_eq_some hr
  have hlimit := List.find?_some hr
  rw [Bool.and_eq_true, Bool.or_eq_true, Token.isMark_eq_true, List.mem_singleton] at hlimit
  have hended : s.isEndedBy r = true := by
    rw [Due.isEndedBy, hlimit.1, Bool.true_and, Bool.or_eq_true, Token.isMark_eq_true]
    obtain hstarts | ⟨hmark, htext⟩ := hlimit.2
    · exact .inl hstarts
    · right
      rw [htext]
      exact ⟨hmark, by decide⟩
  have hsemicolon : r.token.isMark [";"] = false := by
    rw [Bool.eq_false_iff, Ne, Token.isMark_eq_true, List.mem_singleton]
    rintro ⟨hmark, htext⟩
    obtain hstarts | ⟨-, hbrace⟩ := hlimit.2
    · apply hkind r hmem hstarts hmark
    · rw [htext] at hbrace
      revert hbrace
      decide
  cases hending : s.ending? s.behind with
  | none =>
      exfalso
      apply List.find?_eq_none.mp hending r hmem hended
  | some r' =>
      obtain ⟨-, front, rest, heq, hfront⟩ := List.find?_eq_some_iff_append.mp hending
      -- The limit ends the statement, so that it is not in front of the first token that does.
      have hle : r' = r ∨ r'.token.stop ≤ r.token.start := by
        rw [heq] at hmem hbehind
        rw [List.mem_append, List.mem_cons] at hmem
        obtain hfirst | rfl | hlater := hmem
        · have hnot := hfront r hfirst
          rw [hended] at hnot
          cases hnot
        · exact .inl rfl
        · right
          apply (List.pairwise_cons.mp (List.pairwise_append.mp hbehind).2.1).1 r hlater
      rw [written, Due.place, hending]
      simp only
      obtain rfl | hle := hle
      · rw [hsemicolon]
        apply Nat.le_refl
      · have hlt := hpos r' (List.mem_of_find?_eq_some hending)
        split
        · exact hle
        · omega

end Statement

/-- The hooks of a plan account for the statements among the tokens.

* All tokens are read, and the depth of a token is one more than the number of brackets that are
  open in front of it.
* There is one line hook for each token that begins a statement, at its start and with its line.
* There is one variable hook for each statement that declares variables or assigns to a name.  It
  lists each of the names once.  It stands behind the first token of the statement, and no further
  than the next statement of the same block, the brace that closes the block, and the end of the
  last token. -/
structure Accounts (tokens : List Token) (hooks : List Insertion) : Prop where
  read : (readings tokens).map Reading.token = tokens
  depth : ∀ before r behind, readings tokens = before ++ r :: behind →
    ∃ stack, follow [] ((before.map Reading.token).flatMap Token.sides) = some stack
      ∧ r.depth = stack.length + 1
  lines : (lineHooks hooks).map Insertion.written
    = ((readings tokens).filter Reading.starts).map
        fun r => (r.token.start, hookName ++ ".line(" ++ toString r.token.line ++ ");")
  vars : ((varsHooks hooks).map Insertion.written).Perm
    ((statements (readings tokens)).map (Statement.written (endOf 0 tokens)))
  listed : ∀ s ∈ statements (readings tokens), s.listed.Nodup
  behind : ∀ s ∈ statements (readings tokens), s.first.stop ≤ (s.written (endOf 0 tokens)).1
  limit : ∀ s ∈ statements (readings tokens), ∀ r ∈ s.limit?,
    (s.written (endOf 0 tokens)).1 ≤ r.token.start
  stop : ∀ s ∈ statements (readings tokens), (s.written (endOf 0 tokens)).1 ≤ endOf 0 tokens

/-- The hooks that are planned for a text account for its statements. -/
theorem plan_accounts {source : List Char} {tokens : List Token} {hooks : List Insertion}
    (hscan : scan source = .ok tokens) (hplan : plan tokens = .ok hooks) :
  Accounts tokens hooks
  := by
  rw [plan] at hplan
  have hlinked := linked_of_scan hscan
  have hread : (readings tokens).map Reading.token = tokens := Planner.map_token_readings hplan
  obtain ⟨hlines, hvars⟩ := Planner.run_reports hplan
  have hnone : ({ inner := openBlock tokens 0 } : Planner).dues = [] := rfl
  rw [hnone, List.map_nil, List.nil_append] at hvars
  have hpos : ∀ r ∈ readings tokens, r.token.start < r.token.stop := by
    intro r hr
    apply hlinked.pos
    rw [← hread]
    apply List.mem_map_of_mem hr
  have hstop : ∀ r ∈ readings tokens, r.token.stop ≤ endOf 0 tokens := by
    intro r hr
    apply stop_le_endOf hlinked
    rw [← hread]
    apply List.mem_map_of_mem hr
  have hpairwise : (readings tokens).Pairwise fun r r' => r.token.stop ≤ r'.token.start := by
    rw [← List.pairwise_map (R := fun t u : Token => t.stop ≤ u.start), hread]
    apply hlinked.pairwise
  have hsuffix {s : Statement} (hs : s ∈ statements (readings tokens)) :=
    behind_of_mem_statements hpairwise hstop hs
  constructor
  · exact hread
  · intro before r behind hr
    apply Planner.depth_reading hplan hr
  · rw [hlines, List.map_map]
    rfl
  · apply (hvars.map Insertion.written).trans
    rw [List.map_map]
    rfl
  · intro s _
    apply nodup_eraseDups
  · intro s hs
    obtain ⟨hend, hbehind, -⟩ := hsuffix hs
    apply Statement.le_written hend
    intro r hr
    exact ⟨(hbehind r hr).1, hpos r (hbehind r hr).2⟩
  · intro s hs
    obtain ⟨-, hbehind, hpairwise⟩ := hsuffix hs
    apply Statement.written_le_limit hpairwise
    · intro r hr
      apply hpos r (hbehind r hr).2
    · intro r hr
      apply Planner.kind_of_mem_readings r (hbehind r hr).2
  · intro s hs
    obtain ⟨-, hbehind, -⟩ := hsuffix hs
    apply Statement.written_le
    intro r hr
    exact ⟨hpos r (hbehind r hr).2, hstop r (hbehind r hr).2⟩

/-- A statement that is still going on while two statements of an inner block begin and end. -/
def nestedStatements : List Char := "f = () => \x7b let x, y; x++ \x7d\ng = 2".toList

/-- The tokens of the statements. -/
def nestedTokens : List Token :=
  [⟨.identifier, "f", 0, 1, 1⟩, ⟨.mark, "=", 2, 3, 1⟩, ⟨.mark, "(", 4, 5, 1⟩, ⟨.mark, ")", 5, 6, 1⟩,
    ⟨.mark, "=>", 7, 9, 1⟩, ⟨.mark, "\x7b", 10, 11, 1⟩, ⟨.identifier, "let", 12, 15, 1⟩,
    ⟨.identifier, "x", 16, 17, 1⟩, ⟨.mark, ",", 17, 18, 1⟩, ⟨.identifier, "y", 19, 20, 1⟩,
    ⟨.mark, ";", 20, 21, 1⟩, ⟨.identifier, "x", 22, 23, 1⟩, ⟨.mark, "++", 23, 25, 1⟩,
    ⟨.mark, "\x7d", 26, 27, 1⟩, ⟨.identifier, "g", 28, 29, 2⟩, ⟨.mark, "=", 30, 31, 2⟩,
    ⟨.number, "2", 32, 33, 2⟩]

/-- The hooks of the statements. -/
def nestedHooks : List Insertion :=
  [⟨0, .line 1⟩, ⟨12, .line 1⟩, ⟨21, .vars false ["x", "y"] 1⟩, ⟨22, .line 1⟩,
    ⟨26, .vars true ["x"] 1⟩, ⟨28, .vars true ["f"] 1⟩, ⟨28, .line 2⟩, ⟨33, .vars true ["g"] 2⟩]

/-- The hook of the first statement stands behind those of the inner block. -/
theorem plan_accounts_nested :
  scan nestedStatements = .ok nestedTokens ∧ plan nestedTokens = .ok nestedHooks
    ∧ Accounts nestedTokens nestedHooks
    ∧ (statements (readings nestedTokens)).map (fun s => (s.listed, (s.written 33).1))
      = [(["f"], 28), (["x", "y"], 21), (["x"], 26), (["g"], 33)]
  := by
  have hscan : scan nestedStatements = .ok nestedTokens := by decide +kernel
  have hplan : plan nestedTokens = .ok nestedHooks := by decide
  exact ⟨hscan, hplan, plan_accounts hscan hplan, by decide⟩

end SnippetProfiler.Braced
