import SnippetProfiler.Indented.Grammar.Statement
import SnippetProfiler.Proofs.Indented.Plain

/-!
# Running readers

What the readers of single tokens, their sequences and their repetitions do on a list of tokens.

`Read.Yields P p` says of a reader that all it reads from plain tokens is `P`.  As a reader leaves the
end of the list as it is, the tokens behind it are plain again, so that the property is found by going
through the parts of the reader in their order.
-/

namespace SnippetProfiler.Indented.Read

variable {α β : Type} {p q : Read α} {f : α → Read β} {x : α} {t : Token} {ts rest : List Token}

/-! ### Sequences -/

@[simp]
theorem run_pure (x : α) (ts : List Token) :
  (pure x : Read α).run ts = some (x, ts)
  := rfl

@[simp]
theorem run_bind (p : Read α) (f : α → Read β) (ts : List Token) :
  (p >>= f).run ts = (p.run ts).bind fun (x, rest) => (f x).run rest
  := rfl

@[simp]
theorem run_map (g : α → β) (p : Read α) (ts : List Token) :
  (g <$> p).run ts = (p.run ts).map fun (x, rest) => (g x, rest)
  := Option.map_eq_bind.symm

@[simp]
theorem run_fail (ts : List Token) :
  (fail : Read α).run ts = none
  := rfl

@[simp]
theorem run_look (x : List Token → α) (ts : List Token) :
  (look x).run ts = some (x ts, ts)
  := rfl

@[simp]
theorem run_liftM_some (x : α) (ts : List Token) :
  (liftM (some x) : Read α).run ts = some (x, ts)
  := rfl

theorem run_mapM_singleton {y : β} (h : (f x).run ts = some (y, rest)) :
  ([x].mapM f).run ts = some ([y], rest)
  := by
  change ((f x).run ts).bind _ = _
  rw [h]
  rfl

/-! ### Single tokens -/

@[simp]
theorem run_peek (t : Token) (ts : List Token) :
  peek.run (t :: ts) = some (t.lexeme, t :: ts)
  := rfl

@[simp]
theorem run_line (t : Token) (ts : List Token) :
  line.run (t :: ts) = some (t.line, t :: ts)
  := rfl

@[simp]
theorem run_remaining (ts : List Token) :
  remaining.run ts = some (ts.length, ts)
  := rfl

theorem run_token_self (x : Lexeme) (l : Nat) (ts : List Token) :
  (token x).run (⟨x, l⟩ :: ts) = some ((), ts)
  := by simp only [token, single, if_true, Option.map_some]

theorem run_token_of_ne {x : Lexeme} (h : t.lexeme ≠ x) (ts : List Token) :
  (token x).run (t :: ts) = none
  := by simp only [token, single, h, if_false, Option.map_none]

@[simp]
theorem run_sees (x : Lexeme) (t : Token) (ts : List Token) :
  (sees x).run (t :: ts) = some (decide (t.lexeme = x), t :: ts)
  := rfl

/-! ### Alternatives and repetitions -/

theorem run_either_of_none (h : p.run ts = none) (q : Read α) :
  (either p q).run ts = q.run ts
  := by simp only [either, h]

theorem run_either_of_some (h : p.run ts = some (x, rest)) (q : Read α) :
  (either p q).run ts = some (x, rest)
  := by simp only [either, h]

theorem run_optional_of_none (h : p.run ts = none) :
  (optional p).run ts = some (none, ts)
  := run_either_of_none (by rw [run_map, h, Option.map_none]) _

theorem run_optional_of_some (h : p.run ts = some (x, rest)) :
  (optional p).run ts = some (some x, rest)
  := run_either_of_some (by rw [run_map, h, Option.map_some]) _

theorem run_skipOp_of_ne {symbol : String} (h : t.lexeme ≠ .op symbol) (ts : List Token) :
  (skipOp symbol).run (t :: ts) = some (false, t :: ts)
  := by
  rw [skipOp, op, run_map, run_optional_of_none (run_token_of_ne h ts)]
  rfl

theorem run_skipKeyword_of_ne {word : String} (h : t.lexeme ≠ .keyword word) (ts : List Token) :
  (skipKeyword word).run (t :: ts) = some (false, t :: ts)
  := by
  rw [skipKeyword, keyword, run_map, run_optional_of_none (run_token_of_ne h ts)]
  rfl

theorem run_upTo_of_none (h : p.run ts = none) (n : Nat) :
  (upTo p n).run ts = some ([], ts)
  := by
  cases n with
  | zero => rfl
  | succ n =>
      rw [upTo, run_bind, run_optional_of_none h]
      rfl

theorem run_many_of_none (h : p.run ts = none) :
  (many p).run ts = some ([], ts)
  := run_upTo_of_none h _

theorem run_many_one (h : p.run (t :: ts) = some (x, rest)) (hrest : p.run rest = none) :
  (many p).run (t :: ts) = some ([x], rest)
  := by
  rw [many, run_bind, run_remaining, Option.bind_some, List.length_cons]
  dsimp only
  rw [upTo, run_bind, run_optional_of_some h, Option.bind_some]
  dsimp only
  rw [run_bind, run_upTo_of_none hrest]
  rfl

/-- Reads item after item.  What follows an item, be it the next one or the end, is such that the item
can be read in front of it. -/
theorem run_many_flatMap {γ : Type} (Follows : List Token → Prop) {tokens : γ → List Token}
    {value : γ → α} {items : List γ}
    (hitem : ∀ i ∈ items, ∀ rest, Follows rest → p.run (tokens i ++ rest) = some (value i, rest))
    (hne : ∀ i, tokens i ≠ []) (hfollows : ∀ i, ∀ rest, Follows (tokens i ++ rest))
    (hrest : Follows rest) (hend : p.run rest = none) :
  (many p).run (items.flatMap tokens ++ rest) = some (items.map value, rest)
  := by
  have hlength : items.length ≤ (items.flatMap tokens ++ rest).length := by
    clear hitem
    induction items with
    | nil => exact Nat.zero_le _
    | cons i items ih =>
        have hpos := List.length_pos_iff.mpr (hne i)
        rw [List.flatMap_cons, List.append_assoc, List.length_append, List.length_cons]
        omega
  rw [many, run_bind, run_remaining, Option.bind_some]
  dsimp only
  generalize (items.flatMap tokens ++ rest).length = n at hlength
  induction items generalizing n with
  | nil => exact run_upTo_of_none hend n
  | cons i items ih =>
      rw [List.forall_mem_cons] at hitem
      obtain ⟨n, rfl⟩ : ∃ m, n = m + 1 := ⟨n - 1, by rw [List.length_cons] at hlength; omega⟩
      have hnext : Follows (items.flatMap tokens ++ rest) := by
        cases items with
        | nil => exact hrest
        | cons j items =>
            rw [List.flatMap_cons, List.append_assoc]
            exact hfollows j _
      rw [List.flatMap_cons, List.append_assoc, upTo, run_bind,
        run_optional_of_some (hitem.1 _ hnext), Option.bind_some]
      dsimp only
      rw [run_bind, ih hitem.2 n (Nat.le_of_succ_le_succ hlength), Option.bind_some]
      rfl

/-! ### What readers yield -/

/-- All that a reader reads from plain tokens has a property. -/
def Yields (P : α → Prop) (p : Read α) : Prop :=
  ∀ ts x rest, Token.ArePlain ts → p.run ts = some (x, rest) → P x

variable {P : α → Prop} {Q : β → Prop}

/-- What a reader leaves of plain tokens is plain. -/
theorem arePlain_rest (hts : Token.ArePlain ts) (h : p.run ts = some (x, rest)) :
  Token.ArePlain rest
  := fun t ht => hts t ((p.isSuffix h).subset ht)

theorem Yields.pure (h : P x) :
  Yields P (Pure.pure x)
  := by
  rintro ts _ _ - ⟨⟩
  exact h

theorem Yields.fail :
  Yields P Read.fail
  := by
  rintro ts _ _ - ⟨⟩

theorem Yields.bind (hp : Yields P p) (hf : ∀ x, P x → Yields Q (f x)) :
  Yields Q (p >>= f)
  := by
  intro ts y rest hts h
  obtain ⟨⟨x, middle⟩, hrun, h⟩ := Option.bind_eq_some_iff.mp h
  exact hf x (hp ts x middle hts hrun) middle y rest (arePlain_rest hts hrun) h

/-- What is read last decides. -/
theorem Yields.after (hf : ∀ x, Yields Q (f x)) :
  Yields Q (p >>= f)
  := Yields.bind (P := fun _ => True) (fun _ _ _ _ _ => trivial) fun x _ => hf x

theorem Yields.map {g : α → β} (hp : Yields P p) (hg : ∀ x, P x → Q (g x)) :
  Yields Q (g <$> p)
  := hp.bind fun x hx => .pure (hg x hx)

theorem Yields.either (hp : Yields P p) (hq : Yields P q) :
  Yields P (Read.either p q)
  := by
  intro ts x rest hts h
  cases hrun : p.run ts with
  | none =>
      rw [run_either_of_none hrun] at h
      exact hq ts x rest hts h
  | some result =>
      obtain ⟨y, middle⟩ := result
      rw [run_either_of_some hrun] at h
      cases h
      exact hp ts x rest hts hrun

theorem Yields.optional (hp : Yields P p) :
  Yields (fun x? => ∀ x, x? = some x → P x) (Read.optional p)
  := by
  refine .either (hp.map fun x hx => ?_) (.pure nofun)
  rintro _ ⟨⟩
  exact hx

theorem Yields.upTo (hp : Yields P p) (n : Nat) :
  Yields (fun xs => ∀ x ∈ xs, P x) (Read.upTo p n)
  := by
  induction n with
  | zero => exact .pure (fun _ => nofun)
  | succ n ih =>
      refine hp.optional.bind fun x? hx => ?_
      cases x? with
      | none => exact .pure (fun _ => nofun)
      | some x => exact ih.bind fun xs hxs => .pure (List.forall_mem_cons.mpr ⟨hx x rfl, hxs⟩)

theorem Yields.many (hp : Yields P p) :
  Yields (fun xs => ∀ x ∈ xs, P x) (Read.many p)
  := .after hp.upTo

theorem Yields.separated (hp : Yields P p) :
  Yields (fun xs => ∀ x ∈ xs, P x) (Read.separated p)
  := hp.bind fun _ hx => (Yields.after fun _ => hp).many.bind fun _ hxs =>
    .pure (List.forall_mem_cons.mpr ⟨hx, hxs⟩)

theorem Yields.listed (hp : Yields P p) :
  Yields (fun result => ∀ x ∈ result.1, P x) (Read.listed p)
  := hp.separated.bind fun _ hxs => .after fun _ => .pure hxs

theorem Yields.mapM {xs : List α} (hf : ∀ x ∈ xs, Yields Q (f x)) :
  Yields (fun ys => ∀ y ∈ ys, Q y) (xs.mapM f)
  := by
  have hloop (ys : List β) (hys : ∀ y ∈ ys, Q y) :
      Yields (fun ys => ∀ y ∈ ys, Q y) (List.mapM.loop f xs ys) := by
    induction xs generalizing ys with
    | nil => exact .pure fun y hy => hys y (List.mem_reverse.mp hy)
    | cons x xs ih =>
        rw [List.forall_mem_cons] at hf
        exact hf.1.bind fun y hy => ih hf.2 (y :: ys) (List.forall_mem_cons.mpr ⟨hy, hys⟩)
  exact hloop [] (fun _ => nofun)

end SnippetProfiler.Indented.Read
