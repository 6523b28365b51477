import SnippetProfiler.Proofs.Braced.Pieces

/-!
# The tokens of a scan

`Scans` derives the tokens of a text piece by piece; it is the graph of `scanFrom`.  From the
derivation we read off how two tokens can stand one behind the other.

* They do not overlap, and they are on the same line if they touch, unless the first one may
  contain newlines.
* A regular expression stands only where one is expected.
* An identifier is a word.
-/

namespace SnippetProfiler.Braced

/-! ### Derivations -/

/-- From a spot on, a text is cut into tokens. -/
inductive Scans : Spot → List Char → List Token → Prop
  | done {s : Spot} (h : s.openings = []) : Scans s [] []
  | gap {s : Spot} {c : Char} {cs : List Char} {n k : Nat} {ts : List Token}
      (h : Begins s c cs (.gap n k)) (htail : Scans (s.skip (n + 1) k) (cs.drop n) ts) :
      Scans s (c :: cs) ts
  | lexeme {s : Spot} {c : Char} {cs : List Char} {kind : TokenKind} {n k : Nat}
      {ts : List Token} (h : Begins s c cs (.lexeme kind n k))
      (htail : Scans (s.pass (s.token kind (c :: cs.take n) k) k) (cs.drop n) ts) :
      Scans s (c :: cs) (s.token kind (c :: cs.take n) k :: ts)

theorem scans_of_scanFrom {s : Spot} {cs : List Char} {ts : List Token}
    (h : scanFrom s cs = .ok ts) :
  Scans s cs ts
  := by
  fun_induction scanFrom s cs generalizing ts with
  | case1 s hopen =>
      cases h
      apply Scans.done (List.isEmpty_iff.mp hopen)
  | case2 => cases h
  | case3 => cases h
  | case4 s c cs n k hp ih => apply Scans.gap (readPiece_eq_ok.mp hp) (ih h)
  | case5 => cases h
  | case6 s c cs kind n k hp t ts' htail =>
      rename_i ih
      cases h
      apply Scans.lexeme (readPiece_eq_ok.mp hp) (ih htail)

theorem Scans.scanFrom {s : Spot} {cs : List Char} {ts : List Token} (h : Scans s cs ts) :
  scanFrom s cs = .ok ts
  := by
  induction h with
  | done h =>
      rw [Braced.scanFrom, h]
      rfl
  | gap h _ ih =>
      rw [Braced.scanFrom, h.readPiece]
      exact ih
  | lexeme h _ ih =>
      rw [Braced.scanFrom, h.readPiece]
      simp only [ih]

/-- The tokens that a scan gives are those that are derived. -/
theorem scanFrom_eq_ok {s : Spot} {cs : List Char} {ts : List Token} :
  scanFrom s cs = .ok ts ↔ Scans s cs ts
  := ⟨scans_of_scanFrom, Scans.scanFrom⟩

/-! ### Tokens behind one another -/

/-- The characters of an identifier. -/
def IsWord (w : List Char) : Prop :=
  ∃ c cs, w = c :: cs ∧ Text.isBlank c = false ∧ startsIdentifier c = true
    ∧ ∀ d ∈ cs, continuesIdentifier d = true

/-- A scan can read the token `t` when it has read the token `previous` before. -/
structure Token.Follows (previous : Option Token) (t : Token) : Prop where
  pos : t.start < t.stop
  apart : ∀ q ∈ previous, q.stop ≤ t.start
  line : t.kind = .identifier → ∀ q ∈ previous, q.stop = t.start → q.kind ≠ .text →
    q.kind ≠ .template → t.line = q.line
  slash : t.text.toList.head? = some '/' → t.kind = .mark ∨ regexAfter previous = true
  quote : t.kind = .text → t.text.toList.head? ≠ some '/'
  word : t.kind = .identifier → IsWord t.text.toList
  semicolon : t.text = ";" → t.kind = .mark

/-- Each token of a list can be read when the one before it has been read. -/
def Linked : Option Token → List Token → Prop
  | _, [] => True
  | previous, t :: ts => t.Follows previous ∧ Linked (some t) ts

/-- A spot is behind its last token, and on the line of that token when it touches it. -/
def Spot.IsBehind (s : Spot) : Prop :=
  ∀ q ∈ s.previous, q.stop ≤ s.position
    ∧ (q.stop = s.position → q.kind ≠ .text → q.kind ≠ .template → q.line = s.line)

theorem Spot.IsBehind.skip {s : Spot} (hs : s.IsBehind) (n k : Nat) :
  (s.skip (n + 1) k).IsBehind
  := by
  intro q hq
  have hle := (hs q hq).1
  simp only [Spot.skip]
  constructor
  · omega
  · intro h
    omega

theorem Begins.lines_eq {s : Spot} {c : Char} {cs : List Char} {kind : TokenKind} {n k : Nat}
    (h : Begins s c cs (.lexeme kind n k)) (htext : kind ≠ .text) (htemplate : kind ≠ .template) :
  k = 0
  := by
  cases h with
  | text => cases htext rfl
  | template => cases htemplate rfl
  | regex => rfl
  | identifier => rfl
  | number => rfl
  | mark => rfl

theorem Begins.isBehind_pass {s : Spot} {c : Char} {cs : List Char} {kind : TokenKind} {n k : Nat}
    (h : Begins s c cs (.lexeme kind n k)) :
  (s.pass (s.token kind (c :: cs.take n) k) k).IsBehind
  := by
  rintro _ ⟨⟩
  constructor
  · apply Nat.le_refl
  · intro _ htext htemplate
    have hk := h.lines_eq htext htemplate
    simp only [Spot.token] at htemplate
    rw [hk, Spot.token, if_neg htemplate]
    rfl

theorem takeWhile_eq_take_runLength (p : Char → Bool) (cs : List Char) :
  cs.take (runLength p cs) = cs.takeWhile p
  := by
  symm
  apply List.prefix_iff_eq_take.mp
  apply List.takeWhile_prefix

theorem not_mem_take_runLength {p : Char → Bool} {d : Char} (hd : p d = false) (cs : List Char) :
  d ∉ cs.take (runLength p cs)
  := by
  rw [takeWhile_eq_take_runLength]
  intro hmem
  rw [List.all_eq_true.mp List.all_takeWhile d hmem] at hd
  cases hd

/-- A token ends behind the last character of its piece. -/
theorem Begins.stop_token {s : Spot} {c : Char} {cs : List Char} {kind : TokenKind} {n k : Nat}
    (h : Begins s c cs (.lexeme kind n k)) :
  (s.token kind (c :: cs.take n) k).stop = s.position + (n + 1)
  := by
  have hn : n ≤ cs.length := h.extra_le
  rw [Spot.token, List.length_cons, List.length_take, Nat.min_eq_left hn]

/-- A token that begins with a slash or a semicolon is a mark, unless it is a regular expression in its
place. -/
theorem Begins.isMark_or_isRegex {s : Spot} {c : Char} {cs : List Char} {kind : TokenKind} {n k : Nat}
    (h : Begins s c cs (.lexeme kind n k)) (hc : c = '/' ∨ c = ';') :
  kind = .mark ∨ (c = '/' ∧ regexAfter s.previous = true)
  := by
  have hstart : startsIdentifier c = false := by
    obtain rfl | rfl := hc <;> rfl
  have hdigit : c.isDigit = false := by
    obtain rfl | rfl := hc <;> rfl
  obtain ⟨h1, h2, h3, h4, h5⟩ : c ≠ '"' ∧ c ≠ '\'' ∧ c ≠ '`' ∧ c ≠ '}' ∧ c ≠ '.' := by
    obtain rfl | rfl := hc <;> decide
  cases h with
  | text hquote => cases hquote.elim h1 h2
  | template hopen => cases hopen.elim h3 fun h => h4 h.1
  | regex hslash _ hprevious => exact .inr ⟨hslash, hprevious⟩
  | identifier _ hword =>
      rw [hstart] at hword
      cases hword
  | number hnumber =>
      obtain hnumber | ⟨hpoint, -⟩ := hnumber
      · rw [hdigit] at hnumber
        cases hnumber
      · cases h5 hpoint
  | mark => exact .inl rfl

/-- What a lexeme makes follows the last token. -/
theorem Begins.follows {s : Spot} {c : Char} {cs : List Char} {kind : TokenKind} {n k : Nat}
    (h : Begins s c cs (.lexeme kind n k)) (hs : s.IsBehind) :
  (s.token kind (c :: cs.take n) k).Follows s.previous
  where
  pos := by
    simp only [Spot.token, List.length_cons]
    omega
  apart q hq := (hs q hq).1
  line hkind q hq hstop htext htemplate := by
    have hne : kind ≠ .template := by
      intro h
      rw [Spot.token, h] at hkind
      cases hkind
    rw [(hs q hq).2 hstop htext htemplate, Spot.token, if_neg hne]
  slash hhead := by
    simp only [Spot.token, String.toList_ofList, List.head?_cons, Option.some.injEq] at hhead ⊢
    subst hhead
    exact (h.isMark_or_isRegex (.inl rfl)).imp_right And.right
  quote hkind := by
    simp only [Spot.token, String.toList_ofList, List.head?_cons] at hkind ⊢
    subst hkind
    rintro ⟨⟩
    cases h with
    | text hc =>
        revert hc
        decide
  word hkind := by
    simp only [Spot.token, String.toList_ofList] at hkind ⊢
    subst hkind
    cases h with
    | identifier hblank hc =>
        use c, cs.take (runLength continuesIdentifier cs), rfl, hblank, hc
        intro d hd
        rw [takeWhile_eq_take_runLength] at hd
        apply List.all_eq_true.mp List.all_takeWhile d hd
  semicolon htext := by
    simp only [Spot.token] at htext ⊢
    have hc : c = ';' := by
      have hchars := congrArg (fun w : String => w.toList.head?) htext
      simp only [String.toList_ofList, List.head?_cons] at hchars
      cases hchars
      rfl
    subst hc
    obtain hmark | ⟨hslash, -⟩ := h.isMark_or_isRegex (.inr rfl)
    · exact hmark
    · cases hslash

/-- The tokens of a scan can be read one after the other. -/
theorem Scans.linked {s : Spot} {cs : List Char} {ts : List Token} (h : Scans s cs ts)
    (hs : s.IsBehind) :
  Linked s.previous ts
  := by
  induction h with
  | done => trivial
  | gap _ _ ih => apply ih (hs.skip _ _)
  | lexeme h _ ih => exact ⟨h.follows hs, ih h.isBehind_pass⟩

/-- No token of a scan stands before the spot where the scan begins. -/
theorem Scans.le_start {s : Spot} {cs : List Char} {ts : List Token} (h : Scans s cs ts) :
  ∀ t ∈ ts, s.position ≤ t.start
  := by
  induction h with
  | done =>
      intro t ht
      cases ht
  | gap _ _ ih =>
      intro t ht
      have hle := ih t ht
      simp only [Spot.skip] at hle
      omega
  | lexeme _ _ ih =>
      intro t ht
      rw [List.mem_cons] at ht
      obtain rfl | ht := ht
      · apply Nat.le_refl
      · have hle := ih t ht
        simp only [Spot.pass, Spot.token] at hle
        omega

/-- Linked tokens are not empty. -/
theorem Linked.pos {previous : Option Token} {ts : List Token} (h : Linked previous ts) :
  ∀ t ∈ ts, t.start < t.stop
  := by
  induction ts generalizing previous with
  | nil =>
      intro t ht
      cases ht
  | cons t ts ih =>
      rw [List.forall_mem_cons]
      exact ⟨h.1.pos, ih h.2⟩

/-- Linked tokens stand behind the token in front of them. -/
theorem Linked.le_start {q : Token} {ts : List Token} (h : Linked (some q) ts) :
  ∀ t ∈ ts, q.stop ≤ t.start
  := by
  induction ts generalizing q with
  | nil =>
      intro t ht
      cases ht
  | cons t ts ih =>
      have hle := h.1.apart q rfl
      have hpos := h.1.pos
      rw [List.forall_mem_cons]
      use hle
      intro u hu
      have hu := ih h.2 u hu
      omega

/-- Linked tokens stand in order and do not overlap. -/
theorem Linked.pairwise {previous : Option Token} {ts : List Token} (h : Linked previous ts) :
  ts.Pairwise fun t u => t.stop ≤ u.start
  := by
  induction ts generalizing previous with
  | nil => apply List.Pairwise.nil
  | cons t ts ih =>
      rw [List.pairwise_cons]
      exact ⟨h.2.le_start, ih h.2⟩

/-- The tokens of a text can be read one after the other. -/
theorem linked_of_scan {source : List Char} {ts : List Token} (h : scan source = .ok ts) :
  Linked none ts
  := by
  have hbehind : Spot.IsBehind { position := shebangLength source } := by rintro _ ⟨⟩
  apply (scans_of_scanFrom h).linked hbehind

end SnippetProfiler.Braced
