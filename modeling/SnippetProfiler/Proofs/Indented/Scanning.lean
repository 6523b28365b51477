import Mathlib.Tactic.Use
import SnippetProfiler.Proofs.Indented.Quoting

/-!
# The tokens of literals

A line that consists of one literal, or of one list of literals, is cut into the tokens that one
expects: a literal is one token, and so is each bracket and each comma of the list.  A literal is scanned
with no regard to what follows it, as long as that is no mark.

Scanning takes fuel, which is counted in steps.  Since each step inside a line takes a character, the
fuel with which `Token.scan` starts is enough.
-/

namespace SnippetProfiler.Indented.Token

open Literal (IsCode marks mark_mem_marks forall_mem_marks)
open Text.Quoted (encodeCodes escape mark)

/-- Inside a line, scanning goes from one state to another and gives some tokens on the way.  It takes
no more steps than characters. -/
def Scans (s : State) (tokens : List Token) (s' : State) : Prop :=
  ∃ steps, steps + s'.rest.length ≤ s.rest.length
    ∧ ∀ fuel, scanFrom (fuel + steps) false false s
        = (scanFrom fuel false false s').map (tokens ++ ·)

/-- A text does not go on with a mark. -/
def IsUnmarked (rest : List Char) : Prop := ∀ q ∈ marks, rest.head? ≠ some q

/-- The characters that stand between the items of a list and around them. -/
def separators : List Char := [',', '[', ']']

/-- The token of a symbol on a line. -/
def ofSymbol (line : Nat) (c : Char) : Token := ⟨.op (.singleton c), line⟩

/-- The token of a literal on a line. -/
def ofLiteral (line : Nat) (codes : List Nat) : Token :=
  ⟨.text false false false false (codes.flatMap (escape (mark codes))), line⟩

variable {s s' s'' : State} {tokens tokens' : List Token} {line : Nat} {widths : List Width}
  {brackets brackets' : List Char} {c : Char} {cs rest : List Char} {codes : List Nat}

theorem Scans.refl (s : State) :
  Scans s [] s
  := by
  use 0, Nat.le_of_eq (Nat.zero_add _)
  intro fuel
  exact Option.map_id'.symm

theorem Scans.trans (h : Scans s tokens s') (h' : Scans s' tokens' s'') :
  Scans s (tokens ++ tokens') s''
  := by
  obtain ⟨m, hm, hscan⟩ := h
  obtain ⟨n, hn, hscan'⟩ := h'
  use n + m
  constructor
  · omega
  · intro fuel
    rw [← Nat.add_assoc, hscan, hscan', Option.map_map]
    congr 1
    funext ts
    exact (List.append_assoc ..).symm

/-! ### Single tokens -/

theorem scans_space :
  Scans ⟨' ' :: rest, line, widths, brackets⟩ [] ⟨rest, line, widths, brackets⟩
  := by
  use 1, Nat.le_of_eq (Nat.add_comm _ _)
  intro fuel
  exact Option.map_id'.symm

/-- A character with which a token can begin. -/
def IsTokenStart (c : Char) : Prop := 32 < c.toNat ∧ c ≠ '#' ∧ c ≠ '\\'

instance : DecidablePred IsTokenStart := fun _ => inferInstanceAs (Decidable (_ ∧ _))

theorem scanFrom_tokenStart (hc : IsTokenStart c) (fuel : Nat) :
  scanFrom (fuel + 1) false false ⟨c :: cs, line, widths, brackets⟩
    = (one (c :: cs)).bind fun (lexeme, rest) =>
        (afterLexeme lexeme brackets).bind fun brackets =>
          (scanFrom fuel false false
            ⟨rest, line + ((c :: cs).take ((c :: cs).length - rest.length)).count '\n', widths,
              brackets⟩).map (⟨lexeme, line⟩ :: ·)
  := by
  obtain ⟨hlt, hcomment, hjoin⟩ := hc
  rw [scanFrom]
  split
  case h_1 h => cases h
  case h_2 h =>
    cases h
    exact absurd hlt (by decide)
  case h_3 h =>
    cases h
    exact absurd rfl hjoin
  case h_4 h =>
    cases h
    exact absurd rfl hcomment
  case h_5 h =>
    cases h
    have hspace : ¬ (decide (c = ' ') || decide (c = '\t') || decide (c = '\x0c')) = true := by
      simp only [Bool.or_eq_true, decide_eq_true_eq]
      rintro ((rfl | rfl) | rfl)
      · exact absurd hlt (by decide)
      · exact absurd hlt (by decide)
      · exact absurd hlt (by decide)
    rw [if_neg hspace]
    rfl

/-- A token that is next is scanned, if it has no line break in it. -/
theorem scans_one {passed : List Char} {lexeme : Lexeme}
    (hone : one (c :: passed ++ rest) = some (lexeme, rest))
    (hafter : afterLexeme lexeme brackets = some brackets')
    (hc : IsTokenStart c) (hpassed : '\n' ∉ passed) :
  Scans ⟨c :: passed ++ rest, line, widths, brackets⟩ [⟨lexeme, line⟩]
    ⟨rest, line, widths, brackets'⟩
  := by
  use 1
  constructor
  · simp only [List.length_append, List.length_cons]
    omega
  · intro fuel
    have htake : (c :: passed ++ rest).take ((c :: passed ++ rest).length - rest.length)
        = c :: passed := by
      rw [List.length_append, Nat.add_sub_cancel, List.take_left]
    have hcount : (c :: passed).count '\n' = 0 := by
      rw [List.count_eq_zero, List.mem_cons, not_or]
      refine ⟨?_, hpassed⟩
      rintro rfl
      exact absurd hc.1 (by decide)
    rw [List.cons_append, scanFrom_tokenStart hc, ← List.cons_append, hone, Option.bind_some]
    simp only [hafter, Option.bind_some, htake, hcount, Nat.add_zero]
    rfl

/-- What holds of all separators, one by one, holds of each. -/
theorem forall_mem_separators {P : Char → Prop} (hcomma : P ',') (hopening : P '[') (hclosing : P ']') :
  ∀ c ∈ separators, P c
  := List.forall_mem_cons.mpr
    ⟨hcomma, List.forall_mem_cons.mpr ⟨hopening, List.forall_mem_singleton.mpr hclosing⟩⟩

theorem symbolToken_separator (hc : c ∈ separators) :
  symbolToken (c :: rest) = some (.op (.singleton c), rest)
  := by
  have hall : ∀ c ∈ separators, symbols1.contains c = true
      ∧ ∀ symbol ∈ symbols3 ++ symbols2, symbol.toList.head? ≠ some c :=
    forall_mem_separators (by decide) (by decide) (by decide)
  obtain ⟨hsingle, hheads⟩ := hall c hc
  have hlong (n : Nat) {symbols : List String} (hsub : symbols ⊆ symbols3 ++ symbols2) :
      ¬ symbols.contains (.ofList ((c :: rest).take (n + 1))) = true := by
    intro h
    apply hheads _ (hsub (List.contains_iff_mem.mp h))
    rw [String.toList_ofList]
    rfl
  simp only [symbolToken]
  rw [if_neg (hlong 2 (List.subset_append_left _ _)),
    if_neg (hlong 1 (List.subset_append_right _ _)), if_pos hsingle]

theorem scans_separator (hc : c ∈ separators)
    (hafter : afterSymbol (.singleton c) brackets = some brackets') :
  Scans ⟨c :: rest, line, widths, brackets⟩ [ofSymbol line c] ⟨rest, line, widths, brackets'⟩
  := by
  have hall : ∀ c ∈ separators, IsTokenStart c ∧ (isNameStart c || isQuote c) = false
      ∧ c.isDigit = false ∧ c ≠ '.' := forall_mem_separators (by decide) (by decide) (by decide)
  obtain ⟨hstart, hname, hdigit, hpoint⟩ := hall c hc
  have hone : one (c :: [] ++ rest) = some (.op (.singleton c), rest) := by
    simp only [List.cons_append, List.nil_append, one, hname, hdigit, hpoint, decide_false,
      Bool.false_and, Bool.or_false, Bool.false_eq_true, if_false]
    exact symbolToken_separator hc
  exact scans_one hone hafter hstart List.not_mem_nil

theorem isUnmarked_newline :
  IsUnmarked ('\n' :: rest)
  := by
  have hall : '\n' ∉ marks := by decide
  intro q hq h
  cases h
  exact hall hq

theorem isUnmarked_separator (hc : c ∈ separators) :
  IsUnmarked (c :: rest)
  := by
  have hall : ∀ c ∈ separators, c ∉ marks :=
    forall_mem_separators (by decide) (by decide) (by decide)
  intro q hq h
  cases h
  exact hall c hc hq

theorem scans_literal (hcodes : ∀ n ∈ codes, IsCode n) (hrest : IsUnmarked rest) :
  Scans ⟨encodeCodes codes ++ rest, line, widths, brackets⟩ [ofLiteral line codes]
    ⟨rest, line, widths, brackets⟩
  := by
  have hmark := mark_mem_marks codes
  have hall : ∀ q ∈ marks, IsTokenStart q ∧ (isNameStart q || isQuote q) = true :=
    forall_mem_marks (by decide) (by decide)
  obtain ⟨hstart, hquote⟩ := hall _ hmark
  have hnewline : '\n' ∉ codes.flatMap (escape (mark codes)) ++ [mark codes] := by
    intro h
    exact absurd (le_toNat_of_mem_encodeCodes hcodes (List.mem_cons_of_mem _ h)) (by decide)
  have htoken := textToken_encodeCodes hcodes (hrest _ hmark)
  have hone : one (encodeCodes codes ++ rest) = some ((ofLiteral line codes).lexeme, rest) := by
    rw [encodeCodes, List.cons_append, List.cons_append] at htoken ⊢
    simp only [one, hquote, if_true, htoken]
    rfl
  exact scans_one hone rfl hstart hnewline

/-! ### Lists of literals -/

/-- The items of a list behind the first one, as they are written. -/
def furtherItems (texts : List (List Nat)) : List Char :=
  texts.flatMap fun codes => ',' :: ' ' :: encodeCodes codes

/-- The tokens of the items of a list behind the first one. -/
def furtherTokens (line : Nat) (texts : List (List Nat)) : List Token :=
  texts.flatMap fun codes => [ofSymbol line ',', ofLiteral line codes]

/-- A list of literals, as it is written. -/
def listText : List (List Nat) → List Char
  | [] => ['[', ']']
  | codes :: texts => '[' :: (encodeCodes codes ++ (furtherItems texts ++ [']']))

/-- The tokens of a list of literals. -/
def listTokens (line : Nat) : List (List Nat) → List Token
  | [] => [ofSymbol line '[', ofSymbol line ']']
  | codes :: texts =>
    ofSymbol line '[' :: ofLiteral line codes :: (furtherTokens line texts ++ [ofSymbol line ']'])

variable {texts : List (List Nat)}

theorem isUnmarked_furtherItems (texts : List (List Nat)) (hrest : IsUnmarked rest) :
  IsUnmarked (furtherItems texts ++ rest)
  := by
  cases texts with
  | nil => exact hrest
  | cons codes texts => exact isUnmarked_separator (by decide)

theorem scans_furtherItems (htexts : ∀ codes ∈ texts, ∀ n ∈ codes, IsCode n)
    (hrest : IsUnmarked rest) :
  Scans ⟨furtherItems texts ++ rest, line, widths, brackets⟩ (furtherTokens line texts)
    ⟨rest, line, widths, brackets⟩
  := by
  induction texts with
  | nil => exact Scans.refl _
  | cons codes texts ih =>
      rw [List.forall_mem_cons] at htexts
      have hcomma := @scans_separator line widths brackets brackets ','
        (' ' :: (encodeCodes codes ++ (furtherItems texts ++ rest))) (by decide) rfl
      have hliteral := @scans_literal line widths brackets _ codes htexts.1
        (isUnmarked_furtherItems texts hrest)
      have h := ((hcomma.trans scans_space).trans hliteral).trans (ih htexts.2)
      rw [furtherItems, List.flatMap_cons, ← furtherItems, List.append_assoc]
      exact h

/-- A list of literals is scanned to its tokens. -/
theorem scans_listText (htexts : ∀ codes ∈ texts, ∀ n ∈ codes, IsCode n) :
  Scans ⟨listText texts ++ rest, line, widths, []⟩ (listTokens line texts) ⟨rest, line, widths, []⟩
  := by
  cases texts with
  | nil =>
      exact (scans_separator (by decide) rfl).trans (scans_separator (by decide) rfl)
  | cons codes texts =>
      rw [List.forall_mem_cons] at htexts
      have hopening := @scans_separator line widths [] ['['] '['
        (encodeCodes codes ++ (furtherItems texts ++ (']' :: rest))) (by decide) rfl
      have hclosing : IsUnmarked (']' :: rest) := isUnmarked_separator (by decide)
      have hliteral := @scans_literal line widths ['['] _ codes htexts.1
        (isUnmarked_furtherItems texts hclosing)
      have hfurther := @scans_furtherItems line widths ['['] _ texts htexts.2 hclosing
      have h := ((hopening.trans hliteral).trans hfurther).trans (scans_separator (by decide) rfl)
      rw [listText, List.cons_append, List.append_assoc, List.append_assoc]
      exact h

/-! ### Whole lines -/

theorem normalizeBreaks_of_notMem (h : '\r' ∉ cs) :
  normalizeBreaks cs = cs
  := by
  induction cs with
  | nil => rfl
  | cons c cs ih =>
      rw [List.mem_cons, not_or] at h
      rw [normalizeBreaks, ih h.2]
      · rintro _ rfl
        exact absurd rfl h.1
      · rintro rfl
        exact absurd rfl h.1

theorem prepare_of_notMem (hreturn : '\r' ∉ cs) (hnewline : '\n' ∉ cs) :
  prepare cs = cs ++ ['\n']
  := by
  have hlast : cs.getLast? ≠ some '\n' := fun h => hnewline (List.mem_of_getLast? h)
  simp only [prepare, normalizeBreaks_of_notMem hreturn, hlast, if_false]

theorem measure_tokenStart (hc : IsTokenStart c) (fuel : Nat) :
  measure (fuel + 1) (c :: cs) line .zero 0 = some (c :: cs, line, .zero)
  := by
  have hne {d : Char} (hd : ¬ IsTokenStart d) (ds : List Char) : c :: cs ≠ d :: ds := by
    rintro ⟨⟩
    exact hd hc
  rw [measure]
  · rfl
  · exact hne (by decide)
  · exact hne (by decide)
  · exact hne (by decide)
  · exact fun _ => hne (by decide) _
  · exact hne (by decide)

theorem scanFrom_lineStart (hc : IsTokenStart c) (fuel : Nat) :
  scanFrom (fuel + 1) true false ⟨c :: cs, line, [.zero], []⟩
    = scanFrom fuel false false ⟨c :: cs, line, [.zero], []⟩
  := by
  rw [scanFrom, measure_tokenStart hc, Option.bind_eq_bind, Option.bind_some]
  dsimp only
  split
  case h_1 h =>
    cases h
    exact absurd rfl hc.2.1
  case h_2 h =>
    cases h
    exact absurd hc.1 (by decide)
  case h_3 => exact Option.map_id'

/-- A line of tokens is scanned to these tokens, the end of the line and the end of the program. -/
theorem scan_line (hcs : ∀ d ∈ c :: cs, 32 ≤ d.toNat) (hc : IsTokenStart c)
    (h : Scans ⟨c :: cs ++ ['\n'], 1, [.zero], []⟩ tokens ⟨['\n'], 1, [.zero], []⟩) :
  scan (c :: cs) = some (tokens ++ [⟨.newline, 1⟩, ⟨.finish, 2⟩])
  := by
  have hnotMem {d : Char} (hd : d.toNat < 32) : d ∉ c :: cs := fun h => absurd (hcs d h) (by omega)
  have hnull : (c :: cs).contains '\x00' = false := by
    rw [← Bool.not_eq_true, List.contains_iff_mem]
    exact hnotMem (by decide)
  have hprepare : prepare (c :: cs) = c :: cs ++ ['\n'] :=
    prepare_of_notMem (hnotMem (by decide)) (hnotMem (by decide))
  obtain ⟨steps, hsteps, hscan⟩ := h
  obtain ⟨fuel, hfuel⟩ : ∃ fuel, 2 * (c :: cs ++ ['\n']).length + 2 = fuel + 3 + steps + 1 := by
    use 2 * (c :: cs ++ ['\n']).length + 2 - (3 + steps + 1)
    simp only [List.length_append, List.length_cons, List.length_nil] at hsteps ⊢
    omega
  have hend : scanFrom (fuel + 3) false false ⟨['\n'], 1, [.zero], []⟩
      = some [⟨.newline, 1⟩, ⟨.finish, 2⟩] := rfl
  simp only [scan, hnull, Bool.false_eq_true, if_false, hprepare]
  rw [hfuel, List.cons_append, scanFrom_lineStart hc, ← List.cons_append, hscan, hend, Option.map_some]

theorem scan_encodeCodes (hcodes : ∀ n ∈ codes, IsCode n) :
  scan (encodeCodes codes) = some [ofLiteral 1 codes, ⟨.newline, 1⟩, ⟨.finish, 2⟩]
  := by
  have hall : ∀ q ∈ marks, IsTokenStart q := forall_mem_marks (by decide) (by decide)
  exact scan_line (fun _ => le_toNat_of_mem_encodeCodes hcodes) (hall _ (mark_mem_marks codes))
    (scans_literal hcodes isUnmarked_newline)

theorem le_toNat_of_mem_listText (htexts : ∀ codes ∈ texts, ∀ n ∈ codes, IsCode n)
    (hc : c ∈ listText texts) :
  32 ≤ c.toNat
  := by
  cases texts with
  | nil =>
      rw [listText, List.mem_cons, List.mem_singleton] at hc
      obtain rfl | rfl := hc
      · decide
      · decide
  | cons codes texts =>
      rw [List.forall_mem_cons] at htexts
      rw [listText, List.mem_cons, List.mem_append, List.mem_append, List.mem_singleton] at hc
      obtain rfl | hc | hc | rfl := hc
      · decide
      · exact le_toNat_of_mem_encodeCodes htexts.1 hc
      · obtain ⟨codes, hcodes, hc⟩ := List.mem_flatMap.mp hc
        rw [List.mem_cons, List.mem_cons] at hc
        obtain rfl | rfl | hc := hc
        · decide
        · decide
        · exact le_toNat_of_mem_encodeCodes (htexts.2 codes hcodes) hc
      · decide

theorem scan_listText (htexts : ∀ codes ∈ texts, ∀ n ∈ codes, IsCode n) :
  scan (listText texts) = some (listTokens 1 texts ++ [⟨.newline, 1⟩, ⟨.finish, 2⟩])
  := by
  obtain ⟨cs, hcs⟩ : ∃ cs, listText texts = '[' :: cs := by
    cases texts with
    | nil => exact ⟨_, rfl⟩
    | cons codes texts => exact ⟨_, rfl⟩
  have hle := fun c => @le_toNat_of_mem_listText c texts htexts
  have hscans := @scans_listText 1 [.zero] ['\n'] texts htexts
  rw [hcs] at hle hscans ⊢
  exact scan_line hle (by decide) hscans

end SnippetProfiler.Indented.Token
