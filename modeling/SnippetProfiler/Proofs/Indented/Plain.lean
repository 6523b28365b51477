import SnippetProfiler.Indented.Token
import SnippetProfiler.Proofs.Text.Compatible

/-!
# Plain tokens

No token of a program is a name with a newline in it or a number that is a text.  A name is made of
characters that may stand in names, and the form in which two names are compared adds no newline.
-/

namespace SnippetProfiler.Indented

/-- Whether a lexeme is what its kind says: a name has no newline in it, and a number is no text. -/
def Lexeme.IsPlain : Lexeme → Prop
  | .name id => '\n' ∉ id.toList
  | .number value => ∀ codes marked, value ≠ .text codes marked
  | _ => True

namespace Token

/-- Tokens with plain lexemes. -/
def ArePlain (ts : List Token) : Prop := ∀ t ∈ ts, t.lexeme.IsPlain

variable {ts : List Token} {cs rest : List Char} {value : Constant} {lexeme : Lexeme}

/-! ### Single tokens -/

theorem isPlain_basedNumber {base : Nat} {isDigit : Char → Bool}
    (h : basedNumber base isDigit cs = some (value, rest)) :
  (Lexeme.number value).IsPlain
  := by
  obtain ⟨⟨ds, more⟩, -, h⟩ := Option.bind_eq_some_iff.mp h
  dsimp only at h
  split at h
  · cases h
  · split at h
    · split at h
      · cases h
      · split at h
        · cases h
          nofun
        · cases h
    · cases h
      nofun

theorem isPlain_decimalTail {whole : List Char} (h : decimalTail whole cs = some (value, rest)) :
  (Lexeme.number value).IsPlain
  := by
  obtain ⟨⟨fraction, more⟩, -, h⟩ := Option.bind_eq_some_iff.mp h
  obtain ⟨⟨exponent, more⟩, -, h⟩ := Option.bind_eq_some_iff.mp h
  dsimp only at h
  split at h
  case h_1 =>
    split at h
    · split at h
      · cases h
        nofun
      · cases h
    · split at h
      · cases h
      · split at h
        · cases h
          nofun
        · split at h
          · cases h
          · split at h
            · cases h
            · cases h
              nofun
  case h_2 => cases h

theorem isPlain_number (h : number cs = some (value, rest)) :
  (Lexeme.number value).IsPlain
  := by
  rw [number.eq_def] at h
  split at h
  · split at h
    · exact isPlain_basedNumber h
    · split at h
      · exact isPlain_basedNumber h
      · split at h
        · exact isPlain_basedNumber h
        · obtain ⟨_, -, h⟩ := Option.bind_eq_some_iff.mp h
          exact isPlain_decimalTail h
  · exact isPlain_decimalTail h
  · obtain ⟨_, -, h⟩ := Option.bind_eq_some_iff.mp h
    exact isPlain_decimalTail h

theorem isPlain_nameToken (h : nameToken cs = some (lexeme, rest)) :
  lexeme.IsPlain
  := by
  have hword : '\n' ∉ cs.takeWhile isNameChar := by
    intro hmem
    exact absurd (List.all_eq_true.mp List.all_takeWhile _ hmem) (by decide)
  rw [nameToken] at h
  split at h
  · cases h
    split
    · trivial
    · rwa [Lexeme.IsPlain, String.toList_ofList]
  · split at h
    · cases h
      rw [Lexeme.IsPlain, String.toList_ofList]
      exact Text.newline_notMem_compatible hword
    · cases h

theorem isPlain_symbolToken (h : symbolToken cs = some (lexeme, rest)) :
  lexeme.IsPlain
  := by
  rw [symbolToken.eq_def] at h
  split at h
  · cases h
    trivial
  · split at h
    · cases h
      trivial
    · split at h
      · split at h
        · cases h
          trivial
        · cases h
      · cases h

theorem isPlain_textToken (h : textToken cs = some (some (lexeme, rest))) :
  lexeme.IsPlain
  := by
  rw [textToken] at h
  split at h
  · split at h
    · split at h
      · obtain ⟨_, -, h⟩ := Option.map_eq_some_iff.mp h
        cases h
        trivial
      · cases h
    · cases h
  · cases h

theorem isPlain_one (h : one cs = some (lexeme, rest)) :
  lexeme.IsPlain
  := by
  rw [one.eq_def] at h
  split at h
  case h_1 =>
    split at h
    · obtain ⟨found, htext, h⟩ := Option.bind_eq_some_iff.mp h
      cases found with
      | some found =>
          cases h
          exact isPlain_textToken htext
      | none => exact isPlain_nameToken h
    · split at h
      · obtain ⟨_, hnumber, h⟩ := Option.map_eq_some_iff.mp h
        cases h
        exact isPlain_number hnumber
      · exact isPlain_symbolToken h
  case h_2 => cases h

/-! ### Whole programs -/

theorem arePlain_indentation {w : Width} {line : Nat} {widths widths' : List Width}
    (h : indentation w line widths = some (ts, widths')) :
  ArePlain ts
  := by
  rw [indentation.eq_def] at h
  split at h
  case h_1 => cases h
  case h_2 =>
    split at h
    · split at h
      · cases h
        intro t ht
        rw [List.mem_singleton] at ht
        rw [ht]
        trivial
      · cases h
    · obtain ⟨_, -, h⟩ := Option.map_eq_some_iff.mp h
      cases h
      intro t ht
      rw [(List.mem_replicate.mp ht).2]
      trivial

theorem arePlain_append {us : List Token} (ht : ArePlain ts) (hu : ArePlain us) :
  ArePlain (ts ++ us)
  := by
  intro t h
  obtain h | h := List.mem_append.mp h
  · exact ht t h
  · exact hu t h

theorem arePlain_cons {t : Token} (ht : t.lexeme.IsPlain) (hts : ArePlain ts) :
  ArePlain (t :: ts)
  := by
  intro u hu
  obtain rfl | hu := List.mem_cons.mp hu
  · exact ht
  · exact hts u hu

theorem arePlain_scanFrom {fuel : Nat} {atStart isBlank : Bool} {s : State}
    (h : scanFrom fuel atStart isBlank s = some ts) :
  ArePlain ts
  := by
  induction fuel generalizing atStart isBlank s ts with
  | zero => cases h
  | succ fuel ih =>
      cases atStart with
      | true =>
          rw [scanFrom] at h
          obtain ⟨⟨rest, line, w⟩, -, h⟩ := Option.bind_eq_some_iff.mp h
          dsimp only at h
          split at h
          · exact ih h
          · exact ih h
          · split at h
            · obtain ⟨⟨tokens, widths⟩, hindentation, h⟩ := Option.bind_eq_some_iff.mp h
              obtain ⟨us, hscan, rfl⟩ := Option.map_eq_some_iff.mp h
              exact arePlain_append (arePlain_indentation hindentation) (ih hscan)
            · exact ih h
      | false =>
          rw [scanFrom] at h
          split at h
          · split at h
            · cases h
              exact arePlain_cons trivial (fun _ => nofun)
            · cases h
          · dsimp only at h
            split at h
            · exact ih h
            · obtain ⟨us, hscan, rfl⟩ := Option.map_eq_some_iff.mp h
              exact arePlain_cons trivial (ih hscan)
          · split at h
            · cases h
            · exact ih h
          · exact ih h
          · split at h
            · exact ih h
            · obtain ⟨⟨lexeme, rest⟩, hone, h⟩ := Option.bind_eq_some_iff.mp h
              obtain ⟨brackets, -, h⟩ := Option.bind_eq_some_iff.mp h
              obtain ⟨us, hscan, rfl⟩ := Option.map_eq_some_iff.mp h
              exact arePlain_cons (isPlain_one hone) (ih hscan)

theorem arePlain_scan {source : List Char} (h : scan source = some ts) :
  ArePlain ts
  := by
  rw [scan] at h
  split at h
  · cases h
  · exact arePlain_scanFrom h

end Token

end SnippetProfiler.Indented
