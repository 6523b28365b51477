import SnippetProfiler.Proofs.Json.Scalars

/-!
# Written values read back

`Json.parse` reads what `Json.chars` writes for a value as that value, when the value fits: it has
no floats, its integers are short enough to be converted, the keys of its objects are distinct,
and its lists and objects are nested no deeper than the reader goes.

The reader goes through a written value from left to right.  `ReadsBack` says that it takes exactly
the characters of the value, whatever stands behind them; this passes from the items of a list to
the list, and from the fields of an object to the object.
-/

namespace SnippetProfiler.Json

/-! ### Values that fit -/

/-- The values that are nested at most `depth` times and can be read as they are written. -/
inductive Fits : (depth : Nat) → Json → Prop
  | null {depth : Nat} : Fits depth .null
  | bool {depth : Nat} (b : Bool) : Fits depth (.bool b)
  | int {depth : Nat} {n : Int} (short : (Decimal.digits n.natAbs).length ≤ digitLimit) :
      Fits depth (.int n)
  | str {depth : Nat} (s : String) : Fits depth (.str s)
  | arr {depth : Nat} {items : List Json} (fit : ∀ v ∈ items, Fits depth v) :
      Fits (depth + 1) (.arr items)
  | obj {depth : Nat} {fields : List (String × Json)} (distinct : (fields.map Prod.fst).Nodup)
      (fit : ∀ f ∈ fields, Fits depth f.2) : Fits (depth + 1) (.obj fields)

/-! ### What a value begins with -/

/-- White space, the ends of lists and objects, and the byte order mark: they begin no value. -/
def notFirst : List Char := [' ', '\t', '\n', '\r', ']', '}', '\uFEFF']

/-- A text that may be that of a value. -/
def BeginsValue (s : List Char) : Prop := ∃ c cs, s = c :: cs ∧ c ∉ notFirst

theorem BeginsValue.append {s : List Char} (h : BeginsValue s) (t : List Char) :
  BeginsValue (s ++ t)
  := by
  obtain ⟨c, cs, rfl, hc⟩ := h
  exact ⟨c, cs ++ t, rfl, hc⟩

theorem BeginsValue.length_pos {s : List Char} (h : BeginsValue s) :
  0 < s.length
  := by
  obtain ⟨c, cs, rfl, _⟩ := h
  apply Nat.succ_pos

theorem beginsValue_integer (n : Int) :
  BeginsValue (Decimal.integer n).toList
  := by
  obtain ⟨d, cs, hd, h | h⟩ := exists_integer_eq_cons n
  · exact ⟨d, cs, h, notMem_of_isDigit hd rfl⟩
  · exact ⟨'-', d :: cs, h, by decide⟩

/-! ### Reading back -/

/-- With fuel for each character of a value the reader takes these characters and nothing else, and
gives the value. -/
structure ReadsBack (depth : Nat) (v : Json) : Prop where
  begins : BeginsValue (chars spaced v)
  reads : ∀ {fuel : Nat} {rest : List Char} {p : Nat}, (chars spaced v).length ≤ fuel →
    EndsValue rest →
    readValue fuel depth ⟨chars spaced v ++ rest, p⟩ =
      .ok (v, ⟨rest, p + (chars spaced v).length⟩)

variable {depth fuel p : Nat} {rest : List Char}

/-- Reading a value that has characters takes at least one step. -/
theorem ReadsBack.of_succ {v : Json} (hbegins : BeginsValue (chars spaced v))
    (h : ∀ {fuel : Nat} {rest : List Char} {p : Nat}, (chars spaced v).length ≤ fuel + 1 →
      EndsValue rest → readValue (fuel + 1) depth ⟨chars spaced v ++ rest, p⟩ =
        .ok (v, ⟨rest, p + (chars spaced v).length⟩)) :
  ReadsBack depth v
  := by
  constructor
  · apply hbegins
  · intro fuel rest p hfuel hrest
    have hpos := hbegins.length_pos
    obtain ⟨fuel, rfl⟩ := Nat.exists_eq_succ_of_ne_zero (n := fuel) (by omega)
    apply h hfuel hrest

theorem readsBack_null :
  ReadsBack depth .null
  := by
  apply ReadsBack.of_succ
  · exact ⟨_, _, rfl, by decide⟩
  · intro fuel rest p _ _
    rfl

theorem readsBack_bool (b : Bool) :
  ReadsBack depth (.bool b)
  := by
  cases b with
  | false =>
      apply ReadsBack.of_succ
      · exact ⟨_, _, rfl, by decide⟩
      · intro fuel rest p _ _
        rfl
  | true =>
      apply ReadsBack.of_succ
      · exact ⟨_, _, rfl, by decide⟩
      · intro fuel rest p _ _
        rfl

theorem readsBack_str (s : String) :
  ReadsBack depth (.str s)
  := by
  apply ReadsBack.of_succ
  · rw [chars]
    exact ⟨_, _, rfl, by decide⟩
  · intro fuel rest p _ _
    obtain ⟨cs, hcs, hread⟩ := exists_quote_append_eq s rest
    rw [chars, hcs, readValue]
    simp only [hread]
    rfl

/-! ### Integers -/

/-- What begins with no mark and no word is taken as a number. -/
theorem readValue_eq_readNumber {c : Cursor}
    (hmarks : ∀ d ds, c.rest = d :: ds → d ∉ ['"', '{', '['])
    (hwords : ∀ word ∈ ["null", "true", "false", "NaN", "Infinity", "-Infinity"],
      c.looksAt word = false) :
  readValue (fuel + 1) depth c = readNumber c
  := by
  simp only [List.forall_mem_cons] at hwords
  obtain ⟨hnull, htrue, hfalse, hnan, hinfinity, hminus, _⟩ := hwords
  rw [readValue]
  split
  case h_1 _ heq => cases hmarks _ _ heq (by decide)
  case h_2 _ heq => cases hmarks _ _ heq (by decide)
  case h_3 _ heq => cases hmarks _ _ heq (by decide)
  case h_4 =>
    simp only [hnull, htrue, hfalse, hnan, hinfinity, hminus, Bool.false_eq_true, if_false]

/-- A text that begins with a digit does not begin with a word. -/
theorem looksAt_of_isDigit {d : Char} {cs : List Char} {text : String} (hd : d.isDigit = true)
    (htext : text.toList.head?.all Char.isDigit = false) :
  Cursor.looksAt ⟨d :: cs, p⟩ text = false
  := by
  rw [Cursor.looksAt]
  cases htoList : text.toList with
  | nil =>
      rw [htoList] at htext
      cases htext
  | cons c ds =>
      rw [htoList, List.head?_cons, Option.all_some] at htext
      rw [List.isPrefixOf_cons_cons, beq_eq_false_iff_ne.mpr (ne_of_isDigit hd htext).symm,
        Bool.false_and]

/-- What is written for an integer is taken as a number. -/
theorem readValue_integer (n : Int) (rest : List Char) :
  readValue (fuel + 1) depth ⟨(Decimal.integer n).toList ++ rest, p⟩ =
    readNumber ⟨(Decimal.integer n).toList ++ rest, p⟩
  := by
  obtain ⟨d, cs, hd, h | h⟩ := exists_integer_eq_cons n
  · apply readValue_eq_readNumber
    · intro e es heq
      rw [h, List.cons_append, List.cons.injEq] at heq
      rw [← heq.1]
      apply notMem_of_isDigit hd rfl
    · have hdigit : ∀ w ∈ ["null", "true", "false", "NaN", "Infinity", "-Infinity"],
          w.toList.head?.all Char.isDigit = false := by decide
      intro word hword
      rw [h, List.cons_append]
      apply looksAt_of_isDigit hd (hdigit word hword)
  · rw [h]
    apply readValue_eq_readNumber
    · intro e es heq
      rw [List.cons_append, List.cons.injEq] at heq
      rw [← heq.1]
      decide
    · simp only [List.forall_mem_cons]
      use rfl, rfl, rfl, rfl, rfl
      constructor
      · -- behind the sign stands a digit
        have hdigit : Cursor.looksAt ⟨d :: (cs ++ rest), p⟩ "Infinity" = false :=
          looksAt_of_isDigit hd rfl
        apply hdigit
      · intro _ h
        cases h

theorem readsBack_int {n : Int} (short : (Decimal.digits n.natAbs).length ≤ digitLimit) :
  ReadsBack depth (.int n)
  := by
  apply ReadsBack.of_succ
  · rw [chars]
    apply beginsValue_integer
  · intro fuel rest p _ hrest
    rw [chars, readValue_integer, readNumber_integer short hrest]

/-! ### Lists -/

theorem Cursor.spaces_of_beginsValue {s : List Char} (h : BeginsValue s) :
  Cursor.spaces ⟨s, p⟩ = ⟨s, p⟩
  := by
  obtain ⟨c, cs, rfl, hc⟩ := h
  have hspace : ¬ Cursor.isSpace c = true := by
    intro hspace
    simp only [Cursor.isSpace, Bool.or_eq_true, decide_eq_true_eq] at hspace
    apply hc
    rcases hspace with ((rfl | rfl) | rfl) | rfl <;> decide
  rw [Cursor.spaces, List.takeWhile_cons_of_neg hspace]
  rfl

theorem Cursor.spaces_space (s : List Char) :
  Cursor.spaces ⟨' ' :: s, p⟩ = Cursor.spaces ⟨s, p + 1⟩
  := by
  simp only [Cursor.spaces, Cursor.skip]
  rw [List.takeWhile_cons_of_pos (by decide), List.length_cons, List.drop_succ_cons,
    Nat.add_right_comm, Nat.add_assoc]

/-- Texts with a comma and a space between them. -/
def commas (parts : List (List Char)) : List Char := joined spaced.comma.toList parts

theorem commas_map_cons_cons {α : Type} (f : α → List Char) (x y : α) (xs : List α) :
  commas ((x :: y :: xs).map f) = f x ++ ',' :: ' ' :: commas ((y :: xs).map f)
  := by
  have hcomma : spaced.comma.toList = [',', ' '] := rfl
  simp only [commas, hcomma, List.map_cons, joined, List.append_assoc, List.cons_append,
    List.nil_append]

theorem beginsValue_commas_map {α : Type} {f : α → List Char} {x : α} (h : BeginsValue (f x))
    (xs : List α) :
  BeginsValue (commas ((x :: xs).map f))
  := by
  cases xs with
  | nil => apply h
  | cons y xs =>
      rw [commas_map_cons_cons]
      apply h.append

theorem itemChars_eq_map (items : List Json) :
  itemChars spaced items = items.map (chars spaced)
  := by
  induction items with
  | nil => rfl
  | cons item items ih => rw [itemChars, ih, List.map_cons]

theorem chars_arr (items : List Json) :
  chars spaced (.arr items) = '[' :: (commas (items.map (chars spaced)) ++ [']'])
  := by rw [chars, itemChars_eq_map, commas, List.cons_append]

theorem endsValue_cons {c : Char} (h : c = ',' ∨ c = ']' ∨ c = '}') (cs : List Char) :
  EndsValue (c :: cs)
  := by
  rintro d ds heq
  rw [← (List.cons.inj heq).1]
  apply h

section Items

variable {item : Json} {made : List Json}

/-- The last item of a list is read, and the list ends. -/
theorem readItems_last (hitem : ReadsBack depth item) (hfuel : (chars spaced item).length ≤ fuel) :
  readItems (fuel + 1) depth ⟨chars spaced item ++ ']' :: rest, p⟩ made =
    .ok (.arr (made.reverse ++ [item]), ⟨rest, p + (chars spaced item).length + 1⟩)
  := by
  rw [readItems, hitem.reads hfuel (endsValue_cons (by decide) _), ← List.reverse_cons]
  rfl

/-- An item is read, and the next one stands behind a comma and a space. -/
theorem readItems_more {s : List Char} (hitem : ReadsBack depth item)
    (hfuel : (chars spaced item).length ≤ fuel) (hs : BeginsValue s) :
  readItems (fuel + 1) depth ⟨chars spaced item ++ ',' :: ' ' :: s, p⟩ made =
    readItems fuel depth ⟨s, p + (chars spaced item).length + 2⟩ (item :: made)
  := by
  have hspaces : Cursor.spaces ⟨' ' :: s, p + (chars spaced item).length + 1⟩ =
      ⟨s, p + (chars spaced item).length + 2⟩ := by
    rw [Cursor.spaces_space, Cursor.spaces_of_beginsValue hs]
  rw [readItems, hitem.reads hfuel (endsValue_cons (by decide) _), ← hspaces]
  rfl

end Items

/-- Items that read back are read up to the end of the list. -/
theorem readItems_commas {item : Json} {items : List Json} {made : List Json}
    (hreads : ∀ v ∈ item :: items, ReadsBack depth v)
    (hfuel : (commas ((item :: items).map (chars spaced))).length < fuel) :
  readItems fuel depth ⟨commas ((item :: items).map (chars spaced)) ++ ']' :: rest, p⟩ made =
    .ok (.arr (made.reverse ++ item :: items),
      ⟨rest, p + (commas ((item :: items).map (chars spaced))).length + 1⟩)
  := by
  have hitem := hreads item List.mem_cons_self
  obtain ⟨fuel, rfl⟩ := Nat.exists_eq_succ_of_ne_zero (n := fuel) (by omega)
  induction items generalizing item fuel p made with
  | nil =>
      have hcommas : commas ([item].map (chars spaced)) = chars spaced item := rfl
      rw [hcommas] at hfuel ⊢
      apply readItems_last hitem (Nat.le_of_lt_succ hfuel)
  | cons next items ih =>
      have hnext := hreads next (by simp)
      have hbegins := beginsValue_commas_map hnext.begins items
      rw [commas_map_cons_cons, List.length_append, List.length_cons, List.length_cons] at hfuel
      obtain ⟨fuel, rfl⟩ := Nat.exists_eq_succ_of_ne_zero (n := fuel) (by omega)
      rw [commas_map_cons_cons, List.append_assoc, List.cons_append, List.cons_append,
        readItems_more hitem (by omega) (hbegins.append _), ih _ hnext]
      · simp only [List.reverse_cons, List.append_assoc, List.cons_append, List.nil_append,
          List.length_append, List.length_cons]
        congr 3
        omega
      · omega
      · intro v hv
        apply hreads v (List.mem_cons_of_mem _ hv)

/-- Behind an opening bracket stand the items of a list, when there are any. -/
theorem readValue_bracket {s : List Char} (hs : BeginsValue s) :
  readValue (fuel + 1) (depth + 1) ⟨'[' :: s, p⟩ = readItems fuel depth ⟨s, p + 1⟩ []
  := by
  have hinner : Cursor.spaces (Cursor.skip ⟨'[' :: s, p⟩ 1) = ⟨s, p + 1⟩ :=
    Cursor.spaces_of_beginsValue hs
  rw [readValue]
  simp only [hinner, Nat.add_sub_cancel, if_neg (Nat.succ_ne_zero depth)]
  obtain ⟨c, cs, rfl, hc⟩ := hs
  split
  case h_1 _ heq =>
    rw [(List.cons.inj heq).1] at hc
    cases hc (by decide)
  case h_2 => rfl

theorem readsBack_arr {items : List Json} (hreads : ∀ v ∈ items, ReadsBack depth v) :
  ReadsBack (depth + 1) (.arr items)
  := by
  apply ReadsBack.of_succ
  · rw [chars_arr]
    exact ⟨_, _, rfl, by decide⟩
  · intro fuel rest p hfuel _
    rw [chars_arr] at hfuel ⊢
    cases items with
    | nil => rfl
    | cons item items =>
        have hbegins := beginsValue_commas_map (hreads item List.mem_cons_self).begins items
        rw [List.cons_append, List.append_assoc, readValue_bracket (hbegins.append _),
          List.cons_append, List.nil_append, readItems_commas hreads]
        · simp only [List.reverse_nil, List.nil_append, List.length_append, List.length_cons,
            List.length_nil]
          congr 3
          omega
        · simp only [List.length_append, List.length_cons, List.length_nil] at hfuel
          omega

/-! ### Objects -/

theorem put_of_notMem {fields : List (String × Json)} {key : String} {value : Json}
    (h : key ∉ fields.map Prod.fst) :
  put fields key value = fields ++ [(key, value)]
  := by
  induction fields with
  | nil => rfl
  | cons field fields ih =>
      rw [List.map_cons, List.mem_cons, not_or] at h
      rw [put, if_neg (Ne.symm h.1), ih h.2, List.cons_append]

/-- A field whose key is new stands behind the fields made so far. -/
theorem put_of_nodup {field : String × Json} {made fields : List (String × Json)}
    (h : ((made ++ field :: fields).map Prod.fst).Nodup) :
  put made field.1 field.2 = made ++ [field]
  := by
  apply put_of_notMem
  rw [List.map_append, List.map_cons, List.nodup_append] at h
  intro hmem
  apply h.2.2 _ hmem _ List.mem_cons_self rfl

/-- What is written for a field. -/
def fieldText (f : String × Json) : List Char := quote f.1 ++ ':' :: ' ' :: chars spaced f.2

theorem beginsValue_fieldText (f : String × Json) :
  BeginsValue (fieldText f)
  := ⟨_, _, rfl, by decide⟩

theorem length_fieldText (f : String × Json) :
  (fieldText f).length = (quote f.1).length + 2 + (chars spaced f.2).length
  := by
  simp only [fieldText, List.length_append, List.length_cons]
  omega

section Fields

variable {field : String × Json} {made : List (String × Json)}

/-- A field is read, up to the comma or the brace behind it. -/
theorem readFields_field {c : Char} {cs : List Char} (hreads : ReadsBack depth field.2)
    (hfuel : (chars spaced field.2).length ≤ fuel) (hc : c = ',' ∨ c = '}') :
  readFields (fuel + 1) depth ⟨fieldText field ++ c :: cs, p⟩ made =
    if c = '}' then
      .ok (.obj (put made field.1 field.2), ⟨cs, p + (fieldText field).length + 1⟩)
    else
      readFields fuel depth (Cursor.spaces ⟨cs, p + (fieldText field).length + 1⟩)
        (put made field.1 field.2)
  := by
  have hlength : p + (fieldText field).length =
      p + (quote field.1).length + 2 + (chars spaced field.2).length := by
    rw [length_fieldText, ← Nat.add_assoc, ← Nat.add_assoc]
  have htext : fieldText field ++ c :: cs =
      quote field.1 ++ ':' :: ' ' :: (chars spaced field.2 ++ c :: cs) := by
    simp only [fieldText, List.append_assoc, List.cons_append]
  obtain ⟨ks, hks, hkey⟩ :=
    exists_quote_append_eq field.1 (':' :: ' ' :: (chars spaced field.2 ++ c :: cs))
  have hcolon (s : List Char) (q : Nat) : Cursor.spaces ⟨':' :: s, q⟩ = ⟨':' :: s, q⟩ := rfl
  have hskip (s : List Char) (q : Nat) : Cursor.skip ⟨':' :: s, q⟩ 1 = ⟨s, q + 1⟩ := rfl
  have hvalue := hreads.reads (p := p + (quote field.1).length + 2) hfuel
    (endsValue_cons (hc.imp_right Or.inr) cs)
  rw [hlength, htext, hks, readFields]
  simp only [hkey, bind, Except.bind, hcolon, hskip, Cursor.spaces_space,
    Cursor.spaces_of_beginsValue (hreads.begins.append _), hvalue]
  rcases hc with rfl | rfl <;> rfl

/-- The last field of an object is read, and the object ends. -/
theorem readFields_last (hreads : ReadsBack depth field.2)
    (hfuel : (chars spaced field.2).length ≤ fuel) :
  readFields (fuel + 1) depth ⟨fieldText field ++ '}' :: rest, p⟩ made =
    .ok (.obj (put made field.1 field.2), ⟨rest, p + (fieldText field).length + 1⟩)
  := by
  rw [readFields_field hreads hfuel (Or.inr rfl), if_pos rfl]

/-- A field is read, and the next one stands behind a comma and a space. -/
theorem readFields_more {s : List Char} (hreads : ReadsBack depth field.2)
    (hfuel : (chars spaced field.2).length ≤ fuel) (hs : BeginsValue s) :
  readFields (fuel + 1) depth ⟨fieldText field ++ ',' :: ' ' :: s, p⟩ made =
    readFields fuel depth ⟨s, p + (fieldText field).length + 2⟩ (put made field.1 field.2)
  := by
  rw [readFields_field hreads hfuel (Or.inl rfl), if_neg (by decide), Cursor.spaces_space,
    Cursor.spaces_of_beginsValue hs]

end Fields

theorem fieldChars_eq_map (fields : List (String × Json)) :
  fieldChars spaced fields = fields.map fieldText
  := by
  induction fields with
  | nil => rfl
  | cons field fields ih =>
      rw [fieldChars, ih, List.map_cons, fieldText]
      simp only [List.append_assoc]
      rfl

theorem chars_obj (fields : List (String × Json)) :
  chars spaced (.obj fields) = '{' :: (commas (fields.map fieldText) ++ ['}'])
  := by
  rw [chars, ← fieldChars_eq_map, commas, List.cons_append]

/-- Fields that read back are read up to the end of the object. -/
theorem readFields_commas {field : String × Json} {fields made : List (String × Json)}
    (hreads : ∀ f ∈ field :: fields, ReadsBack depth f.2)
    (hkeys : ((made ++ field :: fields).map Prod.fst).Nodup)
    (hfuel : (commas ((field :: fields).map fieldText)).length < fuel) :
  readFields fuel depth ⟨commas ((field :: fields).map fieldText) ++ '}' :: rest, p⟩ made =
    .ok (.obj (made ++ field :: fields),
      ⟨rest, p + (commas ((field :: fields).map fieldText)).length + 1⟩)
  := by
  have hfield := hreads field List.mem_cons_self
  have hlength := length_fieldText field
  obtain ⟨fuel, rfl⟩ := Nat.exists_eq_succ_of_ne_zero (n := fuel) (by omega)
  induction fields generalizing field fuel p made with
  | nil =>
      have hcommas : commas ([field].map fieldText) = fieldText field := rfl
      rw [hcommas] at hfuel ⊢
      rw [readFields_last hfield (by omega), put_of_nodup hkeys]
  | cons next fields ih =>
      have hbegins := beginsValue_commas_map (beginsValue_fieldText next) fields
      rw [commas_map_cons_cons, List.length_append, List.length_cons, List.length_cons] at hfuel
      obtain ⟨fuel, rfl⟩ := Nat.exists_eq_succ_of_ne_zero (n := fuel) (by omega)
      rw [commas_map_cons_cons, List.append_assoc, List.cons_append, List.cons_append,
        readFields_more hfield (by omega) (hbegins.append _), put_of_nodup hkeys, ih]
      · simp only [List.append_assoc, List.cons_append, List.nil_append, List.length_append,
          List.length_cons]
        congr 3
        omega
      · intro f hf
        apply hreads f (List.mem_cons_of_mem _ hf)
      · rw [List.append_assoc]
        apply hkeys
      · apply hreads next (by simp)
      · apply length_fieldText
      · omega

/-- Behind an opening brace stand the fields of an object, when there are any. -/
theorem readValue_brace {s : List Char} (hs : BeginsValue s) :
  readValue (fuel + 1) (depth + 1) ⟨'{' :: s, p⟩ = readFields fuel depth ⟨s, p + 1⟩ []
  := by
  have hinner : Cursor.spaces (Cursor.skip ⟨'{' :: s, p⟩ 1) = ⟨s, p + 1⟩ :=
    Cursor.spaces_of_beginsValue hs
  rw [readValue]
  simp only [hinner, Nat.add_sub_cancel, if_neg (Nat.succ_ne_zero depth)]
  obtain ⟨c, cs, rfl, hc⟩ := hs
  split
  case h_1 _ heq =>
    rw [(List.cons.inj heq).1] at hc
    cases hc (by decide)
  case h_2 => rfl

theorem readsBack_obj {fields : List (String × Json)} (hkeys : (fields.map Prod.fst).Nodup)
    (hreads : ∀ f ∈ fields, ReadsBack depth f.2) :
  ReadsBack (depth + 1) (.obj fields)
  := by
  apply ReadsBack.of_succ
  · rw [chars_obj]
    exact ⟨_, _, rfl, by decide⟩
  · intro fuel rest p hfuel _
    rw [chars_obj] at hfuel ⊢
    cases fields with
    | nil => rfl
    | cons field fields =>
        have hbegins := beginsValue_commas_map (beginsValue_fieldText field) fields
        rw [List.cons_append, List.append_assoc, readValue_brace (hbegins.append _),
          List.cons_append, List.nil_append, readFields_commas hreads hkeys]
        · simp only [List.nil_append, List.length_append, List.length_cons, List.length_nil]
          congr 3
          omega
        · simp only [List.length_append, List.length_cons, List.length_nil] at hfuel
          omega

/-! ### Values -/

/-- A value that fits reads back: by induction on how it is nested. -/
theorem Fits.readsBack {v : Json} (h : Fits depth v) :
  ReadsBack depth v
  := by
  induction h with
  | null => apply readsBack_null
  | bool b => apply readsBack_bool
  | int short => apply readsBack_int short
  | str s => apply readsBack_str
  | arr _ ih => apply readsBack_arr ih
  | obj distinct _ ih => apply readsBack_obj distinct ih

/-- The text of a value that fits holds that value. -/
theorem parse_chars {v : Json} (h : Fits depthLimit v) :
  parse (chars spaced v) = .ok v
  := by
  have hreads := h.readsBack
  have hmark : (chars spaced v).head? ≠ some '\uFEFF' := by
    obtain ⟨c, cs, htext, hc⟩ := hreads.begins
    rw [htext, List.head?_cons, Ne, Option.some.injEq]
    rintro rfl
    apply hc (by decide)
  have hend : EndsValue [] := by rintro c cs ⟨⟩
  have hvalue := hreads.reads (p := 0) (Nat.le_succ _) hend
  rw [List.append_nil] at hvalue
  rw [parse, if_neg hmark, Cursor.spaces_of_beginsValue hreads.begins, hvalue]
  rfl

/-! ### Lines -/

theorem newline_notMem_commas_map {α : Type} {f : α → List Char} {xs : List α}
    (h : ∀ x ∈ xs, '\n' ∉ f x) :
  '\n' ∉ commas (xs.map f)
  := by
  match xs with
  | [] => apply List.not_mem_nil
  | [x] => apply h x List.mem_cons_self
  | x :: y :: xs =>
      have hrest : '\n' ∉ commas ((y :: xs).map f) := by
        apply newline_notMem_commas_map
        intro z hz
        apply h z (List.mem_cons_of_mem _ hz)
      rw [commas_map_cons_cons]
      simp only [List.mem_append, List.mem_cons, not_or]
      exact ⟨h x List.mem_cons_self, by decide, by decide, hrest⟩

/-- A value is written on one line. -/
theorem Fits.newline_notMem {v : Json} (h : Fits depth v) :
  '\n' ∉ chars spaced v
  := by
  induction h with
  | null => decide
  | bool b => cases b <;> decide
  | int _ =>
      rw [chars]
      apply newline_notMem_integer
  | str s =>
      rw [chars]
      apply newline_notMem_quote
  | arr _ ih =>
      rw [chars_arr]
      simp only [List.mem_append, List.mem_cons, List.not_mem_nil, or_false, not_or]
      exact ⟨by decide, newline_notMem_commas_map ih, by decide⟩
  | obj _ _ ih =>
      rw [chars_obj]
      simp only [List.mem_append, List.mem_cons, List.not_mem_nil, or_false, not_or]
      refine ⟨by decide, newline_notMem_commas_map ?_, by decide⟩
      intro f hf
      simp only [fieldText, List.mem_append, List.mem_cons, not_or]
      exact ⟨newline_notMem_quote f.1, by decide, by decide, ih f hf⟩

end SnippetProfiler.Json
