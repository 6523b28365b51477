import Mathlib.Tactic.Common
import SnippetProfiler.Proofs.Trace.Data
import SnippetProfiler.Text.Clip
import SnippetProfiler.Validation.Value

/-!
# Reading what was written

A check that is built from parts is valid exactly when all its parts are, and it has a result exactly
when the parts have the results that it is made from.  And a field, a list or an optional value that is
written as data is read back when its parts are.
-/

namespace SnippetProfiler.Validation

variable {α β : Type}

namespace Checked

/-! ### Valid checks -/

/-- The check has a result. -/
def IsValid (c : Checked α) : Prop := ∃ a, c = valid a

@[simp]
theorem isValid_valid (a : α) :
  (valid a).IsValid
  := ⟨a, rfl⟩

@[simp]
theorem not_isValid_faulty (fs : List Fault) :
  ¬ (faulty fs : Checked α).IsValid
  := by
  rintro ⟨a, h⟩
  cases h

@[simp]
theorem not_isValid_fault (reason : Reason) :
  ¬ (fault reason : Checked α).IsValid
  := not_isValid_faulty _

/-- A function of a check is valid when the check is. -/
@[simp]
theorem isValid_map (f : α → β) (c : Checked α) :
  (f <$> c).IsValid ↔ c.IsValid
  := by
  cases c with
  | valid a =>
      constructor
      · intro _
        apply isValid_valid
      · intro _
        apply isValid_valid (f a)
  | faulty fs =>
      constructor
      · intro h
        cases not_isValid_faulty _ h
      · intro h
        cases not_isValid_faulty _ h

/-- Two checks combine into a valid one when both are valid. -/
@[simp]
theorem isValid_seq (c : Checked (α → β)) (d : Checked α) :
  (c <*> d).IsValid ↔ c.IsValid ∧ d.IsValid
  := by
  cases c with
  | valid f =>
      cases d with
      | valid a =>
          constructor
          · intro _
            constructor
            · apply isValid_valid
            · apply isValid_valid
          · intro _
            apply isValid_valid (f a)
      | faulty fs =>
          constructor
          · intro h
            cases not_isValid_faulty _ h
          · rintro ⟨_, h⟩
            cases not_isValid_faulty _ h
  | faulty fs =>
      constructor
      · intro h
        cases d with
        | valid a => cases not_isValid_faulty _ h
        | faulty gs => cases not_isValid_faulty _ h
      · rintro ⟨h, _⟩
        cases not_isValid_faulty _ h

/-- The place of a check does not matter for whether it is valid. -/
@[simp]
theorem isValid_under (step : Step) (c : Checked α) :
  (c.under step).IsValid ↔ c.IsValid
  := by
  cases c with
  | valid a => rfl
  | faulty fs => simp [under]

/-! ### Results of checks -/

theorem map_eq_valid {f : α → β} {c : Checked α} {b : β} :
  c.map f = valid b ↔ ∃ a, c = valid a ∧ f a = b
  := by
  cases c with
  | valid a =>
      constructor
      · rintro ⟨⟩
        use a
      · rintro ⟨_, ⟨⟩, rfl⟩
        rfl
  | faulty fs =>
      constructor
      · rintro ⟨⟩
      · rintro ⟨_, ⟨⟩, _⟩

/-- In front of the fields of a record the function is valid itself. -/
theorem fmap_eq_valid {f : α → β} {c : Checked α} {b : β} :
  f <$> c = valid b ↔ ∃ a, c = valid a ∧ f a = b
  := by
  rw [← map_eq_valid]
  cases c with
  | _ => rfl

theorem seq_eq_valid {c : Checked (α → β)} {d : Checked α} {b : β} :
  c <*> d = valid b ↔ ∃ f a, c = valid f ∧ d = valid a ∧ f a = b
  := by
  cases c with
  | valid f =>
      cases d with
      | valid a =>
          constructor
          · rintro ⟨⟩
            use f, a
          · rintro ⟨_, _, ⟨⟩, ⟨⟩, rfl⟩
            rfl
      | faulty fs =>
          constructor
          · rintro ⟨⟩
          · rintro ⟨_, _, _, ⟨⟩, _⟩
  | faulty fs =>
      constructor
      · intro h
        cases d with
        | valid a => cases h
        | faulty gs => cases h
      · rintro ⟨_, _, ⟨⟩, _⟩

theorem under_eq_valid {step : Step} {c : Checked α} {a : α} :
  c.under step = valid a ↔ c = valid a
  := by
  cases c with
  | valid a => rfl
  | faulty fs =>
      constructor
      · rintro ⟨⟩
      · rintro ⟨⟩

theorem andThen_eq_valid {c : Checked α} {f : α → Checked β} {b : β} :
  c.andThen f = valid b ↔ ∃ a, c = valid a ∧ f a = valid b
  := by
  cases c with
  | valid a =>
      constructor
      · intro h
        use a, rfl, h
      · rintro ⟨_, ⟨⟩, h⟩
        exact h
  | faulty fs =>
      constructor
      · rintro ⟨⟩
      · rintro ⟨_, ⟨⟩, _⟩

end Checked

/-! ### Fields -/

namespace Fields

variable {fields : Fields} {name : String} {v : Json} {read : Json → Checked α} {a default : α}

/-- A field that has to be there has the value that its data is read as. -/
theorem of_required (h : fields.required name read = .valid a) :
  ∃ v, read v = .valid a
  := by
  rw [required] at h
  split at h
  · rename_i v _
    use v
    exact Checked.under_eq_valid.mp h
  · cases h

/-- Another field has the value that its data is read as, or its default value. -/
theorem of_optional (h : fields.optional name default read = .valid a) :
  a = default ∨ ∃ v, read v = .valid a
  := by
  rw [optional] at h
  split at h
  · rename_i v _
    right
    use v
    exact Checked.under_eq_valid.mp h
  · left
    cases h
    rfl

theorem required_of_read (h : Json.lookup fields name = some v) (hv : read v = .valid a) :
  fields.required name read = .valid a
  := by
  rw [required_of_lookup h, hv]
  rfl

theorem optional_of_read (h : Json.lookup fields name = some v) (hv : read v = .valid a) :
  fields.optional name default read = .valid a
  := by
  rw [optional_of_lookup h, hv]
  rfl

end Fields

/-- Only objects are read as records. -/
theorem of_record {read : Fields → Checked α} {v : Json} {a : α} (h : record read v = .valid a) :
  ∃ fields, v = .obj fields ∧ read fields = .valid a
  := by
  cases v with
  | obj fields => exact ⟨fields, rfl, h⟩
  | _ => cases h

/-- A variant is read as one of its alternatives. -/
theorem of_variant {tag : String} {alternative : String → Option (Fields → Checked α)} {v : Json}
    {a : α} (h : variant tag alternative v = .valid a) :
  ∃ fields word read, alternative word = some read ∧ read fields = .valid a
  := by
  cases v with
  | obj fields =>
      rw [variant] at h
      split at h
      · cases h
      · rename_i word _
        split at h
        · rename_i read hread
          use fields, word, read, hread
          exact Checked.under_eq_valid.mp h
        · cases h
      · cases h
  | _ => cases h

/-- An object that names an alternative is read as that alternative. -/
theorem variant_of_read {tag word : String} {alternative : String → Option (Fields → Checked α)}
    {fields : Fields} {read : Fields → Checked α} {a : α}
    (htag : Json.lookup fields tag = some (.str word)) (hword : alternative word = some read)
    (h : read fields = .valid a) :
  variant tag alternative (.obj fields) = .valid a
  := by
  simp only [variant, htag, hword, h]
  rfl

/-! ### Lists and values that may be missing -/

/-- The items of a list are read one by one. -/
theorem of_items {read : Json → Checked α} {n : Nat} {vs : List Json} {xs : List α}
    (h : items read n vs = .valid xs) :
  ∀ x ∈ xs, ∃ v, read v = .valid x
  := by
  induction vs generalizing n xs with
  | nil =>
      cases h
      intro x hx
      cases hx
  | cons v vs ih =>
      obtain ⟨f, rest, hv, hrest, rfl⟩ := Checked.seq_eq_valid.mp h
      obtain ⟨x, hx, rfl⟩ := Checked.map_eq_valid.mp hv
      intro y hy
      rw [List.mem_cons] at hy
      obtain rfl | hy := hy
      · use v
        exact Checked.under_eq_valid.mp hx
      · apply ih hrest y hy

theorem of_list {read : Json → Checked α} {v : Json} {xs : List α} (h : list read v = .valid xs) :
  ∀ x ∈ xs, ∃ v, read v = .valid x
  := by
  cases v with
  | arr vs => exact of_items h
  | _ => cases h

/-- Items that are read back are read back as a list. -/
theorem items_of_read {read : Json → Checked α} {write : α → Json} {xs : List α}
    (h : ∀ x ∈ xs, read (write x) = .valid x) (n : Nat) :
  items read n (xs.map write) = .valid xs
  := by
  induction xs generalizing n with
  | nil => rfl
  | cons x xs ih =>
      rw [List.forall_mem_cons] at h
      rw [List.map_cons, items, h.1, ih h.2]
      rfl

theorem list_of_read {read : Json → Checked α} {write : α → Json} {xs : List α}
    (h : ∀ x ∈ xs, read (write x) = .valid x) :
  list read (Json.list write xs) = .valid xs
  := items_of_read h 0

theorem list_texts (xs : List String) :
  list string (Json.texts xs) = .valid xs
  := items_texts 0 xs

/-- A value that may be missing is read back when the value is, unless it is written as null. -/
theorem nullable_of_read {read : Json → Checked α} {v : Json} {a : α} (hv : v ≠ .null)
    (h : read v = .valid a) :
  nullable read v = .valid (some a)
  := by
  have hread : nullable read v = (read v).map some := by
    cases v with
    | null => cases hv rfl
    | _ => rfl
  rw [hread, h]
  rfl

theorem nullable_text (x : Option String) :
  nullable string (Json.ofText? x) = .valid x
  := by
  cases x with
  | _ => rfl

theorem nullable_integer (x : Option Int) :
  nullable int (Json.ofInt? x) = .valid x
  := by
  cases x with
  | _ => rfl

theorem nullable_float (x : Option Float) :
  nullable float (Json.ofFloat? x) = .valid x
  := by
  cases x with
  | _ => rfl

/-- A value that may be missing is null or read. -/
theorem of_nullable {read : Json → Checked α} {v : Json} {x : Option α}
    (h : nullable read v = .valid x) :
  ∀ a ∈ x, ∃ v, read v = .valid a
  := by
  intro a ha
  cases v with
  | null =>
      cases h
      cases ha
  | _ =>
      obtain ⟨b, hb, rfl⟩ := Checked.map_eq_valid.mp h
      cases ha
      exact ⟨_, hb⟩

end SnippetProfiler.Validation
