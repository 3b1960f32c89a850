import TextVec.Text.Whitespace

/-!
# The fields of a text

A field is a run of characters that are not white space and that is as long as it can be. Main
statement: the first field of a text stands between white space and white space, or the end of the
text, and the other fields are those of what follows it.
-/

namespace TextVec.Text

/-- Some characters, none of which is white space. -/
structure IsField (word : List Char) : Prop where
  /-- There is one at least. -/
  nonempty : word ≠ []
  /-- None of them is white space. -/
  solid : ∀ c ∈ word, isWhitespace c = false

/-! ## Reading character by character -/

/-- White space before the first field does not matter. -/
theorem fieldsFrom_gap {gap : List Char} (blank : ∀ c ∈ gap, isWhitespace c = true)
    (rest : List Char) : fieldsFrom [] (gap ++ rest) = fieldsFrom [] rest := by
  induction gap with
  | nil => rfl
  | cons c gap ih =>
    have blankHere := blank c (List.mem_cons_self ..)
    rw [List.cons_append, fieldsFrom, if_pos blankHere, if_pos List.isEmpty_nil]
    exact ih fun d h => blank d (List.mem_cons_of_mem _ h)

/-- Characters that are not white space belong to the field so far. -/
theorem fieldsFrom_solid {solid : List Char} (h : ∀ c ∈ solid, isWhitespace c = false)
    (word rest : List Char) :
    fieldsFrom word (solid ++ rest) = fieldsFrom (solid.reverse ++ word) rest := by
  induction solid generalizing word with
  | nil => rfl
  | cons c more ih =>
    have solidHere : ¬ isWhitespace c = true := by simp [h c (List.mem_cons_self ..)]
    rw [List.cons_append, fieldsFrom, if_neg solidHere,
      ih fun d k => h d (List.mem_cons_of_mem _ k), List.reverse_cons, List.append_assoc,
      List.singleton_append]

/-- A field that has begun ends where the text does or where white space follows. -/
theorem fieldsFrom_end {word rest : List Char} (nonempty : word ≠ [])
    (ended : ∀ c, rest.head? = some c → isWhitespace c = true) :
    fieldsFrom word rest = word.reverse :: fields rest := by
  have begun : ¬ word.isEmpty = true := by simpa using nonempty
  cases rest with
  | nil => rw [fieldsFrom, if_neg begun]; rfl
  | cons c more =>
    have blank := ended c rfl
    rw [fields, fieldsFrom, if_pos blank, if_neg begun, fieldsFrom, if_pos blank,
      if_pos List.isEmpty_nil]

/-- Whatever is read is a field, if what was read so far is solid. -/
theorem isField_of_mem_fieldsFrom {word text field : List Char}
    (solid : ∀ c ∈ word, isWhitespace c = false) (h : field ∈ fieldsFrom word text) :
    IsField field := by
  -- What was read so far is kept reversed, and is a field once it has a character.
  have read (begun : ¬ word.isEmpty = true) : IsField word.reverse :=
    ⟨by simpa using begun, fun c k => solid c (List.mem_reverse.mp k)⟩
  -- On the text, with any word that was begun.
  induction text generalizing word with
  | nil =>
    rw [fieldsFrom] at h
    split at h
    · cases h
    · rename_i begun
      rw [List.mem_singleton.mp h]
      exact read begun
  | cons c rest ih =>
    have nothing : ∀ c ∈ ([] : List Char), isWhitespace c = false := by simp
    rw [fieldsFrom] at h
    split at h
    · split at h
      · exact ih nothing h (by simp)
      · rename_i begun
        rcases List.mem_cons.mp h with rfl | h
        · exact read begun
        · exact ih nothing h (by simp)
    · rename_i other
      have longer : ∀ d ∈ c :: word, isWhitespace d = false := by
        simpa using ⟨by simpa using other, solid⟩
      exact ih longer h fun _ => ⟨by simp, fun d k => longer d (List.mem_reverse.mp k)⟩

/-! ## Fields -/

/-- All fields of a text are fields. -/
theorem isField_of_mem_fields {text field : List Char} (h : field ∈ fields text) :
    IsField field :=
  isField_of_mem_fieldsFrom (by simp) h

/-- White space has no fields. -/
theorem fields_of_blank {text : List Char} (blank : ∀ c ∈ text, isWhitespace c = true) :
    fields text = [] := by
  have read := fieldsFrom_gap blank []
  rwa [List.append_nil] at read

/-- A text is white space, or it has a first field. -/
theorem blank_or_exists_field (text : List Char) :
    (∀ c ∈ text, isWhitespace c = true) ∨
      ∃ gap field rest, text = gap ++ field ++ rest ∧ (∀ c ∈ gap, isWhitespace c = true) ∧
        IsField field ∧ ∀ c, rest.head? = some c → isWhitespace c = true := by
  induction text with
  | nil => exact .inl (by simp)
  | cons c text ih =>
    by_cases blank : isWhitespace c = true
    · rcases ih with allBlank | ⟨gap, field, rest, rfl, gapBlank, isField, ended⟩
      · exact .inl (by simpa using ⟨blank, allBlank⟩)
      · exact .inr ⟨c :: gap, field, rest, rfl, by simpa using ⟨blank, gapBlank⟩, isField, ended⟩
    · -- The character begins the first field, which goes on exactly if no white space follows.
      have solid : isWhitespace c = false := by simpa using blank
      have alone : IsField [c] := ⟨List.cons_ne_nil _ _, by simpa using solid⟩
      rcases ih with allBlank | ⟨gap, field, rest, rfl, gapBlank, isField, ended⟩
      · exact .inr ⟨[], [c], text, rfl, by simp, alone,
          fun d h => allBlank d (List.mem_of_mem_head? h)⟩
      · cases gap with
        | nil =>
          exact .inr ⟨[], c :: field, rest, rfl, by simp,
            ⟨List.cons_ne_nil _ _, by simpa using ⟨solid, isField.solid⟩⟩, ended⟩
        | cons g gap =>
          refine .inr ⟨[], [c], g :: gap ++ field ++ rest, rfl, by simp, alone, ?_⟩
          intro d h
          cases h
          exact gapBlank g (List.mem_cons_self ..)

/-- **The fields of a text** are its first one and those of what follows it. -/
theorem fields_eq_cons_iff {text field : List Char} {others : List (List Char)} :
    fields text = field :: others ↔
      ∃ gap rest, text = gap ++ field ++ rest ∧ (∀ c ∈ gap, isWhitespace c = true) ∧
        IsField field ∧ (∀ c, rest.head? = some c → isWhitespace c = true) ∧
        fields rest = others := by
  -- Reading past the gap, through the field and to its end gives the first field.
  have read {gap field rest : List Char} (blank : ∀ c ∈ gap, isWhitespace c = true)
      (isField : IsField field) (ended : ∀ c, rest.head? = some c → isWhitespace c = true) :
      fields (gap ++ field ++ rest) = field :: fields rest := by
    have begun : field.reverse ≠ [] := by simpa using isField.nonempty
    rw [fields, List.append_assoc, fieldsFrom_gap blank, fieldsFrom_solid isField.solid,
      List.append_nil, fieldsFrom_end begun ended, List.reverse_reverse]
  constructor
  -- A text with a first field is not white space, and the field that was read is the one that it
  -- has.
  · intro h
    rcases blank_or_exists_field text with blank | ⟨gap, first, rest, rfl, blank, isField, ended⟩
    · rw [fields_of_blank blank] at h
      cases h
    · rw [read blank isField ended] at h
      cases h
      exact ⟨gap, rest, rfl, blank, isField, ended, rfl⟩
  · rintro ⟨gap, rest, rfl, blank, isField, ended, rfl⟩
    exact read blank isField ended

end TextVec.Text
