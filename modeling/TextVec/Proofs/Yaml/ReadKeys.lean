import TextVec.Yaml.Read

/-!
# The keys of a mapping that is read

Reading refuses a mapping in which a key comes twice. So the mapping that a text is read as has
every key once, and only a mapping that is written out can be read as one: a scalar never stands for
it.
-/

namespace TextVec.Yaml

/-! ## Scalars -/

/-- A value that is no mapping, whatever its tags. -/
def Value.IsPlain (value : Value) : Prop := ∀ entries, value.untagged ≠ .mapping entries

theorem isPlain_null : Value.null.IsPlain := by
  intro entries h
  cases h

theorem isPlain_bool (b : Bool) : (Value.bool b).IsPlain := by
  intro entries h
  cases h

theorem isPlain_number (n : Number) : (Value.number n).IsPlain := by
  intro entries h
  cases h

theorem isPlain_string (text : String) : (Value.string text).IsPlain := by
  intro entries h
  cases h

/-- A tag does not count once tags are taken off. -/
theorem untagged_withTag (tag : Option String) (value : Value) :
    (withTag tag value).untagged = value.untagged := by
  unfold withTag
  split <;> simp [Value.untagged]

/-- A whole number is a number, however large it is. -/
theorem isPlain_of_resolveWhole {n : Int} {value : Value}
    (h : resolveWhole n = some (.value value)) : value.IsPlain := by
  unfold resolveWhole at h
  split at h
  · cases h
    exact isPlain_number _
  · split at h <;> cases h

/-- What a plain word stands for is no mapping. -/
theorem isPlain_of_resolve {text : String} {value : Value} (h : resolve text = .value value) :
    value.IsPlain := by
  -- Words are tried first, then whole numbers, and then other numbers; what is left is text.
  simp only [resolve] at h
  split at h
  · cases h
    exact isPlain_null
  · split at h
    · cases h
      exact isPlain_bool _
    · split at h
      · rename_i resolved whole
        rw [h] at whole
        obtain ⟨n, -, whole⟩ := Option.bind_eq_some_iff.mp whole
        exact isPlain_of_resolveWhole whole
      · split at h
        · cases h
          exact isPlain_number _
        · cases h

/-- A plain scalar stands for what it is resolved to, or for its text. -/
theorem isPlain_of_plainValue? {text : String} {value : Value} (h : plainValue? text = some value) :
    value.IsPlain := by
  unfold plainValue? at h
  split at h
  · rename_i resolved
    cases h
    exact isPlain_of_resolve resolved
  · cases h
  · cases h
    exact isPlain_string text

/-- Under a standard tag stands a value of that sort, which is never a mapping. -/
theorem isPlain_of_standardValue? {tag text : String} {value : Value}
    (h : standardValue? tag text = some value) : value.IsPlain := by
  unfold standardValue? at h
  -- One sort after the other: truth values, whole numbers, other numbers, null and text.
  split at h
  · obtain ⟨b, -, rfl⟩ := Option.map_eq_some_iff.mp h
    exact isPlain_bool b
  · split at h
    · split at h
      · rename_i number
        cases h
        obtain ⟨n, -, whole⟩ := Option.bind_eq_some_iff.mp number
        exact isPlain_of_resolveWhole whole
      · cases h
    · split at h
      · obtain ⟨x, -, rfl⟩ := Option.map_eq_some_iff.mp h
        exact isPlain_number _
      · split at h
        · split at h
          · cases h
            exact isPlain_null
          · cases h
        · cases h
          exact isPlain_string text

/-- A scalar never stands for a mapping. -/
theorem isPlain_of_scalarValue? {tag : Option String} {text : String} {style : ScalarStyle}
    {value : Value} (h : scalarValue? tag text style = some value) : value.IsPlain := by
  have content {value : Value}
      (h : (if style = .plain then plainValue? text else some (.string text)) = some value) :
      value.IsPlain := by
    split at h
    · exact isPlain_of_plainValue? h
    · cases h
      exact isPlain_string text
  simp only [scalarValue?] at h
  cases tag with
  | none => exact content h
  | some tag =>
    cases own : tagName? tag with
    | none =>
      simp only [own] at h
      exact isPlain_of_standardValue? h
    | some name =>
      simp only [own] at h
      -- A tag of its own is put on the content, and below it there is no mapping either.
      obtain ⟨inner, hInner, rfl⟩ := Option.map_eq_some_iff.mp h
      have plain : inner.IsPlain := content hInner
      exact plain

/-! ## Nodes -/

/-- Readings in sequence hand on what is left of the allowance for aliases. -/
theorem Reading.bind_eq_some_iff {α β : Type} {x : Reading α} {f : α → Reading β}
    {left rest : Nat} {b : β} :
    (x >>= f) left = some (b, rest) ↔
      ∃ a between, x left = some (a, between) ∧ f a between = some (b, rest) := by
  simp [bind, StateT.bind, Option.bind_eq_some_iff]

/-- The value of a scalar node, whatever could follow it. -/
theorem isPlain_of_scalarNode {tag : Option String} {text : String} {style : ScalarStyle}
    {value : Value} {left rest : Nat}
    (h : (scalarValue? tag text style).map (·, left) = some (value, rest)) : value.IsPlain := by
  obtain ⟨scalar, hScalar, same⟩ := Option.map_eq_some_iff.mp h
  cases same
  exact isPlain_of_scalarValue? hScalar

/-- The keys of a mapping that is read differ, whatever its tags. -/
theorem keysDiffer_of_valueOf {anchored : List (Nat × Node)} {depth left rest : Nat} {node : Node}
    {value : Value} (h : valueOf anchored depth node left = some (value, rest)) {entries : Mapping}
    (mapping : value.untagged = .mapping entries) : keysDiffer entries = true := by
  cases depth with
  | zero =>
    -- At the greatest depth nothing but a scalar is read.
    rw [valueOf] at h
    obtain ⟨followed, between, -, h⟩ := Reading.bind_eq_some_iff.mp h
    cases followed with
    | scalar slot tag text style => exact absurd mapping (isPlain_of_scalarNode h entries)
    | _ => cases h
  | succ depth =>
    rw [valueOf] at h
    obtain ⟨followed, between, -, h⟩ := Reading.bind_eq_some_iff.mp h
    cases followed with
    | scalar slot tag text style => exact absurd mapping (isPlain_of_scalarNode h entries)
    | sequence slot tag items =>
      obtain ⟨values, _, -, h⟩ := Reading.bind_eq_some_iff.mp h
      cases h
      rw [untagged_withTag] at mapping
      cases mapping
    | mapping slot tag nodes =>
      obtain ⟨found, _, -, h⟩ := Reading.bind_eq_some_iff.mp h
      -- The keys were compared before the mapping was made.
      split at h
      · rename_i differ
        cases h
        rw [untagged_withTag] at mapping
        cases mapping
        exact differ
      · cases h
    | _ => cases h

/-- A mapping that is read from a text has no key twice. -/
theorem Mapping.keysDiffer_of_read? {text : String} {entries : Mapping}
    (h : Mapping.read? text = some entries) : keysDiffer entries = true := by
  unfold Mapping.read? at h
  obtain ⟨root, -, h⟩ := Option.bind_eq_some_iff.mp h
  -- An empty text, or one empty scalar, is the empty mapping; everything else is read as a value.
  split at h
  · cases h
    rfl
  · split at h
    · cases h
      rfl
    · cases h
  · obtain ⟨value, hValue, h⟩ := Option.bind_eq_some_iff.mp h
    obtain ⟨⟨read, left⟩, hRead, rfl⟩ := Option.map_eq_some_iff.mp hValue
    split at h
    · rename_i mapping
      cases h
      exact keysDiffer_of_valueOf hRead mapping
    · cases h

end TextVec.Yaml
