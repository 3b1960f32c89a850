import TextVec.Proofs.Outcome
import TextVec.Yaml.Decode

/-!
# Fields of a record

What a key reads as does not depend on its tags, so a mapping may have several values under one
name. A record is read field by field, and a field must not come twice.
-/

namespace TextVec.Yaml

/-! ## What is under a name -/

/-- The values under keys that read as `name`, in order. -/
def Mapping.valuesOf (entries : Mapping) (name : String) : List Value :=
  (entries.filter fun entry => entry.1.text? == some name).map (·.2)

theorem Mapping.valuesOf_cons (key value : Value) (rest : Mapping) (name : String) :
    valuesOf ((key, value) :: rest) name =
      if key.text? = some name then value :: valuesOf rest name else valuesOf rest name := by
  simp only [valuesOf, List.filter_cons, beq_iff_eq]
  split <;> rfl

theorem Mapping.mem_valuesOf {entries : Mapping} {name : String} {value : Value} :
    value ∈ valuesOf entries name ↔
      ∃ entry ∈ entries, entry.1.text? = some name ∧ entry.2 = value := by
  simp [valuesOf, and_assoc]

/-- What a value must be where a mapping may be left out. -/
def Value.IsMappingOrNull (value : Value) : Prop :=
  value = .null ∨ ∃ entries, value = .mapping entries

/-! ## Reading a field -/

/-- A field takes a value once: it has none before, and the value can be read. -/
theorem once_eq_ok_iff {γ : Type} {field : String} {old next : Option γ} {value : Decoded γ} :
    once field old value = .ok next ↔ old = none ∧ ∃ x, value = .ok x ∧ next = some x := by
  cases old with
  | none => cases value <;> simp [once, Except.map, eq_comm]
  | some _ => simp [once]

/-- What comes of a field by reading the values under its name: without a value it stays what it
was, and it takes one value if it had none before. -/
inductive FieldRead {γ : Type} (decode : Value → Decoded γ) :
    List Value → Option γ → Option γ → Prop where
  /-- There is no value under the name. -/
  | missing (old : Option γ) : FieldRead decode [] old old
  /-- There is one, and it can be read. -/
  | given {value : Value} {x : γ} (h : decode value = .ok x) :
      FieldRead decode [value] none (some x)

section

variable {γ : Type} {decode : Value → Decoded γ} {old new : Option γ}

/-- Without values nothing changes. -/
theorem fieldRead_nil_iff : FieldRead decode [] old new ↔ old = new := by
  constructor
  · rintro ⟨⟩
    rfl
  · rintro rfl
    exact .missing old

/-- Values are read one after the other. -/
theorem fieldRead_cons_iff (field : String) {value : Value} {rest : List Value} :
    FieldRead decode (value :: rest) old new ↔
      ∃ next, once field old (decode value) = .ok next ∧ FieldRead decode rest next new := by
  simp only [once_eq_ok_iff]
  constructor
  -- One value can only be the last one, since a second one is refused.
  · intro h
    cases h with
    | given h => exact ⟨_, ⟨rfl, _, h, rfl⟩, .missing _⟩
  · rintro ⟨next, ⟨rfl, x, h, rfl⟩, more⟩
    -- The field has a value now, so there is no other one.
    cases more with
    | missing => exact .given h

/-- What one entry makes of the field of a name: it is read if it is under that name. -/
def EntryRead (decode : Value → Decoded γ) (name : String) (entry : Value × Value)
    (old next : Option γ) : Prop :=
  if entry.1.text? = some name then once name old (decode entry.2) = .ok next else next = old

/-- A field is read entry by entry. -/
theorem fieldRead_valuesOf_cons_iff {name : String} {entry : Value × Value} {rest : Mapping} :
    FieldRead decode (Mapping.valuesOf (entry :: rest) name) old new ↔
      ∃ next, EntryRead decode name entry old next ∧
        FieldRead decode (rest.valuesOf name) next new := by
  obtain ⟨key, value⟩ := entry
  rw [Mapping.valuesOf_cons]
  unfold EntryRead
  split
  · exact fieldRead_cons_iff name
  · simp only [exists_eq_left]

end

end TextVec.Yaml
