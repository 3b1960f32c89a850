import TextVec.Proofs.Centroid.Trained
import TextVec.Proofs.Component.Acceptance
import TextVec.Proofs.Splat.RoundTrip
import TextVec.Proofs.Yaml.Fields

/-!
# Documents of centroids

A document of a centroid may be written in many ways: settings may be left out or null, come in any
order and under tags, and there may be others among them. Loading it gives a new centroid that has
captured all settings in one order, so the document that is written of it is the same for all these
ways, and loading that changes nothing any more. Which documents are loaded at all is said by what
their sections describe, not by the steps of reading them.
-/

namespace TextVec

open Yaml (Value Mapping EntryRead FieldRead)

/-! ## The configuration -/

namespace CentroidConfig

/-- Reads one entry of a configuration. -/
def readEntry (draft : Draft) (entry : Value × Value) : Decoded Draft := do
  let field ← entry.1.decodeText "field identifier"
  draft.read field entry.2

theorem readEntry_of_text {draft : Draft} {key value : Value} {field : String}
    (reads : key.text? = some field) : readEntry draft (key, value) = draft.read field value := by
  unfold readEntry
  rw [Value.decodeText_eq_ok_iff.mpr reads]
  rfl

/-- What settings say a configuration is: every key is the name of a field, or of something else
that does not count; the number of dimensions is given once, and the label and the scale at most
once. -/
structure Describes (settings : Mapping) (config : CentroidConfig) : Prop where
  /-- Every key is a text, be it a name of a field or not. -/
  named : ∀ entry ∈ settings, ∃ field, entry.1.text? = some field
  /-- The number of dimensions has no default. -/
  dims : FieldRead Value.decodeSize (settings.valuesOf "dims") none (some config.dims)
  /-- The label is a text or null, and null if nothing is said. -/
  label : ∃ label, FieldRead (Value.decodeOption (Value.decodeText "a string"))
    (settings.valuesOf "label") none label ∧ config.label = label.getD none
  /-- The scale is one if nothing is said. -/
  scale : ∃ scale, FieldRead Value.decodeDouble (settings.valuesOf "scale") none scale ∧
    config.scale = scale.getD .one

section

variable (draft : Draft) (value : Value)

/-- Reading the dimensions leaves the other fields alone. -/
theorem Draft.read_dims :
    draft.read "dims" value =
      (once "dims" draft.dims value.decodeSize).map fun dims => { draft with dims } := by
  unfold Draft.read
  cases once "dims" draft.dims value.decodeSize <;> rfl

theorem Draft.read_label :
    draft.read "label" value =
      (once "label" draft.label (value.decodeOption (Value.decodeText "a string"))).map
        fun label => { draft with label } := by
  unfold Draft.read
  cases once "label" draft.label (value.decodeOption (Value.decodeText "a string")) <;> rfl

theorem Draft.read_scale :
    draft.read "scale" value =
      (once "scale" draft.scale value.decodeDouble).map fun scale => { draft with scale } := by
  unfold Draft.read
  cases once "scale" draft.scale value.decodeDouble <;> rfl

/-- What is no field is passed over. -/
theorem Draft.read_other {field : String} (notDims : field ≠ "dims") (notLabel : field ≠ "label")
    (notScale : field ≠ "scale") : draft.read field value = .ok draft := by
  simp only [Draft.read, beq_iff_eq, notDims, notLabel, notScale, if_false]
  rfl

end

/-- An entry with a name is read into each field by itself. -/
theorem Draft.read_eq_ok_iff {draft next : Draft} {key value : Value} {field : String}
    (reads : key.text? = some field) :
    draft.read field value = .ok next ↔
      EntryRead Value.decodeSize "dims" (key, value) draft.dims next.dims ∧
      EntryRead (Value.decodeOption (Value.decodeText "a string")) "label" (key, value)
        draft.label next.label ∧
      EntryRead Value.decodeDouble "scale" (key, value) draft.scale next.scale := by
  obtain ⟨dims, label, scale⟩ := next
  simp only [EntryRead, reads, Option.some.injEq]
  -- The name decides which one field the entry may change; it leaves the other two as they are.
  by_cases isDims : field = "dims"
  · subst isDims
    simp only [Draft.read_dims, Outcome.map_eq_ok_iff, Draft.mk.injEq, String.reduceEq, if_true,
      if_false]
    constructor
    · rintro ⟨_, read, rfl, rfl, rfl⟩
      exact ⟨read, rfl, rfl⟩
    · rintro ⟨read, rfl, rfl⟩
      exact ⟨_, read, rfl, rfl, rfl⟩
  by_cases isLabel : field = "label"
  · subst isLabel
    simp only [Draft.read_label, Outcome.map_eq_ok_iff, Draft.mk.injEq, String.reduceEq, if_true,
      if_false]
    constructor
    · rintro ⟨_, read, rfl, rfl, rfl⟩
      exact ⟨rfl, read, rfl⟩
    · rintro ⟨rfl, read, rfl⟩
      exact ⟨_, read, rfl, rfl, rfl⟩
  by_cases isScale : field = "scale"
  · subst isScale
    simp only [Draft.read_scale, Outcome.map_eq_ok_iff, Draft.mk.injEq, String.reduceEq, if_true,
      if_false]
    constructor
    · rintro ⟨_, read, rfl, rfl, rfl⟩
      exact ⟨rfl, rfl, read⟩
    · rintro ⟨rfl, rfl, read⟩
      exact ⟨_, read, rfl, rfl, rfl⟩
  -- A name of something else changes no field, and is no name of one either.
  · rw [Draft.read_other draft value isDims isLabel isScale]
    simp only [isDims, isLabel, isScale, if_false, Except.ok.injEq]
    constructor
    · rintro rfl
      exact ⟨rfl, rfl, rfl⟩
    · rintro ⟨rfl, rfl, rfl⟩
      rfl

/-- A draft is read from settings field by field. -/
theorem foldlM_readEntry_eq_ok_iff {settings : Mapping} {draft final : Draft} :
    settings.foldlM readEntry draft = .ok final ↔
      (∀ entry ∈ settings, ∃ field, entry.1.text? = some field) ∧
      FieldRead Value.decodeSize (settings.valuesOf "dims") draft.dims final.dims ∧
      FieldRead (Value.decodeOption (Value.decodeText "a string")) (settings.valuesOf "label")
        draft.label final.label ∧
      FieldRead Value.decodeDouble (settings.valuesOf "scale") draft.scale final.scale := by
  -- On the settings, from any draft: the first entry may fill a field of it.
  induction settings generalizing draft with
  | nil =>
    obtain ⟨dims, label, scale⟩ := draft
    obtain ⟨dims', label', scale'⟩ := final
    simp [pure, Except.pure, Mapping.valuesOf, Yaml.fieldRead_nil_iff]
  | cons entry rest ih =>
    rw [List.foldlM_cons, Outcome.bind_eq_ok_iff, List.forall_mem_cons]
    simp only [ih, Yaml.fieldRead_valuesOf_cons_iff]
    cases reads : entry.1.text? with
    | none =>
      -- A key that is no text is refused, whatever it is.
      have refused (next : Draft) : readEntry draft entry ≠ .ok next := by
        intro h
        obtain ⟨field, hField, -⟩ := Outcome.bind_eq_ok_iff.mp h
        rw [Value.decodeText_eq_ok_iff.mp hField] at reads
        cases reads
      simp [refused]
    | some field =>
      obtain ⟨key, value⟩ := entry
      simp only [readEntry_of_text reads, Draft.read_eq_ok_iff reads]
      -- The fields after the first entry make up the draft with which the rest begins.
      constructor
      · rintro ⟨next, ⟨hDims, hLabel, hScale⟩, named, dims, label, scale⟩
        exact ⟨⟨⟨field, rfl⟩, named⟩, ⟨_, hDims, dims⟩, ⟨_, hLabel, label⟩, ⟨_, hScale, scale⟩⟩
      · rintro ⟨⟨-, named⟩, ⟨_, hDims, dims⟩, ⟨_, hLabel, label⟩, ⟨_, hScale, scale⟩⟩
        exact ⟨⟨_, _, _⟩, ⟨hDims, hLabel, hScale⟩, named, dims, label, scale⟩

theorem required_eq_ok_iff {γ : Type} {field : String} {value : Option γ} {x : γ} :
    required field value = .ok x ↔ value = some x := by
  cases value <;> simp [required]

/-- **What a configuration is read from**: settings are decoded exactly if they describe it. -/
theorem ofYaml_eq_ok_iff {settings : Mapping} {config : CentroidConfig} :
    ofYaml (.mapping settings) = .ok config ↔ Describes settings config := by
  have opened : ofYaml (.mapping settings) = settings.foldlM readEntry {} >>= fun draft =>
      required "dims" draft.dims >>= fun dims =>
        pure ⟨dims, draft.label.getD none, draft.scale.getD .one⟩ := rfl
  rw [opened, Outcome.bind_eq_ok_iff]
  -- Of the fields of a draft only the dimensions must be there; the others have defaults.
  constructor
  · rintro ⟨draft, read, made⟩
    obtain ⟨dims, hRequired, made⟩ := Outcome.bind_eq_ok_iff.mp made
    cases Outcome.pure_eq_ok_iff.mp made
    obtain ⟨named, hDims, hLabel, hScale⟩ := foldlM_readEntry_eq_ok_iff.mp read
    rw [required_eq_ok_iff.mp hRequired] at hDims
    exact ⟨named, hDims, ⟨_, hLabel, rfl⟩, ⟨_, hScale, rfl⟩⟩
  · rintro ⟨named, hDims, ⟨label, hLabel, sameLabel⟩, ⟨scale, hScale, sameScale⟩⟩
    refine ⟨⟨some config.dims, label, scale⟩,
      foldlM_readEntry_eq_ok_iff.mpr ⟨named, hDims, hLabel, hScale⟩, ?_⟩
    rw [← sameLabel, ← sameScale]
    rfl

/-- Every double that is read is one that numbers can be. -/
theorem withOneNaN_of_decodeDouble {value : Value} {x : Double} (h : value.decodeDouble = .ok x) :
    x.withOneNaN = x := by
  unfold Value.decodeDouble at h
  -- A double is read off a number with a point or one without, and either has one NaN.
  split at h
  · cases h
    exact Double.withOneNaN_withOneNaN _
  · cases h
    exact Double.withOneNaN_withOneNaN _
  · cases h

/-- So the scale of a configuration that was read can be written without loss. -/
theorem Describes.scale_withOneNaN {settings : Mapping} {config : CentroidConfig}
    (h : Describes settings config) : config.scale.withOneNaN = config.scale := by
  obtain ⟨scale, read, same⟩ := h.scale
  rw [same]
  generalize settings.valuesOf "scale" = values at read
  -- The default is no NaN at all, and anything else was read.
  cases read with
  | missing => decide
  | given decoded => exact withOneNaN_of_decodeDouble decoded

/-- The arguments that stand for a configuration describe it, if its scale can be written. -/
theorem describes_parameters {config : CentroidConfig}
    (writable : config.scale.withOneNaN = config.scale) :
    Describes (Centroid.parameters config) config := by
  have readLabel : (config.label.elim Value.null Value.string).decodeOption
      (Value.decodeText "a string") = .ok config.label := by
    cases config.label <;> rfl
  have readDims := Value.decodeSize_nat config.dims
  -- All three fields are there once, so each is read from its own entry.
  refine ⟨?_, ?_, ⟨some config.label, ?_, rfl⟩, ⟨some config.scale, ?_, rfl⟩⟩
  · simp [Centroid.parameters, Value.text?, Value.untagged]
  · exact .given readDims
  · exact .given readLabel
  · refine .given (congrArg Except.ok ?_)
    rw [writable, writable]

end CentroidConfig

/-! ## Properties -/

namespace Properties

/-- A property that no component has. -/
def IsUnknown (entry : Value × Value) : Prop := ∀ name ∈ propertyNames, entry.1.text? ≠ some name

/-- A property with a value that is none of its values: a truth value says whether a component is
trained, and the size of batches is a whole number that is not negative, or null for none. -/
def IsIllTyped (entry : Value × Value) : Prop :=
  entry.1.text? = some "is_trained" ∧ (∀ b, entry.2.untagged ≠ .bool b) ∨
    entry.1.text? = some "batch_size" ∧ entry.2 ≠ .null ∧ ∀ n : Nat, entry.2.untagged ≠ .nat n

/-- What is decoded as a truth value is one, be it under a tag. -/
theorem exists_decodeBool_iff {value : Value} :
    (∃ b, value.decodeBool = .ok b) ↔ ∃ b, value.untagged = .bool b := by
  unfold Value.decodeBool Value.wrongType
  cases value.untagged <;> simp

/-- What is decoded as a size is a whole number that is not negative. -/
theorem exists_decodeSize_iff {value : Value} :
    (∃ n, value.decodeSize = .ok n) ↔ ∃ n : Nat, value.untagged = .nat n := by
  unfold Value.decodeSize Value.wrongType Value.nat
  cases value.untagged with
  | number number =>
    cases number with
    | int n =>
      -- A number below zero is out of range, and any other one is read.
      by_cases negative : n < 0
      · have none (m : Nat) : n ≠ m := by omega
        simp [negative, none]
      · have same : n = n.toNat := by omega
        simp only [negative, if_false]
        exact ⟨fun _ => ⟨n.toNat, by rw [← same]⟩, fun _ => ⟨_, rfl⟩⟩
    | float x => simp
  | _ => simp

section

variable (properties : Properties) {key value : Value}

/-- Setting a property that is known is decoding its value. -/
theorem set_of_isTrained (reads : key.text? = some "is_trained") :
    properties.set key value =
      (check "is_trained" value.decodeBool).map fun isTrained => { properties with isTrained } := by
  simp only [set, reads]
  cases check "is_trained" value.decodeBool <;> rfl

/-- The size of batches may also be null. -/
theorem set_of_batchSize (reads : key.text? = some "batch_size") :
    properties.set key value =
      (check "batch_size" (value.decodeOption Value.decodeSize)).map
        fun batchSize => { properties with batchSize } := by
  simp only [set, reads]
  cases check "batch_size" (value.decodeOption Value.decodeSize) <;> rfl

/-- Setting one that is unknown is refused, and the message has its key. -/
theorem set_of_isUnknown (unknown : IsUnknown (key, value)) :
    properties.set key value = .error (.misconfigured (.unknownProperty key)) := by
  have notTrained := unknown "is_trained" (by simp [propertyNames])
  have notSize := unknown "batch_size" (by simp [propertyNames])
  unfold set
  split
  · contradiction
  · contradiction
  · rfl

end

/-- Checking says which property is meant and changes nothing else. -/
theorem exists_check_iff {γ : Type} {name : String} {value : Decoded γ} :
    (∃ x, check name value = .ok x) ↔ ∃ x, value = .ok x := by
  cases value <;> simp [check]

theorem exists_map_iff {ε γ δ : Type} {x : Except ε γ} {f : γ → δ} :
    (∃ d, x.map f = .ok d) ↔ ∃ c, x = .ok c := by
  cases x <;> simp [Except.map]

/-- Null is decoded as nothing, and anything else as before. -/
theorem exists_decodeOption_iff {γ : Type} {decode : Value → Decoded γ} {value : Value} :
    (∃ x, value.decodeOption decode = .ok x) ↔ value = .null ∨ ∃ x, decode value = .ok x := by
  by_cases null : value = .null
  · subst null
    simp [Value.decodeOption]
  · have decoded : value.decodeOption decode = (decode value).map some := by
      -- Null was taken care of, and on all other values both sides are one definition.
      cases value
      case null => contradiction
      all_goals rfl
    simp only [decoded, exists_map_iff, null, false_or]

/-- A property can be set exactly if it is known and has one of its values. -/
theorem exists_set_iff (properties : Properties) (key value : Value) :
    (∃ next, properties.set key value = .ok next) ↔
      ¬ (IsUnknown (key, value) ∨ IsIllTyped (key, value)) := by
  -- Which property is meant is a matter of what its key reads as, so it may be under a tag.
  by_cases isTrained : key.text? = some "is_trained"
  · have known : ¬ IsUnknown (key, value) := fun unknown =>
      unknown "is_trained" (by simp [propertyNames]) isTrained
    have illTyped : IsIllTyped (key, value) ↔ ∀ b, value.untagged ≠ .bool b := by
      simp only [IsIllTyped, isTrained, true_and, Option.some.injEq, String.reduceEq, false_and,
        or_false]
    rw [set_of_isTrained properties isTrained, exists_map_iff, exists_check_iff,
      exists_decodeBool_iff, illTyped]
    simp only [known, false_or, Classical.not_forall, ne_eq, Classical.not_not]
  · by_cases batchSize : key.text? = some "batch_size"
    · have known : ¬ IsUnknown (key, value) := fun unknown =>
        unknown "batch_size" (by simp [propertyNames]) batchSize
      have illTyped : IsIllTyped (key, value) ↔
          value ≠ .null ∧ ∀ n : Nat, value.untagged ≠ .nat n := by
        simp only [IsIllTyped, batchSize, true_and, Option.some.injEq, String.reduceEq, false_and,
          false_or]
      rw [set_of_batchSize properties batchSize, exists_map_iff, exists_check_iff,
        exists_decodeOption_iff, exists_decodeSize_iff, illTyped]
      simp only [known, false_or, Classical.not_and_iff_not_or_not, Classical.not_forall, ne_eq,
        Classical.not_not]
    · have unknown : IsUnknown (key, value) := by
        simp [IsUnknown, propertyNames, isTrained, batchSize]
      rw [set_of_isUnknown properties unknown]
      simp [unknown]

theorem misconfigured_of_check {γ : Type} {name : String} {value : Decoded γ} {failure : Failure}
    (h : check name value = .error failure) : ∃ why, failure = .misconfigured why := by
  cases value <;> simp only [check, Except.error.injEq, reduceCtorEq] at h
  exact ⟨_, h.symm⟩

/-- A property that cannot be set is misconfigured. -/
theorem misconfigured_of_set {properties : Properties} {key value : Value} {failure : Failure}
    (h : properties.set key value = .error failure) : ∃ why, failure = .misconfigured why := by
  by_cases isTrained : key.text? = some "is_trained"
  · rw [set_of_isTrained properties isTrained, Outcome.map_eq_error_iff] at h
    exact misconfigured_of_check h
  · by_cases batchSize : key.text? = some "batch_size"
    · rw [set_of_batchSize properties batchSize, Outcome.map_eq_error_iff] at h
      exact misconfigured_of_check h
    · rw [set_of_isUnknown properties (by simp [IsUnknown, propertyNames, isTrained, batchSize])]
        at h
      cases h
      exact ⟨_, rfl⟩

/-- Properties can be set one after the other exactly if each of them can. -/
theorem exists_apply_iff (properties : Properties) (overrides : Mapping) :
    (∃ set, properties.apply overrides = (.ok (), set)) ↔
      ∀ entry ∈ overrides, ¬ (IsUnknown entry ∨ IsIllTyped entry) := by
  induction overrides generalizing properties with
  | nil => simp [apply]
  | cons entry rest ih =>
    obtain ⟨key, value⟩ := entry
    rw [List.forall_mem_cons, ← exists_set_iff properties]
    unfold apply
    -- The rest is set over what the first entry gave; but whether it can be is its own matter.
    cases properties.set key value with
    | ok next => simp [ih next]
    | error failure => simp

/-- Properties that cannot be set are misconfigured. -/
theorem misconfigured_of_apply {properties set : Properties} {overrides : Mapping}
    {failure : Failure} (h : properties.apply overrides = (.error failure, set)) :
    ∃ why, failure = .misconfigured why := by
  induction overrides generalizing properties with
  | nil => cases h
  | cons entry rest ih =>
    obtain ⟨key, value⟩ := entry
    unfold apply at h
    cases set : properties.set key value with
    | ok next => exact ih (by simpa only [set] using h)
    | error why =>
      simp only [set, Prod.mk.injEq, Except.error.injEq] at h
      exact misconfigured_of_set (h.1 ▸ set)

end Properties

/-! ## Sections -/

namespace Document

variable {sections : Mapping} {place : Section}

/-- A section can be read exactly if it is missing, null or a mapping. -/
theorem exists_sectionOf_iff :
    (∃ entries, sectionOf sections place = .ok entries) ↔
      ∀ value, Mapping.get? sections place.name = some value →
        value.IsMappingOrNull := by
  unfold sectionOf
  cases Mapping.get? sections place.name with
  | none => simp
  | some value =>
    simp only [Option.some.injEq, forall_eq']
    exact exists_mappingOr_iff

theorem misconfigured_of_sectionOf {failure : Failure}
    (h : sectionOf sections place = .error failure) : ∃ why, failure = .misconfigured why := by
  unfold sectionOf at h
  split at h
  · cases h
  · exact misconfigured_of_mappingOr h

end Document

/-! ## Loading -/

namespace Centroid

/-- The new centroid that a document is loaded as. -/
def loaded (settings : HandleSettings) (config : CentroidConfig) (properties : Properties) :
    Centroid where
  base := ⟨parameters config, properties, .attach (Component.kind Centroid) settings⟩
  config
  centroid := List.replicate config.dims.toNat .zero

/-- What is loaded is told by the configuration and the properties in the document. -/
theorem ofBody_eq_ok_iff {settings : HandleSettings} {sections : Mapping} {c : Centroid} :
    Component.ofBody Centroid settings sections = .ok c ↔
      ∃ entries overrides config properties,
        Document.sectionOf sections .parameter = .ok entries ∧
        Document.sectionOf sections .property = .ok overrides ∧
        CentroidConfig.Describes entries config ∧ config.dims ≠ 0 ∧
        ({} : Properties).apply overrides = (.ok (), properties) ∧
        loaded settings config properties = c := by
  rw [Component.ofBody_eq_ok_iff]
  -- A centroid keeps no raw arguments, so the parameters are those of its configuration.
  constructor
  · rintro ⟨entries, overrides, config, raw, new, set, hEntries, hOverrides, hRead, hNew, hSet, rfl⟩
    obtain ⟨some, rfl⟩ := build_eq_ok_iff.mp hNew
    obtain ⟨decoded, -⟩ := (Component.readArguments_eq_ok_iff rfl).mp hRead
    exact ⟨entries, overrides, config, set, hEntries, hOverrides,
      CentroidConfig.ofYaml_eq_ok_iff.mp decoded, some, hSet, rfl⟩
  · rintro ⟨entries, overrides, config, properties, hEntries, hOverrides, described, some, hSet, rfl⟩
    exact ⟨entries, overrides, config, {}, _, properties, hEntries, hOverrides,
      (Component.readArguments_eq_ok_iff rfl).mpr
        ⟨CentroidConfig.ofYaml_eq_ok_iff.mpr described, rfl⟩,
      build_eq_ok_iff.mpr ⟨some, rfl⟩, hSet, rfl⟩

/-- What is wrong with the sections of a document that is rejected. -/
inductive Rejected (sections : Mapping) : Prop where
  /-- A section is something else than a mapping or null. -/
  | shape (place : Section) {value : Value}
      (given : Mapping.get? sections place.name = some value)
      (other : ¬ value.IsMappingOrNull)
  /-- The parameters describe no configuration that has a dimension. -/
  | parameters {entries : Mapping} (given : Document.sectionOf sections .parameter = .ok entries)
      (flat : ∀ config, CentroidConfig.Describes entries config → config.dims = 0)
  /-- A property is unknown, or has a value that is none of its values. -/
  | property {entries : Mapping} {entry : Value × Value}
      (given : Document.sectionOf sections .property = .ok entries) (member : entry ∈ entries)
      (wrong : Properties.IsUnknown entry ∨ Properties.IsIllTyped entry)

/-- A document is loaded exactly if nothing is wrong with it. -/
theorem exists_ofBody_iff {settings : HandleSettings} {sections : Mapping} :
    (∃ c, Component.ofBody Centroid settings sections = .ok c) ↔ ¬ Rejected sections := by
  constructor
  · rintro ⟨c, hLoaded⟩ rejected
    obtain ⟨entries, overrides, config, properties, hEntries, hOverrides, described, some, hSet, -⟩ :=
      ofBody_eq_ok_iff.mp hLoaded
    -- Each thing that can be wrong contradicts one of the steps that succeeded.
    cases rejected with
    | shape place given other =>
      refine other (Document.exists_sectionOf_iff.mp ?_ _ given)
      cases place
      · exact ⟨entries, hEntries⟩
      · exact ⟨overrides, hOverrides⟩
    | parameters given flat =>
      rw [given] at hEntries
      cases hEntries
      exact some (flat config described)
    | property given member wrong =>
      rw [given] at hOverrides
      cases hOverrides
      exact (Properties.exists_apply_iff _ _).mp ⟨properties, hSet⟩ _ member wrong
  · intro accepted
    -- Each step of loading succeeds, or else what it met would be wrong.
    have readable (place : Section) : ∃ entries, Document.sectionOf sections place = .ok entries :=
      Document.exists_sectionOf_iff.mpr fun value given =>
        Classical.byContradiction fun other => accepted (.shape place given other)
    obtain ⟨entries, hEntries⟩ := readable .parameter
    obtain ⟨overrides, hOverrides⟩ := readable .property
    obtain ⟨config, described, some⟩ :
        ∃ config, CentroidConfig.Describes entries config ∧ config.dims ≠ 0 := by
      refine Classical.byContradiction fun none => accepted (.parameters hEntries ?_)
      intro config described
      exact Classical.byContradiction fun some => none ⟨config, described, some⟩
    obtain ⟨properties, hSet⟩ := (Properties.exists_apply_iff {} overrides).mpr
      fun entry member wrong => accepted (.property hOverrides member wrong)
    exact ⟨_, ofBody_eq_ok_iff.mpr
      ⟨entries, overrides, config, properties, hEntries, hOverrides, described, some, hSet, rfl⟩⟩

theorem misconfigured_of_readArguments {entries : Mapping} {failure : Failure}
    (h : Component.readArguments Centroid entries = .error failure) :
    ∃ why, failure = .misconfigured why := by
  -- No raw arguments are kept, so decoding the configuration is all that can fail.
  rcases Outcome.bind_eq_error_iff.mp h with h | ⟨⟨named, raw⟩, -, h⟩
  · cases h
  · simp only at h
    split at h
    · cases h
    · cases h
      exact ⟨_, rfl⟩

theorem misconfigured_of_build {environment : Environment} {config : CentroidConfig}
    {raw : RawArguments} {failure : Failure}
    (h : Component.build (α := Centroid) environment config raw = .error failure) :
    ∃ why, failure = .misconfigured why := by
  have made : Component.build (α := Centroid) environment config raw =
      if config.dims = 0 then .error (.misconfigured .zeroDims)
      else .ok (fresh environment config) := rfl
  rw [made] at h
  split at h
  · cases h
    exact ⟨_, rfl⟩
  · cases h

/-- A document that is not loaded is misconfigured. -/
theorem misconfigured_of_ofBody {settings : HandleSettings} {sections : Mapping}
    {failure : Failure} (h : Component.ofBody Centroid settings sections = .error failure) :
    ∃ why, failure = .misconfigured why := by
  unfold Component.ofBody at h
  -- Loading fails in its first step that does.
  rcases Outcome.bind_eq_error_iff.mp h with h | ⟨entries, -, h⟩
  · exact Document.misconfigured_of_sectionOf h
  rcases Outcome.bind_eq_error_iff.mp h with h | ⟨overrides, -, h⟩
  · exact Document.misconfigured_of_sectionOf h
  rcases Outcome.bind_eq_error_iff.mp h with h | ⟨⟨config, raw⟩, -, h⟩
  · exact misconfigured_of_readArguments h
  rcases Outcome.bind_eq_error_iff.mp h with h | ⟨c, -, h⟩
  · exact misconfigured_of_build h
  · simp only at h
    split at h
    · cases h
    · rename_i failed
      cases h
      exact Properties.misconfigured_of_apply failed

/-- What is written of a centroid that was loaded is loaded as the same, but for the handles. -/
theorem ofBody_body_loaded {config : CentroidConfig} (some : config.dims ≠ 0)
    (writable : config.scale.withOneNaN = config.scale) (settings later : HandleSettings)
    (properties : Properties) :
    Component.ofBody Centroid later (Component.body (loaded settings config properties)) =
      .ok (loaded later config properties) := by
  refine ofBody_eq_ok_iff.mpr ⟨_, _, config, properties, Component.sectionOf_body_parameter _,
    Component.sectionOf_body_property _, CentroidConfig.describes_parameters writable, some, ?_, rfl⟩
  -- Nothing was set in a new centroid, so the properties are those that were written.
  rw [Properties.apply_overrides, Bool.or_false, Option.or_none]
  rfl

/-- **Documents of centroids have a normal form.** A centroid that is loaded, however its document
was written, has captured all settings of its configuration in their order. The document that is
written of it loads again, as a centroid at the origin with the same configuration, arguments and
properties, and the document of that is the same, entry by entry. Only those documents are refused
of which a section is neither a mapping nor null, or the parameters describe no configuration with
a dimension, or a property is unknown or has none of its values; and what is refused is
misconfigured. -/
theorem document_is_normal_form (settings : HandleSettings) (sections : Mapping) :
    (∀ c, Component.ofBody Centroid settings sections = .ok c →
      c.base.arguments = parameters c.config ∧
      ∀ later, ∃ body reloaded,
        Document.ofValue (Component.document c) = .ok ⟨some (Component.kind Centroid), body⟩ ∧
        Component.ofBody Centroid later body = .ok reloaded ∧
        reloaded.config = c.config ∧
        reloaded.base.arguments = c.base.arguments ∧
        reloaded.base.properties = c.base.properties ∧
        reloaded.centroid = List.replicate c.config.dims.toNat .zero ∧
        Component.document reloaded = Component.document c) ∧
    ((∃ why, Component.ofBody Centroid settings sections = .error (.misconfigured why)) ↔
      Rejected sections) ∧
    ∀ failure, Component.ofBody Centroid settings sections = .error failure →
      ∃ why, failure = .misconfigured why := by
  refine ⟨fun c hLoaded => ?_, ?_, fun failure => misconfigured_of_ofBody⟩
  · obtain ⟨entries, overrides, config, properties, -, -, describes, some, -, rfl⟩ :=
      ofBody_eq_ok_iff.mp hLoaded
    refine ⟨rfl, fun later => ⟨_, loaded later config properties, ?_,
      ofBody_body_loaded some describes.scale_withOneNaN settings later properties,
      rfl, rfl, rfl, rfl, rfl⟩⟩
    exact Component.ofValue_document _
  · have rejects : Rejected sections ↔
        ¬ ∃ c, Component.ofBody Centroid settings sections = .ok c := by
      rw [exists_ofBody_iff, Classical.not_not]
    rw [rejects]
    -- What is not loaded fails, and it can fail in one way only.
    constructor
    · rintro ⟨why, failed⟩ ⟨c, hLoaded⟩
      rw [failed] at hLoaded
      cases hLoaded
    · intro none
      cases loads : Component.ofBody Centroid settings sections with
      | ok c => exact absurd ⟨c, loads⟩ none
      | error failure =>
        obtain ⟨why, rfl⟩ := misconfigured_of_ofBody loads
        exact ⟨why, rfl⟩

/-- A document with settings in disorder, one of them under a tag, one null and one of something
else; and one with no dimension at all. -/
theorem document_is_normal_form_messy :
    let sections : Mapping :=
      [(.string "property", .mapping
          [(.string "batch_size", .nat 32), (.string "is_trained", .bool true)]),
        (.string "note", .nat 1),
        (.string "parameter", .mapping
          [(.string "colour", .string "red"), (.string "label", .null),
            (.tagged "t" (.string "dims"), .nat 3)])]
    let flat : Mapping := [(.string "parameter", .mapping [(.string "dims", .nat 0)])]
    ∃ c, Component.ofBody Centroid {} sections = .ok c ∧
      Component.document c = .tagged "Centroid" (.mapping
        [(.string "parameter", .mapping
            [(.string "dims", .nat 3), (.string "label", .null),
              (.string "scale", .number (.float .one))]),
          (.string "property", .mapping
            [(.string "is_trained", .bool true), (.string "batch_size", .nat 32)])]) ∧
      (∃ body reloaded,
        Document.ofValue (Component.document c) = .ok ⟨some "Centroid", body⟩ ∧
        Component.ofBody Centroid {} body = .ok reloaded ∧
        Component.document reloaded = Component.document c) ∧
      ∃ why, Component.ofBody Centroid {} flat = .error (.misconfigured why) := by
  intro sections flat
  have hLoaded : Component.ofBody Centroid {} sections =
      .ok (loaded {} ⟨3, none, .one⟩ ⟨true, some 32⟩) := rfl
  refine ⟨_, hLoaded, rfl, ?_, ?_⟩
  · obtain ⟨-, again⟩ := (document_is_normal_form {} sections).1 _ hLoaded
    obtain ⟨body, reloaded, read, hReloaded, -, -, -, -, same⟩ := again {}
    exact ⟨body, reloaded, read, hReloaded, same⟩
  · refine (document_is_normal_form {} flat).2.1.mpr (.parameters rfl ?_)
    rintro config ⟨-, dims, -, -⟩
    -- There is one value for the dimensions, and that is zero.
    obtain ⟨x, hDecoded, hFinal⟩ :
        ∃ x, (Value.nat 0).decodeSize = .ok x ∧ some config.dims = some x := by
      cases dims with
      | given h => exact ⟨_, h, rfl⟩
    cases hDecoded
    exact Option.some.inj hFinal

end Centroid

end TextVec
