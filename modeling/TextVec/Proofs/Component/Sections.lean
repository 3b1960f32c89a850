import TextVec.Component.Storage
import TextVec.Proofs.Outcome

/-!
# The sections of a document

What a component writes into the sections of its document is what loading finds there: the captured
arguments as they are, and those properties that are not as in a new component. Setting the latter
leaves all other properties alone.
-/

namespace TextVec

open Yaml (Value Mapping)

/-- A count of 64 bits is never negative, and nothing of it is lost. -/
theorem Yaml.Value.decodeSize_nat (n : UInt64) : (Value.nat n.toNat).decodeSize = .ok n := by
  simp [Value.decodeSize, Value.nat, Value.untagged]

/-! ## Properties -/

namespace Properties

theorem set_isTrained (properties : Properties) (value : Bool) :
    properties.set (.string "is_trained") (.bool value) =
      .ok { properties with isTrained := value } := rfl

/-- The batch size is set by a count, or by null. -/
theorem set_batchSize (properties : Properties) (size : Option UInt64) :
    properties.set (.string "batch_size") (sizeValue size) =
      .ok { properties with batchSize := size } := by
  -- A document can also say null, and that takes the batch size away.
  cases size with
  | none => rfl
  | some n =>
    have present : (sizeValue (some n)).decodeOption Value.decodeSize = .ok (some n) := by
      have decoded := Value.decodeSize_nat n
      simp only [sizeValue, Value.decodeOption, decoded]
      rfl
    simp only [set, Value.text?, Value.untagged, present]
    rfl

/-- Setting the properties that are not as in a new component leaves the others as they were. -/
theorem apply_overrides (old new : Properties) :
    old.apply new.overrides =
      (.ok (), ⟨new.isTrained || old.isTrained, new.batchSize.or old.batchSize⟩) := by
  obtain ⟨trained, size⟩ := new
  cases trained <;> cases size <;> simp [overrides, apply, set_isTrained, set_batchSize]

end Properties

namespace Component

variable {α Config State : Type} [Component α Config State]

/-! ## Reading what was written -/

/-- The sections of a document that a component writes are those of that component. -/
theorem ofValue_document (component : α) :
    Document.ofValue (document component) =
      .ok ⟨some (Document.kindOfTag (kind α)), body component⟩ := rfl

theorem sectionOf_body_parameter (component : α) :
    Document.sectionOf (body component) .parameter = .ok (base component).arguments := by
  -- A section without entries is not written, and one that is missing is read as empty.
  cases h : (base component).arguments <;> by_cases k : (properties component).overrides.isEmpty <;>
    simp [body, h, k, Document.sectionOf, Mapping.get?, Value.isName, Section.name, mappingOr]

theorem sectionOf_body_property (component : α) :
    Document.sectionOf (body component) .property = .ok (properties component).overrides := by
  cases h : (properties component).overrides <;> by_cases k : (base component).arguments.isEmpty <;>
    simp [body, h, k, Document.sectionOf, Mapping.get?, Value.isName, Section.name, mappingOr]

/-- Where no raw arguments are kept, all that are stored are those of the configuration. -/
theorem readArguments_eq_ok_iff (plain : storesRaw α = false) {arguments : Mapping}
    {config : Config} {raw : RawArguments} :
    readArguments α arguments = .ok (config, raw) ↔
      ofYaml α (.mapping arguments) = .ok config ∧ raw = {} := by
  simp only [readArguments, plain, Bool.false_eq_true, ↓reduceIte, bind, Except.bind]
  cases ofYaml α (.mapping arguments) with
  | error error => simp
  | ok read => simp [eq_comm]

/-- Loading succeeds exactly if each of its steps does, and gives what the last one gives. -/
theorem ofBody_eq_ok_iff {settings : HandleSettings} {sections : Mapping} {component : α} :
    ofBody α settings sections = .ok component ↔
      ∃ arguments overrides config raw fresh set,
        Document.sectionOf sections .parameter = .ok arguments ∧
        Document.sectionOf sections .property = .ok overrides ∧
        readArguments α arguments = .ok (config, raw) ∧
        build {} config raw = .ok (fresh : α) ∧
        (properties (attach fresh settings)).apply overrides = (.ok (), set) ∧
        withProperties (attach fresh settings) set = component := by
  unfold ofBody
  rw [Outcome.bind_eq_ok_iff]
  constructor
  · -- Each step succeeded, or the whole would have failed.
    rintro ⟨arguments, hArguments, h⟩
    obtain ⟨overrides, hOverrides, h⟩ := Outcome.bind_eq_ok_iff.mp h
    obtain ⟨⟨config, raw⟩, hRead, h⟩ := Outcome.bind_eq_ok_iff.mp h
    obtain ⟨fresh, hFresh, h⟩ := Outcome.bind_eq_ok_iff.mp h
    simp only at h
    split at h
    · rename_i set hSet
      cases h
      exact ⟨arguments, overrides, config, raw, fresh, set, hArguments, hOverrides, hRead, hFresh,
        hSet, rfl⟩
    · cases h
  -- And if all of them succeed there is nothing left that could fail.
  · rintro ⟨arguments, overrides, config, raw, fresh, set, hArguments, hOverrides, hRead, hFresh,
      hSet, rfl⟩
    refine ⟨arguments, hArguments, ?_⟩
    simp only [hOverrides, hRead, hFresh, hSet, Outcome.ok_bind]

/-- What is loaded from a structured file is made of the sections that are in the file. -/
theorem ofBody_of_loadStructured {settings : HandleSettings} {files : FileSystem} {path : String}
    {component : α} (h : loadStructured α settings files path = .ok component) :
    ∃ document, Document.readFile files path = .ok document ∧
      ofBody α settings document.body = .ok component := by
  unfold loadStructured at h
  obtain ⟨document, read, h⟩ := Outcome.bind_eq_ok_iff.mp h
  refine ⟨document, read, ?_⟩
  -- The tag decides whether the sections are looked at, but not what is made of them.
  split at h
  · split at h
    · exact h
    · cases h
  · exact h

end Component

end TextVec
