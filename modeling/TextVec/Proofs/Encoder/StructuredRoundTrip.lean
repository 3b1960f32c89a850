import TextVec.Proofs.Encoder.Captured

/-!
# Documents of encoders

An encoder is written into a document by its captured arguments and by those properties that are not
as in a new component of any kind, and it is read from there by constructing it again. Constructing
an encoder makes it trained and gives it a batch size, though, which is not how a new component of
any kind begins. So the configuration and the captured arguments always come back, and the
properties come back exactly if the encoder is trained and has a batch size.
-/

namespace TextVec.Encoder

open Yaml (Mapping)

/-- **Loading the document of an encoder** gives a new encoder of the same configuration. It is
trained, whether the old one was or not, and where the old one had no batch size it has that of the
configuration. -/
theorem ofBody_body {e : Encoder} (h : Captured e) (settings : HandleSettings) :
    Component.ofBody Encoder settings (Component.body e) =
      .ok (fresh settings e.config
        ⟨true, some (e.base.properties.batchSize.getD e.config.batchSize)⟩) := by
  have decoded : EncoderConfig.ofYaml (.mapping e.base.arguments) = .ok e.config := by
    rw [h.arguments]
    exact e.config.ofYaml_parameters
  -- The constructor has set both properties before those in the document are set over them.
  have applied := Properties.apply_overrides ⟨true, some e.config.batchSize⟩ e.base.properties
  have size : e.base.properties.batchSize.or (some e.config.batchSize) =
      some (e.base.properties.batchSize.getD e.config.batchSize) := by
    cases e.base.properties.batchSize <;> rfl
  rw [Bool.or_true, size] at applied
  exact ofBody_eq_ok_iff.mpr
    ⟨e.base.arguments, e.base.properties.overrides, e.config, _,
      Component.sectionOf_body_parameter e, Component.sectionOf_body_property e, decoded, h.valid,
      applied, rfl⟩

/-- The properties of an encoder are those that its document gives exactly if it is trained and has
a batch size. -/
theorem properties_restored_iff (properties : Properties) (size : UInt64) :
    Properties.mk true (some (properties.batchSize.getD size)) = properties ↔
      properties.isTrained = true ∧ properties.batchSize.isSome = true := by
  -- Of the four sorts of properties only one has both.
  obtain ⟨trained, batchSize⟩ := properties
  cases trained <;> cases batchSize <;> simp

/-- An encoder that a document has just given is a new encoder of its configuration. -/
theorem eq_fresh_of_ofBody {settings : HandleSettings} {sections : Mapping} {e : Encoder}
    (h : Component.ofBody Encoder settings sections = .ok e) :
    e = fresh settings e.config e.base.properties := by
  obtain ⟨_, _, _, _, _, _, _, _, _, rfl⟩ := ofBody_eq_ok_iff.mp h
  rfl

/-- **The round trip of an encoder through its document.** After any run of operations on an encoder
that was constructed, its document loads with any settings, and gives the same configuration and the
same captured arguments; the properties are the same exactly if the encoder is trained and has a
batch size. In particular, loading a document, writing the encoder and loading it again is the same
as loading once under exactly that condition. -/
theorem structured_round_trip {e₀ : Encoder} (constructed : Component.Constructed e₀)
    {operations : List Operation}
    (configures : ∀ operation ∈ operations, operation.isRecapture = false)
    (settings : HandleSettings) :
    (∃ sections e,
      Document.ofValue (Component.document (e₀.run operations)) =
        .ok ⟨some "Word2VecEncoder", sections⟩ ∧
      Component.ofBody Encoder settings sections = .ok e ∧
      e.config = (e₀.run operations).config ∧
      e.base.arguments = (e₀.run operations).base.arguments ∧
      e.base.properties =
        ⟨true, some ((e₀.run operations).base.properties.batchSize.getD
          (e₀.run operations).config.batchSize)⟩ ∧
      (e.base.properties = (e₀.run operations).base.properties ↔
        (e₀.run operations).base.properties.isTrained = true ∧
          (e₀.run operations).base.properties.batchSize.isSome = true)) ∧
    ∀ sections loaded, Component.ofBody Encoder settings sections = .ok loaded →
      (Component.ofBody Encoder settings (Component.body loaded) = .ok loaded ↔
        loaded.base.properties.isTrained = true ∧
          loaded.base.properties.batchSize.isSome = true) := by
  constructor
  · have captured := captured_run (captured_of_constructed constructed) configures
    refine ⟨_, _, Component.ofValue_document _, ofBody_body captured settings, rfl,
      captured.arguments.symm, rfl, ?_⟩
    exact properties_restored_iff _ _
  · intro sections loaded h
    -- A loaded encoder is a new one of its configuration, so only the properties can differ.
    rw [ofBody_body (captured_of_constructed (.loaded h)) settings, Except.ok.injEq,
      ← properties_restored_iff _ loaded.config.batchSize]
    constructor
    · intro same
      exact congrArg (fun e => e.base.properties) same
    · intro same
      rw [same]
      exact (eq_fresh_of_ofBody h).symm

/-- A run in which an encoder is configured again, first in vain, and given another batch size:
everything comes back from the document of what it has become. -/
theorem structured_round_trip_reconfigured :
    let e₀ := fresh {} { modelPath := "v.txt" } ⟨true, some 64⟩
    let operations : List Operation :=
      [.own (.reconfigure (EncoderConfig.given { modelPath := "w.txt", dimension := 0 })),
        .own (.reconfigure (EncoderConfig.given { modelPath := "w.txt", dimension := 2 })),
        .setBatchSize (some 8), .close]
    Component.Constructed e₀ ∧ (∀ operation ∈ operations, operation.isRecapture = false) ∧
      ∃ sections e,
        Document.ofValue (Component.document (e₀.run operations)) =
          .ok ⟨some "Word2VecEncoder", sections⟩ ∧
        Component.ofBody Encoder {} sections = .ok e ∧
        e.config = { modelPath := "w.txt", dimension := 2 } ∧
        e.base.properties = ⟨true, some 8⟩ := by
  intro e₀ operations
  have built : Component.build {} (EncoderConfig.given { modelPath := "v.txt" }) {} = .ok e₀ :=
    build_given rfl {}
  have constructed : Component.Constructed e₀ := .built built
  have configures : ∀ operation ∈ operations, operation.isRecapture = false := by
    simp [operations, Component.Operation.isRecapture]
  -- The first configuration changes nothing, and the second one is as if the encoder were made of
  -- it.
  have refused : e₀.perform (.own (.reconfigure
      (EncoderConfig.given { modelPath := "w.txt", dimension := 0 }))) = e₀ :=
    congrArg Step.state (e₀.reconfigure_of_invalid rfl)
  have taken : e₀.perform (.own (.reconfigure
      (EncoderConfig.given { modelPath := "w.txt", dimension := 2 }))) =
      fresh {} { modelPath := "w.txt", dimension := 2 } ⟨true, some 64⟩ :=
    congrArg Step.state ((captured_fresh rfl).reconfigure_of_valid rfl)
  have after : e₀.run operations =
      (fresh {} { modelPath := "w.txt", dimension := 2 } ⟨true, some 64⟩).run
        [.setBatchSize (some 8), .close] := by
    simp only [operations, run, Component.run, List.foldl_cons, refused, taken]
  obtain ⟨⟨sections, e, hDocument, hLoaded, hConfig, -, hProperties, -⟩, -⟩ :=
    structured_round_trip constructed configures {}
  rw [after] at hConfig hProperties
  exact ⟨constructed, configures, sections, e, hDocument, hLoaded, hConfig, hProperties⟩

/-- An encoder that was set to be untrained is trained when its document is loaded. -/
theorem untrained_not_restored :
    ∃ e₀ e : Encoder,
      Component.build {} (EncoderConfig.given { modelPath := "v.txt" }) {} = .ok e₀ ∧
      (e₀.run [.setTrained false]).base.properties = ⟨false, some 64⟩ ∧
      Component.ofBody Encoder {} (Component.body (e₀.run [.setTrained false])) = .ok e ∧
      e.base.properties = ⟨true, some 64⟩ := by
  have built : Component.build {} (EncoderConfig.given { modelPath := "v.txt" }) {} =
      .ok (fresh {} { modelPath := "v.txt" } ⟨true, some 64⟩) := build_given rfl {}
  have captured : Captured ((fresh {} { modelPath := "v.txt" } ⟨true, some 64⟩).run
      [.setTrained false]) := ⟨rfl, rfl⟩
  exact ⟨_, _, built, rfl, ofBody_body captured {}, rfl⟩

end TextVec.Encoder
