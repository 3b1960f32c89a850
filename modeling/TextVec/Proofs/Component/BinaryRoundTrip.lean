import TextVec.Compression.Stored
import TextVec.Proofs.Encoder.Captured
import TextVec.Proofs.Splat.Recorded
import TextVec.Proofs.Yaml.Equality

/-!
# Components in binary files

A component that is stored in a binary file and loaded again keeps its configuration and its learned
state bit for bit, its captured arguments in their order, and its properties. What the process gave
it comes from the settings of the loading, and whatever a component only has while it is used begins
afresh.

Captured arguments are stored as a YAML text. That this text reads back as the same arguments is
assumed here of the component that is stored. How files are compressed is left open.
-/

namespace TextVec.Component

section

variable {α Config State : Type} [Component α Config State]

/-! ## What is stored and what comes back -/

/-- The captured arguments of a component have a text, and it reads back as them. -/
def ArgumentsReadBack (component : α) : Prop :=
  ∃ text, (Yaml.Value.mapping (base component).arguments).print? = some text ∧
    Yaml.Mapping.read? text = some (base component).arguments

/-- The envelope of a component has a length of 64 bits, as everything that fits in memory has. -/
def EnvelopeFits (component : α) : Prop :=
  ∀ e, envelope component = .ok e → e.put.length < UInt64.size

/-- The base of a component with the handles that the settings give to its kind. -/
def baseWith (settings : HandleSettings) (component : α) : Base where
  arguments := (base component).arguments
  properties := (base component).properties
  handles := ⟨⟨Path.join settings.cacheRoot (kind α)⟩, settings.verbose⟩

/-- Both can be checked by computing the text. -/
theorem argumentsReadBack_and_envelopeFits {component : α} (text : String)
    (printed : (Yaml.Value.mapping (base component).arguments).print? = some text)
    (read : Yaml.Mapping.read? text = some (base component).arguments)
    (short : (Envelope.put ⟨layoutVersion, kind α, version α, text, properties component,
      putState α (snapshot component)⟩).length < UInt64.size) :
    ArgumentsReadBack component ∧ EnvelopeFits component := by
  refine ⟨⟨text, printed, read⟩, fun e h => ?_⟩
  simp only [envelope, printed, Except.ok.injEq] at h
  rw [← h]
  exact short

/-- Storing a component in a binary file and loading that with the given settings gives `restored`.
The envelope of `restored` is the one in the file, so storing it writes the same bytes. -/
def RestoresTo [Compressor] (settings : HandleSettings) (component restored : α) : Prop :=
  ∃ content e,
    encodeBinary component = .ok content ∧
    Compressor.decompress content = some e.put ∧
    Envelope.read content = .ok e ∧
    ofEnvelope α settings e = .ok restored ∧
    envelope restored = .ok e

/-- A component is restored from its file if its kind can read back what it writes of the state, and
then restores that with the same captured arguments and properties. -/
theorem restoresTo_of_restore [Compressor] {settings : HandleSettings} {component restored : α}
    (back : ArgumentsReadBack component) (fits : EnvelopeFits component)
    (state : (putState α (snapshot component)).length < UInt64.size →
      takeState α (putState α (snapshot component) ++ []) = some (snapshot component, []))
    (h : restore (baseWith settings component) (snapshot component) = .ok restored)
    (sameBase : base restored = baseWith settings component)
    (sameState : snapshot restored = snapshot component) :
    RestoresTo settings component restored := by
  obtain ⟨text, printed, read⟩ := back
  -- The state is in the envelope, so it has a length of 64 bits too.
  have stored : envelope component = .ok ⟨layoutVersion, kind α, version α, text,
      properties component, putState α (snapshot component)⟩ := by
    simp only [envelope, printed]
  have bound := fits _ stored
  have shorter := Envelope.length_state_le ⟨layoutVersion, kind α, version α, text,
    properties component, putState α (snapshot component)⟩
  have taken := state (Nat.lt_of_le_of_lt shorter bound)
  -- Nothing follows the state inside of its envelope.
  rw [List.append_nil] at taken
  refine ⟨_, _, ?_, Compressor.decompress_compress _, Envelope.read_compress_put rfl bound,
    ofEnvelope_eq_ok_iff.mpr ⟨rfl, rfl, _, _, _, taken, read, h⟩, ?_⟩
  · simp only [encodeBinary, stored]
    rfl
  · simp only [envelope, properties, sameBase, sameState, baseWith, printed]

end

/-! ## The three kinds -/

/-- **The round trip through binary files.** For every centroid, and for every splat and encoder
however it was made and whatever was done to it since, what comes back is the same but for the
handles and what it had only while it was used. The raw arguments of a splat are those that its
captured arguments record, which are its own ones if no others were captured after it was made. -/
theorem binary_round_trip [Compressor] (settings : HandleSettings) :
    (∀ c : Centroid, ArgumentsReadBack c → EnvelopeFits c →
      RestoresTo settings c ⟨baseWith settings c, c.config, c.centroid, 0, false⟩) ∧
    (∀ (s₀ : Splat) (operations : List Splat.Operation), Made s₀ →
      ArgumentsReadBack (s₀.run operations) → EnvelopeFits (s₀.run operations) →
      ∃ named raw,
        RawArguments.split (s₀.run operations).base.arguments = .ok (named, raw) ∧
        ((∀ operation ∈ operations, operation.isRecapture = false) →
          raw = (s₀.run operations).raw) ∧
        RestoresTo settings (s₀.run operations)
          ⟨baseWith settings (s₀.run operations), (s₀.run operations).config, raw⟩) ∧
    (∀ (e₀ : Encoder) (operations : List Encoder.Operation), Made e₀ →
      ArgumentsReadBack (e₀.run operations) → EnvelopeFits (e₀.run operations) →
      RestoresTo settings (e₀.run operations)
        ⟨baseWith settings (e₀.run operations), (e₀.run operations).config,
          (e₀.run operations).config.tokenizer.tokenize, none⟩) := by
  refine ⟨?_, ?_, ?_⟩
  -- A centroid is restored whatever its state is.
  · intro c back fits
    exact restoresTo_of_restore back fits (fun bound => CentroidState.take_put bound []) rfl rfl rfl
  · intro s₀ operations made back fits
    -- Arguments that were captured can always be split, which is all that restoring needs.
    have recorded := Splat.recorded_of_made made
    obtain ⟨⟨named, raw⟩, split⟩ :=
      RawArguments.exists_split_iff.mpr (Splat.splittable_run recorded.splittable operations)
    have restored : restore (baseWith settings (s₀.run operations)) (s₀.run operations).config =
        .ok (⟨baseWith settings (s₀.run operations), (s₀.run operations).config, raw⟩ : Splat) :=
      Splat.restore_eq_ok_iff.mpr ⟨named, split, rfl⟩
    refine ⟨named, raw, split, ?_, restoresTo_of_restore back fits
      (fun bound => SplatConfig.take_put bound []) restored rfl rfl⟩
    intro records
    obtain ⟨_, live⟩ := Splat.recorded_run recorded records
    rw [split] at live
    cases live
    rfl
  · intro e₀ operations made back fits
    -- A configuration stays valid in every run, so restoring does not refuse it.
    have valid := Encoder.valid_run (Encoder.valid_of_made made) operations
    exact restoresTo_of_restore back fits (fun bound => EncoderConfig.take_put bound [])
      (Encoder.restore_eq_ok_iff.mpr ⟨valid, rfl⟩) rfl rfl

open Compression in
/-- A trained centroid, a splat with arguments of its own and an encoder that was set to be
untrained, each stored in a binary file. -/
theorem binary_round_trip_each_kind :
    let c : Centroid := ⟨⟨[(.string "dims", .nat 2)], ⟨true, none⟩, .attach "Centroid" {}⟩,
      ⟨2, none, .one⟩, [⟨0x7ff8000000000001⟩, .one], 3, false⟩
    let raw : RawArguments := ⟨[.nat 1, .string "true"], [(.string "k", .null)]⟩
    let s₀ : Splat := ⟨⟨raw.store [(.string "name", .string "s")], {},
      .attach "Splat" (.ofEnvironment {})⟩, ⟨"s"⟩, raw⟩
    let e₀ : Encoder := Encoder.fresh {} { modelPath := "v.txt" } ⟨true, some 64⟩
    Made s₀ ∧ Made e₀ ∧
      (ArgumentsReadBack c ∧ EnvelopeFits c) ∧
      (ArgumentsReadBack (s₀.run [.close]) ∧ EnvelopeFits (s₀.run [.close])) ∧
      (ArgumentsReadBack (e₀.run [.setTrained false]) ∧
        EnvelopeFits (e₀.run [.setTrained false])) ∧
      (∃ restored, RestoresTo {} c restored ∧ restored.centroid = c.centroid) ∧
      (∃ restored, RestoresTo {} (s₀.run [.close]) restored ∧ restored.raw = raw) ∧
      ∃ restored, RestoresTo {} (e₀.run [.setTrained false]) restored ∧
        restored.base.properties = ⟨false, some 64⟩ := by
  intro c raw s₀ e₀
  have builtSplat : build {} ⟨"s"⟩ raw = .ok s₀ := rfl
  have madeSplat : Made s₀ := .constructed (.built builtSplat)
  have builtEncoder : build {} (EncoderConfig.given { modelPath := "v.txt" }) {} = .ok e₀ :=
    Encoder.build_given rfl {}
  have madeEncoder : Made e₀ := .constructed (.built builtEncoder)
  -- Each text is written and read here once, and the rest is the theorem.
  have forCentroid : ArgumentsReadBack c ∧ EnvelopeFits c :=
    argumentsReadBack_and_envelopeFits "dims: 2\n" (by decide +kernel)
      (by decide +kernel) (by decide +kernel)
  have forSplat : ArgumentsReadBack (s₀.run [.close]) ∧ EnvelopeFits (s₀.run [.close]) :=
    argumentsReadBack_and_envelopeFits "name: s\nargs:\n- 1\n- 'true'\nkwargs:\n  k: null\n"
      (by decide +kernel) (by decide +kernel) (by decide +kernel)
  have forEncoder : ArgumentsReadBack (e₀.run [.setTrained false]) ∧
      EnvelopeFits (e₀.run [.setTrained false]) :=
    argumentsReadBack_and_envelopeFits
      ("model_path: v.txt\nskip_rows: 1\nbatch_size: 64\ndimension: 300\n" ++
        "pooling_strategy: REDUCE_MEAN\ntokenizer:\n  kind: unicode_words\n" ++
        "  normalize_unicode: true\n  lowercase: true\n")
      (by decide +kernel) (by decide +kernel) (by decide +kernel)
  obtain ⟨centroids, splats, encoders⟩ := binary_round_trip {}
  refine ⟨madeSplat, madeEncoder, forCentroid, forSplat, forEncoder,
    ⟨_, centroids c forCentroid.1 forCentroid.2, rfl⟩, ?_,
    ⟨_, encoders e₀ [.setTrained false] madeEncoder forEncoder.1 forEncoder.2, rfl⟩⟩
  obtain ⟨_, recorded, _, same, restores⟩ :=
    splats s₀ [.close] madeSplat forSplat.1 forSplat.2
  exact ⟨_, restores, same (by simp [Operation.isRecapture])⟩

end TextVec.Component
