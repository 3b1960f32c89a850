import TextVec.Proofs.Component.Envelope
import TextVec.Proofs.Component.Sections
import TextVec.Proofs.Encoder.Run

/-!
# The captured arguments of an encoder

An encoder is configured when it is made and may be configured again. Its captured arguments are
always those of its present configuration, in the same order, and that configuration is a valid one.
-/

namespace TextVec

open Yaml (Value Mapping)

/-! ## Configurations as arguments -/

theorem Tokenizer.ofYaml_toYaml (tokenizer : Tokenizer) :
    Tokenizer.ofYaml tokenizer.toYaml = .ok tokenizer := by
  obtain ⟨kind, normalizeUnicode, lowercase⟩ := tokenizer
  cases kind <;> rfl

namespace EncoderConfig

/-- The arguments that stand for a configuration. -/
def parameters (config : EncoderConfig) : Mapping :=
  [(.string "model_path", .string config.modelPath),
    (.string "skip_rows", .nat config.skipRows.toNat),
    (.string "batch_size", .nat config.batchSize.toNat),
    (.string "dimension", .nat config.dimension.toNat),
    (.string "pooling_strategy", .string config.pooling),
    (.string "tokenizer", config.tokenizer.toYaml)]

/-- The arguments of a configuration are read as that configuration. -/
theorem ofYaml_parameters (config : EncoderConfig) :
    ofYaml (.mapping config.parameters) = .ok config := by
  simp only [ofYaml, parameters, Value.decodeFields, Value.untagged, List.foldlM_cons,
    List.foldlM_nil, Value.decodeText, bind, Except.bind, pure, Except.pure]
  simp [Draft.read, Draft.finish, once, required, Value.decodeText, Value.untagged,
    Value.decodeSize_nat, Tokenizer.ofYaml_toYaml, bind, Except.bind, pure, Except.pure, Except.map]

/-- Arguments of a configuration over those of another are the former: both have the same names in
the same order. -/
theorem overlay_parameters (old new : EncoderConfig) :
    Mapping.overlay old.parameters new.parameters = new.parameters := by
  simp [Mapping.overlay, parameters, Mapping.insert, Value.same]

/-- The path of a configuration is a text, so it can be given and is taken as it was. -/
theorem textual_given (config : EncoderConfig) : config.given.textual = .ok config := by
  simp only [GivenConfig.textual, given, Text.ofUtf8?_toUtf8]

end EncoderConfig

/-- Nothing of a configuration is lost when it is given. -/
theorem EncoderConfig.given_injective {config other : EncoderConfig}
    (h : config.given = other.given) : config = other := by
  have read := config.textual_given
  rw [h, other.textual_given] at read
  exact (Except.ok.inj read).symm

/-- Exactly what an encoder may have is textual. -/
theorem GivenConfig.textual_eq_ok_iff {given : GivenConfig} {config : EncoderConfig} :
    given.textual = .ok config ↔ given = config.given := by
  constructor
  · intro h
    unfold textual at h
    cases read : Text.ofUtf8? given.modelPath with
    | none =>
      rw [read] at h
      cases h
    | some path =>
      rw [read] at h
      cases h
      rw [EncoderConfig.given, Text.toUtf8_of_ofUtf8? read]
  · rintro rfl
    exact config.textual_given

/-- A path that is no text is refused, and the message says so. -/
theorem GivenConfig.textual_of_none {given : GivenConfig}
    (notText : Text.ofUtf8? given.modelPath = none) :
    given.textual = .error (.misconfigured .pathNotText) := by
  simp only [textual, notText]

namespace EncoderOptions

/-- Options are valid if neither of the two counts is zero. -/
theorem validate_eq_ok_iff {options : EncoderOptions} :
    options.validate = .ok () ↔ options.dimension ≠ 0 ∧ options.batchSize ≠ 0 := by
  unfold validate
  by_cases dimension : options.dimension = 0
  · simp [dimension]
  · by_cases batchSize : options.batchSize = 0 <;> simp [dimension, batchSize]

/-- Options that are not valid are refused as misconfigured. -/
theorem misconfigured_of_invalid {options : EncoderOptions}
    (h : ¬ (options.dimension ≠ 0 ∧ options.batchSize ≠ 0)) :
    ∃ why, options.validate = .error (.misconfigured why) := by
  unfold validate
  by_cases dimension : options.dimension = 0
  · exact ⟨.zeroDimension, if_pos dimension⟩
  · have batchSize : options.batchSize = 0 := by simpa [dimension] using h
    exact ⟨.zeroBatchSize, by rw [if_neg dimension, if_pos batchSize]⟩

end EncoderOptions

/-! ## Encoders -/

namespace Encoder

/-- The captured arguments are those of the configuration, and it is a valid one. -/
structure Captured (e : Encoder) : Prop where
  /-- In the order of the fields. -/
  arguments : e.base.arguments = e.config.parameters
  /-- So an encoder can be made of it. -/
  valid : e.config.validate = .ok ()

theorem Captured.of_eq {e e' : Encoder} (h : Captured e) (config : e'.config = e.config)
    (arguments : e'.base.arguments = e.base.arguments) : Captured e' where
  arguments := by rw [arguments, config, h.arguments]
  valid := by rw [config, h.valid]

/-- A new encoder, but for its properties: its table is yet to be read. -/
def fresh (settings : HandleSettings) (config : EncoderConfig) (properties : Properties) :
    Encoder where
  base :=
    { arguments := config.parameters
      properties
      handles := .attach (Component.kind Encoder) settings }
  config
  tokenizer := config.tokenizer.tokenize

theorem captured_fresh {settings : HandleSettings} {config : EncoderConfig}
    {properties : Properties} (valid : config.validate = .ok ()) :
    Captured (fresh settings config properties) := ⟨rfl, valid⟩

/-- Encoders are made of valid configurations whose path is a text, and then they are trained and
take the inputs of a batch at a time. -/
theorem build_eq_ok_iff {environment : Environment} {given : GivenConfig} {raw : RawArguments}
    {e : Encoder} :
    Component.build environment given raw = .ok e ↔
      ∃ config : EncoderConfig, given = config.given ∧ config.validate = .ok () ∧
        fresh (.ofEnvironment environment) config ⟨true, some config.batchSize⟩ = e := by
  -- The path is needed as a text first for capturing the arguments, and then for the encoder.
  have made : Component.build (α := Encoder) environment given raw = do
      let config ← given.textual
      config.validate
      return fresh (.ofEnvironment environment) config ⟨true, some config.batchSize⟩ := by
    unfold Component.build Component.captureFor
    show (do
      let arguments ← (do capture (← given.textual.map EncoderConfig.toYaml) raw false)
      _) = _
    cases textual : given.textual with
    | error failure => rfl
    | ok config =>
      show Encoder.make given _ = _
      rw [Encoder.make, textual]
      rfl
  rw [made, Outcome.bind_eq_ok_iff]
  simp only [Outcome.bind_eq_ok_iff, Outcome.pure_eq_ok_iff, GivenConfig.textual_eq_ok_iff]
  constructor
  · rintro ⟨config, same, ⟨⟩, valid, new⟩
    exact ⟨config, same, valid, new⟩
  · rintro ⟨config, same, valid, new⟩
    exact ⟨config, same, (), valid, new⟩

/-- A new encoder of a valid configuration. -/
theorem build_given {environment : Environment} {config : EncoderConfig}
    (valid : config.validate = .ok ()) (raw : RawArguments) :
    Component.build environment config.given raw =
      .ok (fresh (.ofEnvironment environment) config ⟨true, some config.batchSize⟩) :=
  build_eq_ok_iff.mpr ⟨config, rfl, valid, rfl⟩

/-- Loading an encoder: its configuration is decoded and must be valid, and then the properties are
set over those of a new encoder. -/
theorem ofBody_eq_ok_iff {settings : HandleSettings} {sections : Mapping} {e : Encoder} :
    Component.ofBody Encoder settings sections = .ok e ↔
      ∃ arguments overrides config properties,
        Document.sectionOf sections .parameter = .ok arguments ∧
        Document.sectionOf sections .property = .ok overrides ∧
        EncoderConfig.ofYaml (.mapping arguments) = .ok config ∧
        config.validate = .ok () ∧
        (Properties.mk true (some config.batchSize)).apply overrides = (.ok (), properties) ∧
        fresh settings config properties = e := by
  rw [Component.ofBody_eq_ok_iff]
  constructor
  · -- An encoder keeps no raw arguments, so what is read is a configuration and nothing else.
    rintro ⟨arguments, overrides, given, raw, new, set, hArguments, hOverrides, hRead, hNew, hSet,
      rfl⟩
    obtain ⟨hGiven, -⟩ := (Component.readArguments_eq_ok_iff rfl).mp hRead
    obtain ⟨config, hConfig, rfl⟩ := Outcome.map_eq_ok_iff.mp hGiven
    obtain ⟨other, same, valid, rfl⟩ := build_eq_ok_iff.mp hNew
    -- What was decoded is what the encoder was made of, since nothing is lost when it is given.
    obtain rfl := EncoderConfig.given_injective same
    exact ⟨arguments, overrides, config, set, hArguments, hOverrides, hConfig, valid, hSet, rfl⟩
  · rintro ⟨arguments, overrides, config, set, hArguments, hOverrides, hConfig, valid, hSet, rfl⟩
    have hGiven : Component.ofYaml Encoder (.mapping arguments) = .ok config.given :=
      Outcome.map_eq_ok_iff.mpr ⟨config, hConfig, rfl⟩
    exact ⟨arguments, overrides, config.given, {}, _, set, hArguments, hOverrides,
      (Component.readArguments_eq_ok_iff rfl).mpr ⟨hGiven, rfl⟩, build_given valid {}, hSet, rfl⟩

/-! ## Configuring again -/

/-- An encoder takes a valid configuration in place of its own: the arguments of that are laid over
the captured ones, and it keeps its handles and whether it is trained. -/
theorem reconfigure_of_valid (e : Encoder) {config : EncoderConfig}
    (valid : config.validate = .ok ()) :
    e.reconfigure config.given =
      ⟨.ok (),
        { base :=
            { e.base with
              arguments := Mapping.overlay e.base.arguments config.parameters
              properties := { e.base.properties with batchSize := some config.batchSize } }
          config
          tokenizer := config.tokenizer.tokenize }, []⟩ := by
  have recaptured : Component.recapture e config.given {} =
      ⟨.ok (), { e with base :=
        { e.base with arguments := Mapping.overlay e.base.arguments config.parameters } }, []⟩ := by
    -- The path is read as a text here, and once more for the encoder itself.
    unfold Component.recapture Component.captureFor
    show (match (do capture (← config.given.textual.map EncoderConfig.toYaml) {} false) with
      | .ok arguments => _
      | .error failure => _) = _
    rw [config.textual_given]
    rfl
  have allowed : config.given.validate = .ok () := valid
  simp only [reconfigure, allowed, recaptured, config.textual_given, bind, Except.bind]

/-- A configuration that is not valid changes nothing. -/
theorem reconfigure_of_invalid (e : Encoder) {given : GivenConfig} {failure : Failure}
    (invalid : given.validate = .error failure) :
    e.reconfigure given = ⟨.error failure, e, []⟩ := by
  simp only [reconfigure, invalid]

/-- A configuration whose path is no text cannot be captured, and changes nothing. -/
theorem reconfigure_of_notText (e : Encoder) {given : GivenConfig} {failure : Failure}
    (valid : given.validate = .ok ()) (notText : given.textual = .error failure) :
    e.reconfigure given = ⟨.error failure, e, []⟩ := by
  have recaptured : Component.recapture e given {} = ⟨.error failure, e, []⟩ := by
    unfold Component.recapture Component.captureFor
    show (match (do capture (← given.textual.map EncoderConfig.toYaml) {} false) with
      | .ok arguments => _
      | .error failure => _) = _
    rw [notText]
    rfl
  simp only [reconfigure, valid, recaptured, bind, Except.bind]

/-- All that configuring an encoder again comes to: a valid configuration with a text for its path
is taken, and any other fails and changes nothing. -/
theorem reconfigure_cases (e : Encoder) (given : GivenConfig) :
    (∃ config : EncoderConfig, given = config.given ∧ config.validate = .ok ()) ∨
      ∃ failure, e.reconfigure given = ⟨.error failure, e, []⟩ := by
  -- The checks are made in this order.
  cases valid : given.validate with
  | error failure => exact .inr ⟨failure, e.reconfigure_of_invalid valid⟩
  | ok _ =>
    cases textual : given.textual with
    | error failure => exact .inr ⟨failure, e.reconfigure_of_notText valid textual⟩
    | ok config =>
      obtain rfl := GivenConfig.textual_eq_ok_iff.mp textual
      exact .inl ⟨config, rfl, valid⟩

/-- An encoder can be configured again exactly if the configuration is valid and its path is a
text. -/
theorem reconfigure_eq_ok_iff {e : Encoder} {given : GivenConfig} :
    (e.reconfigure given).result = .ok () ↔
      ∃ config : EncoderConfig, given = config.given ∧ config.validate = .ok () := by
  constructor
  · intro ok
    rcases e.reconfigure_cases given with taken | ⟨failure, failed⟩
    · exact taken
    · rw [failed] at ok
      cases ok
  · rintro ⟨config, rfl, valid⟩
    rw [e.reconfigure_of_valid valid]

/-- If the captured arguments are those of the old configuration, they become those of the new one:
both have the same names. -/
theorem Captured.reconfigure_of_valid {e : Encoder} (h : Captured e) {config : EncoderConfig}
    (valid : config.validate = .ok ()) :
    e.reconfigure config.given =
      ⟨.ok (),
        { base :=
            { e.base with
              arguments := config.parameters
              properties := { e.base.properties with batchSize := some config.batchSize } }
          config
          tokenizer := config.tokenizer.tokenize }, []⟩ := by
  rw [Encoder.reconfigure_of_valid e valid, h.arguments, EncoderConfig.overlay_parameters]

/-! ## Runs -/

/-- Every encoder that was constructed has captured its configuration. -/
theorem captured_of_constructed {e : Encoder} (h : Component.Constructed e) : Captured e := by
  cases h with
  | built h =>
    obtain ⟨_, -, valid, rfl⟩ := build_eq_ok_iff.mp h
    exact captured_fresh valid
  | loaded h =>
    obtain ⟨_, _, _, _, _, _, _, valid, _, rfl⟩ := ofBody_eq_ok_iff.mp h
    exact captured_fresh valid

/-- Configuring an encoder again captures the new configuration, or changes nothing. -/
theorem captured_reconfigure {e : Encoder} (h : Captured e) (given : GivenConfig) :
    Captured (e.reconfigure given).state := by
  rcases e.reconfigure_cases given with ⟨config, rfl, valid⟩ | ⟨failure, failed⟩
  · rw [h.reconfigure_of_valid valid]
    exact ⟨rfl, valid⟩
  · rw [failed]
    exact h

/-- No operation parts the captured arguments from the configuration, but for capturing others. -/
theorem captured_perform (e : Encoder) (operation : Operation) (h : Captured e)
    (configures : operation.isRecapture = false) : Captured (e.perform operation) := by
  -- Only configuring the encoder again touches either of the two.
  rcases e.perform_frame operation with ⟨given, rfl⟩ | ⟨sameConfig, sameArguments⟩
  · exact captured_reconfigure h given
  · exact h.of_eq sameConfig (sameArguments configures)

/-- After any run of such operations the captured arguments are those of the configuration. -/
theorem captured_run {e : Encoder} {operations : List Operation} (h : Captured e)
    (configures : ∀ operation ∈ operations, operation.isRecapture = false) :
    Captured (e.run operations) :=
  Component.run_induction (fun operation => operation.isRecapture = false)
    (fun c operation allowed kept => captured_perform c operation kept allowed) configures h

/-! ## Valid configurations

The configuration of an encoder is valid wherever it comes from, even where other arguments were
captured.
-/

/-- Restoring an encoder takes a valid configuration, and forgets all but that and the base. -/
theorem restore_eq_ok_iff {base : Base} {config : EncoderConfig} {e : Encoder} :
    Component.restore base config = .ok e ↔
      config.validate = .ok () ∧ e = ⟨base, config, config.tokenizer.tokenize, none⟩ := by
  have restored : Component.restore (α := Encoder) base config = do
      config.validate
      return ⟨base, config, config.tokenizer.tokenize, none⟩ := rfl
  rw [restored, Outcome.bind_eq_ok_iff]
  simp only [Outcome.pure_eq_ok_iff]
  constructor
  · rintro ⟨⟨⟩, valid, rfl⟩
    exact ⟨valid, rfl⟩
  · rintro ⟨valid, rfl⟩
    exact ⟨(), valid, rfl⟩

/-- An encoder has a valid configuration, wherever it comes from. -/
theorem valid_of_made {e : Encoder} (h : Component.Made e) : e.config.validate = .ok () := by
  cases h with
  | constructed h => exact (captured_of_constructed h).valid
  | restored h =>
    -- An envelope may hold any configuration; it is restoring that refuses the invalid ones.
    obtain ⟨-, -, _, _, _, -, -, hRestored⟩ := Component.ofEnvelope_eq_ok_iff.mp h
    obtain ⟨valid, rfl⟩ := restore_eq_ok_iff.mp hRestored
    exact valid

theorem valid_perform (e : Encoder) (operation : Operation) (h : e.config.validate = .ok ()) :
    (e.perform operation).config.validate = .ok () := by
  rcases e.perform_frame operation with ⟨given, rfl⟩ | ⟨sameConfig, -⟩
  · show (e.reconfigure given).state.config.validate = .ok ()
    rcases e.reconfigure_cases given with ⟨config, rfl, valid⟩ | ⟨failure, failed⟩
    · rw [e.reconfigure_of_valid valid]
      exact valid
    · rw [failed]
      exact h
  · rw [sameConfig]
    exact h

theorem valid_run {e : Encoder} (h : e.config.validate = .ok ()) (operations : List Operation) :
    (e.run operations).config.validate = .ok () :=
  Component.run_induction (fun _ => True)
    (fun c operation _ kept => valid_perform c operation kept) (fun _ _ => trivial) h

end Encoder

end TextVec
