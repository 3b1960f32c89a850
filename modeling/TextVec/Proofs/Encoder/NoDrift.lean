import TextVec.Proofs.Component.BinaryRoundTrip
import TextVec.Proofs.Disk.ReadBack

/-!
# Captured arguments and the live encoder

An encoder has its parameters in several places: its configuration, its captured arguments, its
properties and its tokenizer. Whatever happens to it, and even if it is stored and loaded again in
between, its captured arguments are those of its present configuration, and configuring it again
makes of it what a new encoder would be. Only capturing other arguments directly parts the two.
-/

namespace TextVec

open Yaml (Mapping)

/-! ## Storing and loading again -/

namespace Component

variable {α Config State : Type} [Component α Config State]

/-- A component was stored in a file, and another one was loaded from there, with any settings. In
between, that file was left as it was. -/
def ReloadedAs [Compressor] (format : Format) (component loaded : α) : Prop :=
  ∃ files path written later settings,
    (store format component files path).result = .ok written ∧
    later.read path = written.read path ∧
    (load α format settings later path).result = .ok loaded

/-- A file in which a component was stored has the content that was made of the component. -/
theorem read_of_store [Compressor] {format : Format} {component : α} {files written : FileSystem}
    {path : String} (h : (store format component files path).result = .ok written) :
    ∃ content, encode format component = .ok content ∧ written.read path = .ok content := by
  obtain ⟨content, encoded, h⟩ := Outcome.bind_eq_ok_iff.mp h
  refine ⟨content, encoded, ?_⟩
  -- Encoding has succeeded, so writing is what remains.
  cases write : files.write path content with
  | error error =>
    rw [write] at h
    cases h
  | ok _ =>
    rw [write] at h
    cases h
    exact FileSystem.read_of_write write

/-- What a component is restored to is what is loaded from a binary file of it. -/
theorem ReloadedAs.binary [Compressor] {component loaded : α}
    (h : ReloadedAs .binary component loaded) {restored : HandleSettings → α}
    (restores : ∀ settings, RestoresTo settings component (restored settings)) :
    ∃ settings, loaded = restored settings := by
  obtain ⟨files, path, written, later, settings, stored, kept, hLoaded⟩ := h
  obtain ⟨content, encoded, held⟩ := read_of_store stored
  obtain ⟨content', e, encoded', -, read, restored, -⟩ := restores settings
  obtain rfl : content = content' := Except.ok.inj (encoded.symm.trans encoded')
  refine ⟨settings, ?_⟩
  -- The file still has the content in which the envelope is.
  have hFile : Envelope.readFile later path = .ok e := by
    simp only [Envelope.readFile, kept, held, read]
  have hBinary : loadBinary α settings later path = .ok loaded := hLoaded
  rw [loadBinary, hFile] at hBinary
  exact Except.ok.inj (hBinary.symm.trans restored)

/-- Wherever a file can be written, a component is stored and loaded again as what its envelope is
restored to. -/
theorem RestoresTo.reloadedAs [Compressor] {settings : HandleSettings} {component restored : α}
    (h : RestoresTo settings component restored) (files : FileSystem) (path : String)
    (writable : ∀ content, ∃ written, files.write path content = .ok written) :
    ReloadedAs .binary component restored := by
  obtain ⟨content, e, encoded, -, read, hRestored, -⟩ := h
  obtain ⟨written, write⟩ := writable content
  have held := FileSystem.read_of_write write
  refine ⟨files, path, written, written, settings, ?_, rfl, ?_⟩
  · simp only [store, encode, encoded, write, ofDisk, bind, Except.bind]
  · simp only [load, loadBinary, Envelope.readFile, held, read, hRestored, bind, Except.bind]

/-- Whatever is loaded from a structured file is constructed anew. -/
theorem constructed_of_loadStructured {settings : HandleSettings} {files : FileSystem}
    {path : String} {component : α}
    (h : loadStructured α settings files path = .ok component) : Constructed component := by
  obtain ⟨document, -, made⟩ := ofBody_of_loadStructured h
  exact .loaded made

end Component

namespace Encoder

open Component (ArgumentsReadBack EnvelopeFits ReloadedAs)

/-- An encoder that was constructed, and to which then anything has happened but that other
arguments were captured: operations, which may have failed, uses in scopes, and storing and loading
it again. Where it was stored in a binary file, the text of its arguments must have read back as
them. -/
inductive Reached [Compressor] : Encoder → Prop where
  /-- It was made of a configuration or of a document. -/
  | constructed {e : Encoder} (h : Component.Constructed e) : Reached e
  /-- Any operation but for capturing other arguments. -/
  | performed {e : Encoder} (h : Reached e) (operation : Operation)
      (configures : operation.isRecapture = false) : Reached (e.perform operation)
  /-- What is done in a scope may fail, and the encoder is closed in any case. -/
  | used {e : Encoder} {β : Type} (use : Encoder → Step Encoder β) (h : Reached (use e).state) :
      Reached (Component.within e use).state
  /-- A scope is left, which closes the encoder. -/
  | left {e : Encoder} (h : Reached e) : Reached (Component.leave e).1
  /-- It was stored in a file and loaded from there. -/
  | reloaded {e loaded : Encoder} (h : Reached e) {format : Format}
      (faithful : format = .binary → ArgumentsReadBack e ∧ EnvelopeFits e)
      (again : ReloadedAs format e loaded) : Reached loaded

/-- What an encoder of a valid configuration is restored to from a binary file. -/
theorem restoresTo [Compressor] {e : Encoder} (valid : e.config.validate = .ok ())
    (back : ArgumentsReadBack e) (fits : EnvelopeFits e) (settings : HandleSettings) :
    Component.RestoresTo settings e
      ⟨Component.baseWith settings e, e.config, e.config.tokenizer.tokenize, none⟩ :=
  Component.restoresTo_of_restore back fits (fun bound => EncoderConfig.take_put bound [])
    (restore_eq_ok_iff.mpr ⟨valid, rfl⟩) rfl rfl

/-- Loading a binary file of an encoder keeps its configuration and its captured arguments. -/
theorem captured_of_reloaded [Compressor] {e loaded : Encoder} (h : Captured e) {format : Format}
    (faithful : format = .binary → ArgumentsReadBack e ∧ EnvelopeFits e)
    (again : ReloadedAs format e loaded) : Captured loaded := by
  -- A binary file has both in it, and from a structured one an encoder is constructed.
  cases format with
  | binary =>
    obtain ⟨back, fits⟩ := faithful rfl
    obtain ⟨settings, rfl⟩ := again.binary (restoresTo h.valid back fits)
    exact h.of_eq rfl rfl
  | structured =>
    obtain ⟨_, _, _, _, _, -, -, hLoaded⟩ := again
    exact captured_of_constructed (Component.constructed_of_loadStructured hLoaded)

/-- However an encoder was reached, it has captured its configuration. -/
theorem captured_of_reached [Compressor] {e : Encoder} (h : Reached e) : Captured e := by
  -- On how it was reached; all but storing and loading is a matter of single operations.
  induction h with
  | constructed h => exact captured_of_constructed h
  | performed _ operation configures ih => exact captured_perform _ operation ih configures
  | used use _ ih => exact captured_perform _ .close ih rfl
  | left _ ih =>
    rw [Component.state_leave]
    exact captured_perform _ .close ih rfl
  | reloaded _ faithful again ih => exact captured_of_reloaded ih faithful again

/-- **Captured arguments never drift from the live encoder.** They are what is captured for its
present configuration, in the same order, and are read as that; and the configuration is a valid
one. An encoder can be configured again exactly if a new encoder can be made of the configuration,
and then it is that new encoder, but for its handles and for whether it is trained. -/
theorem captured_arguments_never_drift [Compressor] {e : Encoder} (reached : Reached e) :
    (∀ raw, Component.captureFor Encoder e.config.given raw = .ok e.base.arguments) ∧
    EncoderConfig.ofYaml (.mapping e.base.arguments) = .ok e.config ∧
    1 ≤ e.config.dimension.toNat ∧ 1 ≤ e.config.batchSize.toNat ∧
    ∀ given environment raw,
      ((e.reconfigure given).result = .ok () ↔
        ∃ new : Encoder, Component.build environment given raw = .ok new) ∧
      ∀ new : Encoder, Component.build environment given raw = .ok new →
        (e.reconfigure given).state =
          { new with
            base :=
              { new.base with
                properties :=
                  { new.base.properties with isTrained := e.base.properties.isTrained }
                handles := e.base.handles } } := by
  have captured := captured_of_reached reached
  obtain ⟨dimension, batchSize⟩ := EncoderOptions.validate_eq_ok_iff.mp captured.valid
  have positive {n : UInt64} (h : n ≠ 0) : 1 ≤ n.toNat :=
    Nat.pos_of_ne_zero fun zero => h (UInt64.toNat_inj.mp zero)
  refine ⟨?_, ?_, positive dimension, positive batchSize, ?_⟩
  · intro raw
    have written : Component.toYaml Encoder e.config.given = .ok e.config.toYaml :=
      congrArg (Except.map EncoderConfig.toYaml) e.config.textual_given
    rw [captured.arguments, Component.captureFor, written]
    rfl
  · rw [captured.arguments]
    exact e.config.ofYaml_parameters
  · intro given environment raw
    constructor
    · rw [reconfigure_eq_ok_iff]
      constructor
      · rintro ⟨config, rfl, valid⟩
        exact ⟨_, build_given valid raw⟩
      · rintro ⟨new, built⟩
        obtain ⟨config, same, valid, -⟩ := build_eq_ok_iff.mp built
        exact ⟨config, same, valid⟩
    · intro new built
      -- Both are the same fields, one after the other, since the old arguments have the same names.
      obtain ⟨config, rfl, valid, rfl⟩ := build_eq_ok_iff.mp built
      rw [captured.reconfigure_of_valid valid]
      rfl

open Compression in
/-- An encoder that is configured again, first in vain with a path that is no text, and given
another tokenizer, then used in a scope, stored in a binary file and loaded from there. -/
theorem captured_arguments_never_drift_reloaded :
    let e₀ : Encoder := fresh {} { modelPath := "v.txt" } ⟨true, some 64⟩
    let config : EncoderConfig := { modelPath := "w.txt", dimension := 2 }
    let letters (text : String) : List String := text.toList.map fun c => String.ofList [c]
    let e₁ := ((e₀.perform (.own (.reconfigure { config with modelPath := [0xFF] }))).perform
      (.own (.reconfigure config.given))).perform (.own (.withTokenizer letters))
    let e₂ := (Component.leave e₁).1
    ∃ loaded : Encoder, ReloadedAs .binary e₂ loaded ∧ Reached loaded ∧
      EncoderConfig.ofYaml (.mapping loaded.base.arguments) = .ok config ∧
      loaded.tokenizer = Tokenizer.tokenize {} ∧
      (loaded.reconfigure (EncoderConfig.given { modelPath := "x.txt" })).state.base.properties =
        ⟨true, some 64⟩ := by
  intro e₀ config letters e₁ e₂
  have built : Component.build {} (EncoderConfig.given { modelPath := "v.txt" }) {} = .ok e₀ :=
    build_given rfl {}
  have reached : Reached e₂ :=
    .left (.performed (.performed (.performed (.constructed (.built built)) _ rfl) _ rfl) _ rfl)
  have noPath : Text.ofUtf8? [0xFF] = none := by decide +kernel
  have refused : e₀.perform (.own (.reconfigure { config with modelPath := [0xFF] })) = e₀ :=
    congrArg Step.state (e₀.reconfigure_of_notText rfl (GivenConfig.textual_of_none noPath))
  have taken : e₀.perform (.own (.reconfigure config.given)) =
      fresh {} config ⟨true, some 64⟩ :=
    congrArg Step.state ((captured_fresh rfl).reconfigure_of_valid rfl)
  have configured : e₁ = { fresh {} config ⟨true, some 64⟩ with tokenizer := letters } := by
    show ((e₀.perform _).perform _).perform _ = _
    rw [refused, taken]
    rfl
  have closed : e₂ = { fresh {} config ⟨true, some 64⟩ with tokenizer := letters } := by
    show (Component.leave e₁).1 = _
    rw [configured]
    rfl
  have lossless : ArgumentsReadBack e₂ ∧ EnvelopeFits e₂ := by
    rw [closed]
    exact Component.argumentsReadBack_and_envelopeFits
      ("model_path: w.txt\nskip_rows: 1\nbatch_size: 64\ndimension: 2\n" ++
        "pooling_strategy: REDUCE_MEAN\ntokenizer:\n  kind: unicode_words\n" ++
        "  normalize_unicode: true\n  lowercase: true\n")
      (by decide +kernel) (by decide +kernel) (by decide +kernel)
  have again := (restoresTo (captured_of_reached reached).valid lossless.1 lossless.2 {}).reloadedAs
    .empty "e.bin" fun _ => ⟨_, rfl⟩
  have reachedAgain := Reached.reloaded reached (fun _ => lossless) again
  obtain ⟨-, decoded, -, -, reconfigured⟩ := captured_arguments_never_drift reachedAgain
  have sameConfig : e₂.config = config := by
    rw [closed]
    rfl
  refine ⟨_, again, reachedAgain, decoded.trans (congrArg Except.ok sameConfig), ?_, ?_⟩
  · exact congrArg (fun kept : EncoderConfig => kept.tokenizer.tokenize) sameConfig
  · have new : Component.build (α := Encoder) {} (EncoderConfig.given { modelPath := "x.txt" }) {} =
        .ok _ := build_given rfl {}
    rw [(reconfigured _ {} {}).2 _ new]
    show Properties.mk e₂.base.properties.isTrained (some 64) = _
    rw [closed]
    rfl

end Encoder

end TextVec
