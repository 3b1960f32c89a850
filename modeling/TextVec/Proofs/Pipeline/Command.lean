import TextVec.CommandLine
import TextVec.Compression.Stored
import TextVec.Proofs.Encoder.Handles
import TextVec.Settings.Pattern

/-!
# The command line is the pipeline

The program loads an encoder and encodes the lines of its input, and what it writes is what encoding
them writes. Its settings, from a file and from the environment, decide how it logs and what handles
the encoder gets. Main statement: with proper arguments the program does what the pipeline does,
without them it writes nothing and fails, and two runs that differ only in valid settings end alike.
-/

namespace TextVec

/-! ## Encoding lines with other handles -/

/-- States of encoding that differ in the handles of their encoders, and in what was logged. -/
structure Encoded.Alike (handles : Handles) (first second : Encoded) : Prop where
  /-- They encode alike. -/
  encoder : second.encoder = first.encoder.withHandles handles
  /-- As many lines were written. -/
  written : second.written = first.written
  /-- And the same ones. -/
  output : second.output = first.output

/-- Encoding a batch does not configure the encoder again. -/
theorem config_encodeBatchOf (files : FileSystem) (done : Encoded) (texts : List String) :
    (encodeBatchOf files done texts).2.encoder.config = done.encoder.config := by
  obtain ⟨table, state⟩ := done.encoder.encode_state files texts
  have kept : (done.encoder.encode files texts).state.config = done.encoder.config := by
    rw [state]
  unfold encodeBatchOf
  simp only
  cases (done.encoder.encode files texts).result with
  | error failure => exact kept
  | ok vectors => exact kept

/-- A batch is encoded alike. -/
theorem encodeBatchOf_alike {handles : Handles} {first second : Encoded}
    (alike : first.Alike handles second) {files later : FileSystem}
    (same : later.read first.encoder.config.modelPath = files.read first.encoder.config.modelPath)
    (texts : List String) :
    (encodeBatchOf later second texts).1 = (encodeBatchOf files first texts).1 ∧
      (encodeBatchOf files first texts).2.Alike handles (encodeBatchOf later second texts).2 := by
  obtain ⟨result, state⟩ := first.encoder.encode_withHandles handles same texts
  -- The second encoder is the first one but for its handles.
  rw [← alike.encoder] at result state
  unfold encodeBatchOf
  simp only [result]
  cases (first.encoder.encode files texts).result with
  | error failure => exact ⟨rfl, state, alike.written, alike.output⟩
  | ok vectors =>
    refine ⟨rfl, state, ?_, ?_⟩
    · exact congrArg (· + vectors.length) alike.written
    · exact congrArg (· ++ String.join (vectors.map fun v => Json.writeVector v ++ "\n"))
        alike.output

/-- Lines are encoded alike, whatever was pending. -/
theorem encodeFrom_alike {handles : Handles} {files later : FileSystem} {size : Nat}
    {lines : List Bytes} {pending : List String} {first second : Encoded}
    (alike : first.Alike handles second)
    (same : later.read first.encoder.config.modelPath =
      files.read first.encoder.config.modelPath) :
    (encodeFrom later size pending second lines).1 = (encodeFrom files size pending first lines).1 ∧
      (encodeFrom files size pending first lines).2.Alike handles
        (encodeFrom later size pending second lines).2 := by
  -- By induction on the lines; both runs have the same lines pending.
  induction lines generalizing pending first second with
  | nil =>
    unfold encodeFrom
    by_cases nonePending : pending.isEmpty = true
    · rw [if_pos nonePending, if_pos nonePending]
      exact ⟨rfl, alike⟩
    · rw [if_neg nonePending, if_neg nonePending]
      exact encodeBatchOf_alike alike same pending.reverse
  | cons line rest ih =>
    unfold encodeFrom
    cases Text.ofUtf8? line with
    | none => exact ⟨rfl, alike⟩
    | some text =>
      simp only
      by_cases full : pending.length + 1 = size
      · rw [if_pos full, if_pos full]
        have batch := encodeBatchOf_alike alike same (text :: pending).reverse
        have config := config_encodeBatchOf files first (text :: pending).reverse
        -- The batch ends both runs or neither, and the file of the table stays the same one.
        revert batch config
        generalize encodeBatchOf later second (text :: pending).reverse = there
        generalize encodeBatchOf files first (text :: pending).reverse = here
        rintro ⟨result, states⟩ config
        obtain ⟨outcome, there⟩ := there
        obtain ⟨_, here⟩ := here
        cases result
        cases outcome with
        | error failure => exact ⟨rfl, states⟩
        | ok _ =>
          refine ih states ?_
          rw [show here.encoder.config = first.encoder.config from config]
          exact same
      · rw [if_neg full, if_neg full]
        exact ih alike same

/-- The lines of an input are encoded alike by encoders that differ in their handles. -/
theorem encodeLines_withHandles (e : Encoder) (handles : Handles) {files later : FileSystem}
    (same : later.read e.config.modelPath = files.read e.config.modelPath) (input : Bytes) :
    (encodeLines later (e.withHandles handles) input).1 = (encodeLines files e input).1 ∧
      (encodeLines later (e.withHandles handles) input).2.output =
        (encodeLines files e input).2.output := by
  have start : (Encoded.mk e 0 "" []).Alike handles (Encoded.mk (e.withHandles handles) 0 "" []) :=
    ⟨rfl, rfl, rfl⟩
  have size : (e.withHandles handles).batchSize = e.batchSize := rfl
  unfold encodeLines
  rw [size]
  obtain ⟨result, states⟩ :
      (encodeFrom later e.batchSize [] ⟨e.withHandles handles, 0, "", []⟩ (inputLines input)).1 =
        (encodeFrom files e.batchSize [] ⟨e, 0, "", []⟩ (inputLines input)).1 ∧
      (encodeFrom files e.batchSize [] ⟨e, 0, "", []⟩ (inputLines input)).2.Alike handles
        (encodeFrom later e.batchSize [] ⟨e.withHandles handles, 0, "", []⟩ (inputLines input)).2 :=
    encodeFrom_alike start same
  -- Nothing but the result and the alike states is used of the two runs.
  revert result states
  generalize encodeFrom later e.batchSize [] _ (inputLines input) = there
  generalize encodeFrom files e.batchSize [] _ (inputLines input) = here
  intro result states
  obtain ⟨outcome, there⟩ := there
  obtain ⟨_, here⟩ := here
  cases result
  cases outcome with
  | error failure => exact ⟨rfl, states.output⟩
  | ok _ => exact ⟨congrArg Except.ok states.written, states.output⟩

namespace CommandLine

/-! ## Arguments -/

/-- Arguments that name the file of a component, and perhaps one of valid settings. -/
inductive Accepted [Patterns]
    (files : FileSystem) : List String → String → ProcessSettings → Prop where
  /-- Without a second argument the settings are the defaults. -/
  | alone (path : String) : Accepted files [path] path {}
  /-- The second argument names a file of settings that are valid. -/
  | withSettings {path settingsPath : String} {settings : ProcessSettings}
      (valid : ProcessSettings.ofFile files settingsPath = .ok settings) :
      Accepted files [path, settingsPath] path settings

/-- Exactly accepted arguments are read. -/
theorem readArguments_eq_ok_iff [Patterns] {files : FileSystem} {arguments : List String}
    {path : String} {settings : ProcessSettings} :
    readArguments files arguments = .ok (path, settings) ↔
      Accepted files arguments path settings := by
  constructor
  · intro h
    match arguments with
    | [] => cases h
    | [_] =>
      cases h
      exact .alone path
    | _ :: settingsPath :: rest =>
      simp only [readArguments] at h
      -- The settings are read before a third argument is refused, so their error comes first.
      cases valid : ProcessSettings.ofFile files settingsPath with
      | error error =>
        rw [valid] at h
        cases h
      | ok read =>
        rw [valid] at h
        cases rest with
        | nil =>
          cases h
          exact .withSettings valid
        | cons third more => cases h
  · intro h
    cases h with
    | alone => rfl
    | withSettings valid =>
      simp only [readArguments, valid]
      rfl

/-- Exactly accepted arguments that name the file of an encoder load one. -/
theorem loadFrom_eq_ok_iff [Patterns] [Compressor] {files : FileSystem} {environment : Environment}
    {arguments : List String} {e : Encoder} :
    loadFrom files environment arguments = .ok e ↔
      ∃ path settings, Accepted files arguments path settings ∧
        (loadEncoder (.standard (settings.handleSettings environment)) files path).result =
          .ok e := by
  unfold loadFrom
  rw [Outcome.bind_eq_ok_iff]
  constructor
  · rintro ⟨⟨path, settings⟩, read, load⟩
    refine ⟨path, settings, readArguments_eq_ok_iff.mp read, ?_⟩
    simp only at load
    -- Any failure of loading is reported with the path, so only a success remains.
    cases loaded :
        (loadEncoder (.standard (settings.handleSettings environment)) files path).result with
    | error failure =>
      rw [loaded] at load
      cases load
    | ok encoder =>
      rw [loaded] at load
      cases load
      rfl
  · rintro ⟨path, settings, accepted, loaded⟩
    refine ⟨(path, settings), readArguments_eq_ok_iff.mpr accepted, ?_⟩
    simp only [loaded]

/-- Accepted arguments that do not name the file of an encoder fail to load it. -/
theorem loadFrom_of_error [Patterns] [Compressor] {files : FileSystem} {environment : Environment}
    {arguments : List String}
    {path : String} {settings : ProcessSettings} (accepted : Accepted files arguments path settings)
    {failure : PipelineFailure}
    (h : (loadEncoder (.standard (settings.handleSettings environment)) files path).result =
      .error failure) :
    loadFrom files environment arguments = .error (.loading path failure) := by
  unfold loadFrom
  rw [readArguments_eq_ok_iff.mpr accepted]
  simp only [bind, Except.bind, h]

/-! ## Running -/

/-- Closing an encoder cannot fail. -/
theorem finish_encoder (e : Encoder) : (Component.finish e).result = .ok () := by
  show e.close.result = _
  unfold Encoder.close
  cases e.table with
  | none => rfl
  | some table => rfl

/-- How a run ends that has an encoder: as encoding the lines of the input does. -/
theorem run_of_loadFrom [Patterns] [Compressor] {files : FileSystem} {environment : Environment}
    {arguments : List String}
    {e : Encoder} (h : loadFrom files environment arguments = .ok e) (input : Bytes) :
    run files environment arguments input =
      { output := (encodeLines files e input).2.output
        failure := match (encodeLines files e input).1 with
          | .ok _ => none
          | .error failure => some (.encoding failure) } := by
  unfold run
  rw [h]
  simp only
  obtain ⟨result, done⟩ := encodeLines files e input
  cases result with
  | error failure => rfl
  -- Closing comes last, and for encoders it cannot fail.
  | ok written => simp only [finish_encoder]

/-- Nothing is written without an encoder. -/
theorem run_of_loadFrom_error [Patterns] [Compressor] {files : FileSystem}
    {environment : Environment} {arguments : List String} {failure : CommandFailure}
    (h : loadFrom files environment arguments = .error failure) (input : Bytes) :
    run files environment arguments input = { failure := some failure } := by
  unfold run
  rw [h]

/-- If the component and the table of its encoder are the same, a run with other valid settings ends
in the same way and writes the same. -/
theorem run_eq_run [Patterns] [Compressor] {files later : FileSystem}
    {arguments others : List String} {path : String}
    {settings more : ProcessSettings} (accepted : Accepted files arguments path settings)
    (acceptedLater : Accepted later others path more) {environment around : Environment}
    (sameComponent : later.read path = files.read path)
    (sameTable : ∀ e,
      (loadEncoder (.standard (settings.handleSettings environment)) files path).result = .ok e →
      later.read e.config.modelPath = files.read e.config.modelPath)
    (input : Bytes) :
    run later around others input = run files environment arguments input := by
  have attached := Encoder.loadEncoder_attach (settings.handleSettings environment)
    (more.handleSettings around) sameComponent
  cases loaded :
      (loadEncoder (.standard (settings.handleSettings environment)) files path).result with
  | error failure =>
    rw [loaded] at attached
    rw [run_of_loadFrom_error (loadFrom_of_error accepted loaded),
      run_of_loadFrom_error (loadFrom_of_error acceptedLater attached)]
  | ok e =>
    rw [loaded] at attached
    have load := loadFrom_eq_ok_iff.mpr ⟨path, settings, accepted, loaded⟩
    -- The encoder of the other run is the same one with other handles.
    have other : loadFrom later around others = .ok (e.withHandles
        (.attach (Component.kind Encoder) (more.handleSettings around))) :=
      loadFrom_eq_ok_iff.mpr ⟨path, more, acceptedLater, attached⟩
    obtain ⟨result, output⟩ := encodeLines_withHandles e
      (.attach (Component.kind Encoder) (more.handleSettings around)) (sameTable e loaded) input
    rw [run_of_loadFrom load, run_of_loadFrom other, result, output]

/-- **The program is the pipeline.** With arguments that name a component file, and perhaps a file
of valid settings, and if that is the file of an encoder, the program writes what encoding the lines
of its input writes, up to where that fails, and the exit code is zero exactly if it does not fail.
In every other case nothing is written and the exit code is not zero. And settings, from a file or
from the environment, are not seen: two runs on the same component, table and input with any valid
settings end alike. -/
theorem command_is_pipeline [Patterns] [Compressor] (files : FileSystem) (environment : Environment)
    (arguments : List String) (input : Bytes) :
    (∀ path settings e, Accepted files arguments path settings →
      (loadEncoder (.standard (settings.handleSettings environment)) files path).result = .ok e →
      (run files environment arguments input).output = (encodeLines files e input).2.output ∧
      ((run files environment arguments input).code = 0 ↔
        ∃ written, (encodeLines files e input).1 = .ok written)) ∧
    ((¬ ∃ path settings e, Accepted files arguments path settings ∧
        (loadEncoder (.standard (settings.handleSettings environment)) files path).result = .ok e) →
      (run files environment arguments input).output = "" ∧
      (run files environment arguments input).code ≠ 0) ∧
    ∀ later around others path settings more,
      Accepted files arguments path settings → Accepted later others path more →
      later.read path = files.read path →
      (∀ e,
        (loadEncoder (.standard (settings.handleSettings environment)) files path).result = .ok e →
        later.read e.config.modelPath = files.read e.config.modelPath) →
      run later around others input = run files environment arguments input := by
  refine ⟨?_, ?_, ?_⟩
  · intro path settings e accepted loaded
    rw [run_of_loadFrom (loadFrom_eq_ok_iff.mpr ⟨path, settings, accepted, loaded⟩)]
    refine ⟨rfl, ?_⟩
    cases (encodeLines files e input).1 with
    | error failure => simp [Run.code]
    | ok written => simp [Run.code]
  · intro none
    -- Without arguments that are accepted, or without an encoder, nothing is loaded.
    cases load : loadFrom files environment arguments with
    | error failure =>
      rw [run_of_loadFrom_error load]
      exact ⟨rfl, Nat.one_ne_zero⟩
    | ok e =>
      obtain ⟨path, settings, accepted, loaded⟩ := loadFrom_eq_ok_iff.mp load
      exact absurd ⟨path, settings, e, accepted, loaded⟩ none
  · intro later around others path settings more accepted acceptedLater sameComponent sameTable
    exact run_eq_run accepted acceptedLater sameComponent sameTable input

open Compression Pattern in
/-- An empty line is encoded with and without a file of settings that has every batch reported, and
with caches in different places. A file that is none of settings is refused. -/
theorem command_is_pipeline_verbose :
    let files : FileSystem :=
      ⟨[(["e.yml"], .file (Text.toUtf8
          "!Word2VecEncoder\nparameter:\n  model_path: v.txt\n  dimension: 1\n")),
        (["r.yml"], .file (Text.toUtf8 "verbose: true\n")),
        (["v.txt"], .file (Text.toUtf8 "a 1\n"))]⟩
    let input := Text.toUtf8 "\n"
    ∃ e settings,
      (loadEncoder (.standard {}) files "e.yml").result = .ok e ∧
      Accepted files ["e.yml", "r.yml"] "e.yml" settings ∧ settings.verbose = some true ∧
      (run files {} ["e.yml"] input).output = "[0.0]\n" ∧
      (encodeLines files e input).2.output = "[0.0]\n" ∧
      (∃ written, (encodeLines files e input).1 = .ok written) ∧
      run files ⟨some "elsewhere", none⟩ ["e.yml", "r.yml"] input = run files {} ["e.yml"] input ∧
      (run files {} ["e.yml", "v.txt"] input).output = "" := by
  intro files input
  have loads : (loadEncoder (.standard {}) files "e.yml").result.isOk = true := by decide +kernel
  have reads : (ProcessSettings.ofFile files "r.yml").toOption.bind (·.verbose) = some true := by
    decide +kernel
  have refused : (ProcessSettings.ofFile files "v.txt").isOk = false := by decide +kernel
  have output : (run files {} ["e.yml"] input).output = "[0.0]\n" := by decide +kernel
  have code : (run files {} ["e.yml"] input).code = 0 := by decide +kernel
  -- That it loads was computed; which encoder it is need not be.
  cases loaded : (loadEncoder (.standard {}) files "e.yml").result with
  | error failure =>
    rw [loaded] at loads
    cases loads
  | ok e =>
    cases valid : ProcessSettings.ofFile files "r.yml" with
    | error error =>
      rw [valid] at reads
      cases reads
    | ok settings =>
      rw [valid] at reads
      have alone : Accepted files ["e.yml"] "e.yml" {} := .alone "e.yml"
      have both : Accepted files ["e.yml", "r.yml"] "e.yml" settings := .withSettings valid
      obtain ⟨works, -, alike⟩ := command_is_pipeline files {} ["e.yml"] input
      obtain ⟨same, succeeds⟩ := works "e.yml" {} e alone loaded
      obtain ⟨-, fails, -⟩ := command_is_pipeline files {} ["e.yml", "v.txt"] input
      have nothing := fails <| by
        rintro ⟨path, more, other, accepted, -⟩
        cases accepted with
        | withSettings valid =>
          rw [valid] at refused
          cases refused
      exact ⟨e, settings, rfl, both, reads, output, same.symm.trans output, succeeds.mp code,
        alike files ⟨some "elsewhere", none⟩ _ "e.yml" {} settings alone both rfl fun _ _ => rfl,
        nothing.1⟩

end CommandLine

end TextVec
