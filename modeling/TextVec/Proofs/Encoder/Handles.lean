import TextVec.Pipeline
import TextVec.Proofs.Encoder.CachedTable

/-!
# Encoders and their handles

Handles come from the process: they say where a cache is and whether batches are reported. They have
no part in what an encoder is or does. Main statements: the settings for handles do not decide
whether a file is loaded, and loading it with other settings gives the same encoder with other
handles; and two encoders that differ in their handles encode alike and still differ in nothing
else.
-/

namespace TextVec

namespace Encoder

/-- The same encoder with other handles. -/
def withHandles (e : Encoder) (handles : Handles) : Encoder :=
  { e with base := { e.base with handles } }

/-! ## Loading -/

/-- Restoring an encoder only keeps its handles. -/
theorem ofEnvelope_attach (first second : HandleSettings) (e : Envelope) :
    Component.ofEnvelope Encoder second e =
      (Component.ofEnvelope Encoder first e).map fun c => Component.attach c second := by
  -- Each check looks at the envelope alone, so with both settings the same one fails first.
  unfold Component.ofEnvelope
  by_cases otherKind : (e.kind != Component.kind Encoder) = true
  · rw [if_pos otherKind, if_pos otherKind]
    rfl
  · rw [if_neg otherKind, if_neg otherKind]
    by_cases otherVersion : (e.version != Component.version Encoder) = true
    · rw [if_pos otherVersion, if_pos otherVersion]
      rfl
    · rw [if_neg otherVersion, if_neg otherVersion]
      cases Component.takeState Encoder e.state with
      | none => rfl
      | some taken =>
        obtain ⟨config, rest⟩ := taken
        cases Yaml.Mapping.read? e.arguments with
        | none => rfl
        | some arguments =>
          -- All that can still fail is the check of the configuration.
          show Encoder.ofConfig config _ = (Encoder.ofConfig config _).map _
          unfold Encoder.ofConfig
          cases config.validate <;> rfl

/-- Constructing an encoder for a document gives it its handles after everything that can fail. -/
theorem ofBody_attach (first second : HandleSettings) (sections : Yaml.Mapping) :
    Component.ofBody Encoder second sections =
      (Component.ofBody Encoder first sections).map fun c => Component.attach c second := by
  -- As with envelopes, no step that can fail has seen the handles.
  unfold Component.ofBody
  cases Document.sectionOf sections .parameter with
  | error failure => rfl
  | ok arguments =>
    cases Document.sectionOf sections .property with
    | error failure => rfl
    | ok overrides =>
      simp only [bind, Except.bind]
      cases Component.readArguments Encoder arguments with
      | error failure => rfl
      | ok read =>
        obtain ⟨config, raw⟩ := read
        simp only
        cases Component.build (α := Encoder) {} config raw with
        | error failure => rfl
        | ok new =>
          have properties (settings : HandleSettings) :
              Component.properties (Component.attach new settings) = Component.properties new := rfl
          simp only [properties]
          -- The properties are set alike, whatever the handles are.
          cases set : (Component.properties new).apply overrides with
          | mk result properties =>
            cases result <;> rfl

/-- The standard registry finds encoders and nothing else. -/
theorem find_standard (settings : HandleSettings) (name : String) :
    (Registry.standard settings).find name =
      if name = Component.kind Encoder then .ok Kind.encoder.loader
      else .error (.unknownKind name) := by
  by_cases h : name = Component.kind Encoder
  · subst h
    rfl
  · have other : (Kind.encoder.loader.name == name) = false := by
      rw [beq_eq_false_iff_ne]
      exact Ne.symm h
    have kinds : (Registry.standard settings).kinds = [Kind.encoder.loader] := rfl
    rw [if_neg h]
    simp only [Loaders.find, kinds, List.find?_cons, other, List.find?_nil]

/-- **The settings for handles only give handles**: a file is loaded for the pipeline with some
exactly if it is loaded with others, and then as the same encoder but for its handles. -/
theorem loadEncoder_attach [Compressor] (first second : HandleSettings) {files later : FileSystem}
    {path : String} (same : later.read path = files.read path) :
    (loadEncoder (.standard second) later path).result =
      (loadEncoder (.standard first) files path).result.map fun c => Component.attach c second := by
  have settings (s : HandleSettings) : (Registry.standard s).settings = s := rfl
  simp only [loadEncoder, Registry.load]
  -- Both formats look up the kind in the registry, which knows encoders only, with any settings.
  cases formatOf path with
  | binary =>
    have sameFile : Envelope.readFile later path = Envelope.readFile files path := by
      simp only [Envelope.readFile, same]
    simp only [Loaders.loadBinary, sameFile, bind, Except.bind]
    cases Envelope.readFile files path with
    | error failure => rfl
    | ok e =>
      simp only [find_standard]
      by_cases kind : e.kind = Component.kind Encoder
      · simp only [kind, if_true, settings, Kind.loader, Loader.of, ofEnvelope_attach first second]
        cases Component.ofEnvelope Encoder first e <;> rfl
      · simp only [kind, if_false]
        rfl
  | structured =>
    have sameFile : Document.readFile later path = Document.readFile files path := by
      simp only [Document.readFile, FileSystem.readText, same]
    simp only [Loaders.loadStructured, sameFile, bind, Except.bind]
    cases Document.readFile files path with
    | error failure => rfl
    | ok document =>
      obtain ⟨tag, sections⟩ := document
      cases tag with
      | none => rfl
      | some name =>
        simp only [find_standard]
        by_cases kind : name = Component.kind Encoder
        · simp only [kind, if_true, settings, Kind.loader, Loader.of, ofBody_attach first second]
          cases Component.ofBody Encoder first sections <;> rfl
        · simp only [kind, if_false]
          rfl

/-! ## Encoding -/

/-- Encoders that differ in their handles find the same table in files that agree on it, and still
differ in nothing else when they have it. -/
theorem needTable_withHandles (e : Encoder) (handles : Handles) {files later : FileSystem}
    (same : later.read e.config.modelPath = files.read e.config.modelPath) :
    ((e.withHandles handles).needTable later).result = (e.needTable files).result ∧
      ((e.withHandles handles).needTable later).state =
        (e.needTable files).state.withHandles handles := by
  have sameTable : (e.withHandles handles).readTable later = e.readTable files := by
    show ofDisk (VectorTable.load later e.config.modelPath _ _) = _
    simp only [readTable, VectorTable.load, same]
    rfl
  have sameCell : (e.withHandles handles).table = e.table := rfl
  -- The table that is there counts first, and then the one in the file.
  unfold needTable
  rw [sameCell, sameTable]
  cases present : e.table with
  | some table => exact ⟨rfl, rfl⟩
  | none =>
    simp only
    cases e.readTable files with
    | error failure => exact ⟨rfl, rfl⟩
    | ok read => exact ⟨rfl, rfl⟩

/-- Encoders that differ in their handles encode alike. -/
theorem encode_withHandles (e : Encoder) (handles : Handles) {files later : FileSystem}
    (same : later.read e.config.modelPath = files.read e.config.modelPath) (texts : List String) :
    ((e.withHandles handles).encode later texts).result = (e.encode files texts).result ∧
      ((e.withHandles handles).encode later texts).state =
        (e.encode files texts).state.withHandles handles := by
  obtain ⟨result, state⟩ := e.needTable_withHandles handles same
  have checks : (do Component.requireTrained (e.withHandles handles) "encode"
                    (e.withHandles handles).pooling) =
      (do Component.requireTrained e "encode"; e.pooling) := rfl
  unfold encode
  -- Neither check looks at the handles.
  rw [checks]
  cases (do Component.requireTrained e "encode"; e.pooling) with
  | error failure => exact ⟨rfl, rfl⟩
  | ok pooling =>
    simp only [result]
    cases (e.needTable files).result with
    | error failure => exact ⟨rfl, state⟩
    -- The batches are the same, and reporting them or not is no part of the result.
    | ok table => exact ⟨rfl, state⟩

end Encoder

end TextVec
