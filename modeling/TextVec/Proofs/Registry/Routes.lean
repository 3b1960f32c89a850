import TextVec.Compression.Stored
import TextVec.Pipeline
import TextVec.Proofs.Registry.Lookup
import TextVec.Proofs.Yaml.Equality

/-!
# Ways of loading

A component can be loaded as one of a known kind, through a registry, or as an encoder for the
pipeline. Whatever was registered, in whatever order and how often, these ways agree: a registry
makes of a file what the kind that the file names makes of it, and fails where the file cannot be
read or names no kind that was registered.
-/

namespace TextVec

namespace Loaders

variable {β : Type}

/-! ## Files of a registered kind, and others -/

/-- What a registry makes of a binary file. -/
structure BinaryRoute [Compressor] (settings : HandleSettings) (loaders : List (Loader β))
    (files : FileSystem) (path : String) : Prop where
  /-- It fails where the file cannot be read. -/
  unreadable : ∀ failure, Envelope.readFile files path = .error failure →
    (registered settings loaders).loadBinary files path = .error failure
  /-- It fails where nothing is registered for the kind in the file, and says for which. -/
  unknown : ∀ e, Envelope.readFile files path = .ok e →
    (∀ loader ∈ loaders, loader.name ≠ e.kind) →
    (registered settings loaders).loadBinary files path = .error (.unknownKind e.kind)
  /-- Otherwise it gives what the kind registered last gives. -/
  typed : ∀ {α Config State : Type} [Component α Config State] (wrap : α → β) (e : Envelope),
    Envelope.readFile files path = .ok e → latest loaders e.kind = some (.of α wrap) →
    (registered settings loaders).loadBinary files path =
      (Component.loadBinary α settings files path).map wrap

/-- What a registry makes of a structured file. -/
structure StructuredRoute (settings : HandleSettings) (loaders : List (Loader β))
    (files : FileSystem) (path : String) : Prop where
  /-- It fails where the file cannot be read. -/
  unreadable : ∀ failure, Document.readFile files path = .error failure →
    (registered settings loaders).loadStructured files path = .error failure
  /-- It fails where the file does not say its kind. -/
  untagged : ∀ document, Document.readFile files path = .ok document → document.kind = none →
    (registered settings loaders).loadStructured files path = .error (.unreadable (.untagged path))
  /-- It fails where nothing is registered for that kind, and says for which. -/
  unknown : ∀ document name, Document.readFile files path = .ok document →
    document.kind = some name → (∀ loader ∈ loaders, loader.name ≠ name) →
    (registered settings loaders).loadStructured files path = .error (.unknownKind name)
  /-- Otherwise it gives what the kind registered last gives. -/
  typed : ∀ {α Config State : Type} [Component α Config State] (wrap : α → β)
    (document : Document) (name : String), Document.readFile files path = .ok document →
    document.kind = some name → latest loaders name = some (.of α wrap) →
    (registered settings loaders).loadStructured files path =
      (Component.loadStructured α settings files path).map wrap

theorem binaryRoute [Compressor] (settings : HandleSettings) (loaders : List (Loader β))
    (files : FileSystem) (path : String) : BinaryRoute settings loaders files path where
  unreadable failure h := by
    rw [loadBinary, h]
    rfl
  unknown e h noneNamed := by
    rw [loadBinary, h]
    simp only [bind, Except.bind, find_registered, latest_eq_none_iff.mpr noneNamed]
  typed wrap e h found := by
    rw [loadBinary, h, Component.loadBinary, h]
    simp only [bind, Except.bind, find_registered, found, settings_registered]
    rfl

theorem structuredRoute (settings : HandleSettings) (loaders : List (Loader β))
    (files : FileSystem) (path : String) : StructuredRoute settings loaders files path where
  unreadable failure h := by
    rw [loadStructured, h]
    rfl
  untagged document h untagged := by
    rw [loadStructured, h]
    simp only [bind, Except.bind, untagged]
  unknown document name h tagged noneNamed := by
    rw [loadStructured, h]
    simp only [bind, Except.bind, tagged, find_registered, latest_eq_none_iff.mpr noneNamed]
  typed {α _ _ _} wrap document name h tagged found := by
    -- The kind does not refuse the tag, since its loader was found under it.
    have named : Component.kind α = name := name_of_latest found
    rw [loadStructured, h, Component.loadStructured, h]
    simp only [bind, Except.bind, tagged, find_registered, found, settings_registered, named,
      beq_self_eq_true, if_true]
    rfl

end Loaders

namespace Registry

/-- A registry of kinds loads from a binary file a component of the kind that the file names. -/
theorem kind_of_loadBinary [Compressor] {settings : HandleSettings} {kinds : List Kind}
    {files : FileSystem} {path : String} {e : Envelope} {component : AnyComponent}
    (stored : Envelope.readFile files path = .ok e)
    (h : (kinds.foldl register ⟨settings, []⟩).loadBinary files path = .ok component) :
    component.kind.name = e.kind := by
  -- The loader goes by the kind in the file, and what it loads is of the kind that it goes by.
  obtain ⟨e', k, read, named, made⟩ := exists_of_loadBinary h
  cases stored.symm.trans read
  rw [Kind.kind_of_loader.1 e made, named]

/-- A registry of kinds loads from a structured file a component of the kind in its tag. -/
theorem kind_of_loadStructured {settings : HandleSettings} {kinds : List Kind} {files : FileSystem}
    {path : String} {document : Document} {component : AnyComponent}
    (stored : Document.readFile files path = .ok document)
    (h : (kinds.foldl register ⟨settings, []⟩).loadStructured files path = .ok component) :
    some component.kind.name = document.kind := by
  obtain ⟨document', k, read, tagged, made⟩ := exists_of_loadStructured h
  cases stored.symm.trans read
  rw [Kind.kind_of_loader.2 document.body made, tagged]

end Registry

/-! ## Files of other kinds -/

namespace Component

variable {α Config State : Type} [Component α Config State]

/-- No kind loads a binary file of another. -/
theorem loadBinary_of_ne [Compressor] {settings : HandleSettings} {files : FileSystem}
    {path : String}
    {e : Envelope} (stored : Envelope.readFile files path = .ok e) (other : e.kind ≠ kind α) :
    loadBinary α settings files path =
      .error (.unreadable (.otherKind e.kind (kind α))) := by
  -- The kind is compared before anything else, so it does not matter what else is wrong.
  rw [loadBinary, stored]
  simp only [bind, Except.bind, ofEnvelope, bne_iff_ne.mpr other, if_true]

/-- No kind loads a structured file under the tag of another. -/
theorem loadStructured_of_ne {settings : HandleSettings} {files : FileSystem} {path : String}
    {document : Document} {name : String} (stored : Document.readFile files path = .ok document)
    (tagged : document.kind = some name) (other : name ≠ kind α) :
    loadStructured α settings files path = .error (.unreadable (.otherKind name (kind α))) := by
  rw [loadStructured, stored]
  simp only [bind, Except.bind, tagged, beq_eq_false_iff_ne.mpr other, Bool.false_eq_true, if_false]

/-- Without a tag, a structured file may hold any kind. -/
theorem loadStructured_of_untagged {settings : HandleSettings} {files : FileSystem} {path : String}
    {document : Document} (stored : Document.readFile files path = .ok document)
    (untagged : document.kind = none) :
    loadStructured α settings files path = ofBody α settings document.body := by
  rw [loadStructured, stored]
  simp only [bind, Except.bind, untagged]

end Component

/-! ## Encoders for the pipeline -/

/-- What the pipeline makes of what was loaded for it. -/
structure EncoderOutcome (loaded : Result AnyComponent) (result : Except PipelineFailure Encoder) :
    Prop where
  /-- An encoder is taken. -/
  encoder : ∀ e, loaded = .ok (.encoder e) → result = .ok e
  /-- Anything else is refused by the name of its kind. -/
  other : ∀ component, loaded = .ok component → component.kind ≠ .encoder →
    result = .error (.notAnEncoder component.kind.name)
  /-- A failure of loading stays the same. -/
  failed : ∀ failure, loaded = .error failure → result = .error (.component failure)

/-- A file is binary if its name says so, and structured if not. -/
theorem formatOf_eq_binary_iff {path : String} :
    formatOf path = .binary ↔ Path.extension? path = some "bin" := by
  unfold formatOf
  by_cases h : Path.extension? path = some "bin" <;> simp [h]

/-- The pipeline makes this of what the registry has loaded. -/
theorem encoderOutcome_loadEncoder [Compressor] (registry : Registry) (files : FileSystem)
    (path : String) :
    EncoderOutcome (registry.load (formatOf path) files path).result
      (loadEncoder registry files path).result := by
  unfold loadEncoder
  refine ⟨?_, ?_, ?_⟩
  · intro e h
    simp only [h]
  · intro component h different
    cases component with
    | encoder e => exact absurd rfl different
    | centroid c => simp only [h]
    | splat s => simp only [h]
  · intro failure h
    simp only [h]

/-- Reporting a failure does not change it. -/
theorem Registry.result_load [Compressor] (registry : Registry) (format : Format)
    (files : FileSystem) (path : String) :
    (registry.load format files path).result =
      match format with
      | .binary => registry.loadBinary files path
      | .structured => registry.loadStructured files path := by
  unfold Registry.load
  cases format
  · cases registry.loadBinary files path <;> rfl
  · cases registry.loadStructured files path <;> rfl

/-! ## All ways agree -/

/-- **All ways of loading agree.** Whatever loaders were registered, a registry gives what loading a
file as one of the kind that it names gives, and fails as it should where there is no such kind; no
kind loads a file of another; and the pipeline asks the registry, by the format that the name of the
file says. A registry of kinds finds the loaders of just these kinds, and what it loads is of the
kind that the file names. -/
theorem load_routes_agree [Compressor] (settings : HandleSettings) (files : FileSystem)
    (path : String) : (∀ {β : Type} (loaders : List (Loader β)),
      Loaders.BinaryRoute settings loaders files path ∧
        Loaders.StructuredRoute settings loaders files path) ∧
    (∀ {α Config State : Type} [Component α Config State],
      (∀ e, Envelope.readFile files path = .ok e → e.kind ≠ Component.kind α →
        Component.loadBinary α settings files path =
          .error (.unreadable (.otherKind e.kind (Component.kind α)))) ∧
      ∀ document, Document.readFile files path = .ok document →
        (document.kind = none → Component.loadStructured α settings files path =
          Component.ofBody α settings document.body) ∧
        ∀ name, document.kind = some name → name ≠ Component.kind α →
          Component.loadStructured α settings files path =
            .error (.unreadable (.otherKind name (Component.kind α)))) ∧
    (∀ registry : Registry,
      (Path.extension? path = some "bin" →
        EncoderOutcome (registry.loadBinary files path) (loadEncoder registry files path).result) ∧
      (Path.extension? path ≠ some "bin" →
        EncoderOutcome (registry.loadStructured files path)
          (loadEncoder registry files path).result)) ∧
    ∀ kinds : List Kind,
      kinds.foldl Registry.register ⟨settings, []⟩ =
        Loaders.registered settings (kinds.map Kind.loader) ∧
      (∀ k, k ∈ kinds ↔ Loaders.latest (kinds.map Kind.loader) k.name = some k.loader) ∧
      (∀ e component, Envelope.readFile files path = .ok e →
        (kinds.foldl Registry.register ⟨settings, []⟩).loadBinary files path = .ok component →
        component.kind.name = e.kind) ∧
      ∀ document component, Document.readFile files path = .ok document →
        (kinds.foldl Registry.register ⟨settings, []⟩).loadStructured files path = .ok component →
        some component.kind.name = document.kind := by
  refine ⟨fun loaders => ⟨Loaders.binaryRoute .., Loaders.structuredRoute ..⟩, ?_, ?_, ?_⟩
  · intro α Config State _
    refine ⟨fun e stored other => Component.loadBinary_of_ne stored other, ?_⟩
    intro document stored
    exact ⟨fun untagged => Component.loadStructured_of_untagged stored untagged,
      fun name tagged other => Component.loadStructured_of_ne stored tagged other⟩
  · intro registry
    -- There are two formats, and the name of the file tells which one it is.
    have outcome := encoderOutcome_loadEncoder registry files path
    rw [Registry.result_load] at outcome
    constructor
    · intro bin
      rwa [formatOf_eq_binary_iff.mpr bin] at outcome
    · intro notBin
      have structured : formatOf path = .structured := by
        cases format : formatOf path with
        | binary => exact absurd (formatOf_eq_binary_iff.mp format) notBin
        | structured => rfl
      rwa [structured] at outcome
  · intro kinds
    refine ⟨Registry.foldl_register settings kinds, fun k => ⟨Registry.latest_of_mem, fun h => ?_⟩,
      fun e component stored h => Registry.kind_of_loadBinary stored h,
      fun document component stored h => Registry.kind_of_loadStructured stored h⟩
    -- What is found under the name of a kind was registered by a kind of that name.
    obtain ⟨k', hMem, -, named⟩ := Registry.exists_of_latest h
    rwa [Kind.eq_of_name_eq named] at hMem

open Compression in
/-- A file of a splat, and the same without its tag: a registry does not load the latter, but as a
splat both are loaded. The pipeline does not take a splat. -/
theorem load_routes_agree_splat :
    let body : Yaml.Mapping := [(.string "parameter", .mapping [(.string "name", .string "s")])]
    let files : FileSystem :=
      ⟨[(["t"], .file (Text.toUtf8 "!Splat\nparameter:\n  name: s\n")),
        (["u"], .file (Text.toUtf8 "parameter:\n  name: s\n"))]⟩
    let registry : Registry := [Kind.splat, .encoder, .splat].foldl Registry.register ⟨{}, []⟩
    Document.readFile files "t" = .ok ⟨some "Splat", body⟩ ∧
      Document.readFile files "u" = .ok ⟨none, body⟩ ∧
      (∃ s : Splat, Component.loadStructured Splat {} files "t" = .ok s ∧
        registry.loadStructured files "t" = .ok (.splat s) ∧
        Component.loadStructured Splat {} files "u" = .ok s ∧
        registry.loadStructured files "u" = .error (.unreadable (.untagged "u"))) ∧
      (loadEncoder registry files "t").result = .error (.notAnEncoder "Splat") := by
  intro body files registry
  have readTagged : Yaml.Value.read? "!Splat\nparameter:\n  name: s\n" =
      some (.tagged "Splat" (.mapping body)) := by decide +kernel
  have readUntagged : Yaml.Value.read? "parameter:\n  name: s\n" = some (.mapping body) := by
    decide +kernel
  have contentTagged : files.read "t" =
      .ok (Text.toUtf8 "!Splat\nparameter:\n  name: s\n") := rfl
  have contentUntagged : files.read "u" = .ok (Text.toUtf8 "parameter:\n  name: s\n") := rfl
  have tagged : Document.readFile files "t" = .ok ⟨some "Splat", body⟩ := by
    have kind : Document.kindOfTag "Splat" = "Splat" := by decide
    simp only [Document.readFile, FileSystem.readText, contentTagged, Text.ofUtf8?_toUtf8, ofDisk,
      bind, Except.bind, readTagged, Document.ofValue, kind]
  have untagged : Document.readFile files "u" = .ok ⟨none, body⟩ := by
    simp only [Document.readFile, FileSystem.readText, contentUntagged, Text.ofUtf8?_toUtf8, ofDisk,
      bind, Except.bind, readUntagged, Document.ofValue, body]
  obtain ⟨s, made⟩ : ∃ s, Component.ofBody Splat {} body = .ok s := ⟨_, rfl⟩
  -- As a splat both files are made of the same sections.
  have loadedTagged : Component.loadStructured Splat {} files "t" = .ok s := by
    rw [Component.loadStructured, tagged]
    exact made
  obtain ⟨routesTagged, -, encoders, kinds⟩ := load_routes_agree {} files "t"
  obtain ⟨routesUntagged, typed, -, -⟩ := load_routes_agree {} files "u"
  obtain ⟨loaders, found, -⟩ := kinds [.splat, .encoder, .splat]
  have same : registry = Loaders.registered {} ([.splat, .encoder, .splat].map Kind.loader) :=
    loaders
  have viaTagged : registry.loadStructured files "t" = .ok (.splat s) := by
    rw [same, (routesTagged _).2.typed AnyComponent.splat _ _ tagged rfl
      ((found .splat).mp (by decide)), loadedTagged]
    rfl
  have viaUntagged : registry.loadStructured files "u" = .error (.unreadable (.untagged "u")) := by
    rw [same]
    exact (routesUntagged _).2.untagged _ untagged rfl
  have loadedUntagged : Component.loadStructured Splat {} files "u" = .ok s :=
    ((typed.2 _ untagged).1 rfl).trans made
  have notBin : Path.extension? "t" ≠ some "bin" := by decide
  exact ⟨tagged, untagged, ⟨s, loadedTagged, viaTagged, loadedUntagged, viaUntagged⟩,
    ((encoders registry).2 notBin).other _ viaTagged (by simp [AnyComponent.kind])⟩

end TextVec
