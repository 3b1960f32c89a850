import TextVec.Proofs.Component.Envelope
import TextVec.Proofs.Component.Sections
import TextVec.Proofs.Encoder.Captured
import TextVec.Proofs.Registry.Routes

/-!
# Components that were given settings

A component gets its handles when it is built, loaded or attached, from the settings of the
environment or from settings that are given. Main statement: whichever way it got them, its cache is
that of its kind, and nothing else about the component counts.
-/

namespace TextVec

namespace Component

variable {α Config State : Type} [Component α Config State]

/-- A kind that keeps the handles its components are made with, and those they are given later. -/
structure KeepsHandles (α : Type) {Config State : Type} [Component α Config State] : Prop where
  /-- A component has the base that it was given. -/
  base_withBase : ∀ (component : α) (b : Base), base (withBase component b) = b
  /-- The constructor keeps the handles. -/
  handles_make : ∀ {config : Config} {raw : RawArguments} {b : Base} {component : α},
    make config raw b = .ok component → (base component).handles = b.handles
  /-- So does restoring. -/
  handles_restore : ∀ {b : Base} {state : State} {component : α},
    restore b state = .ok component → (base component).handles = b.handles

/-- A component that has its handles from given settings: it was built in an environment with these
settings, loaded with them, or attached to them, whatever it was before. -/
inductive Given [Compressor] (settings : HandleSettings) : α → Prop where
  | built {environment : Environment} {config : Config} {raw : RawArguments} {component : α}
      (same : HandleSettings.ofEnvironment environment = settings)
      (h : build environment config raw = .ok component) : Given settings component
  | loaded {format : Format} {files : FileSystem} {path : String} {component : α}
      (h : (load α format settings files path).result = .ok component) : Given settings component
  | attached (component : α) : Given settings (attach component settings)

theorem handles_of_build (keeps : KeepsHandles α) {environment : Environment} {config : Config}
    {raw : RawArguments} {component : α} (h : build environment config raw = .ok component) :
    (base component).handles = .attach (kind α) (.ofEnvironment environment) := by
  unfold build at h
  obtain ⟨arguments, -, made⟩ := Outcome.bind_eq_ok_iff.mp h
  exact keeps.handles_make made

theorem handles_attach (keeps : KeepsHandles α) (component : α) (settings : HandleSettings) :
    (base (attach component settings)).handles = .attach (kind α) settings := by
  unfold attach
  rw [keeps.base_withBase]

theorem handles_of_ofEnvelope (keeps : KeepsHandles α) {settings : HandleSettings} {e : Envelope}
    {component : α} (h : ofEnvelope α settings e = .ok component) :
    (base component).handles = .attach (kind α) settings := by
  obtain ⟨-, -, state, rest, arguments, -, -, restored⟩ := ofEnvelope_eq_ok_iff.mp h
  exact keeps.handles_restore restored

theorem handles_of_ofBody (keeps : KeepsHandles α) {settings : HandleSettings}
    {sections : Yaml.Mapping} {component : α} (h : ofBody α settings sections = .ok component) :
    (base component).handles = .attach (kind α) settings := by
  obtain ⟨_, _, _, _, fresh, set, -, -, -, -, -, rfl⟩ := ofBody_eq_ok_iff.mp h
  -- Setting the properties comes last, and leaves the handles.
  unfold withProperties
  rw [keeps.base_withBase]
  exact handles_attach keeps fresh settings

/-- A component has the handles of its kind from the settings that it was given. -/
theorem handles_of_given [Compressor] (keeps : KeepsHandles α) {settings : HandleSettings}
    {component : α} (given : Given settings component) :
    (base component).handles = .attach (kind α) settings := by
  cases given with
  | built same h => rw [handles_of_build keeps h, same]
  | attached component => exact handles_attach keeps component settings
  | @loaded format files path component h =>
    -- Both formats take the handles from the settings alone.
    cases format with
    | binary =>
      have loaded : loadBinary α settings files path = .ok component := h
      obtain ⟨e, -, read⟩ := Outcome.bind_eq_ok_iff.mp loaded
      exact handles_of_ofEnvelope keeps read
    | structured =>
      obtain ⟨document, -, made⟩ := ofBody_of_loadStructured h
      exact handles_of_ofBody keeps made

end Component

/-! ## Every kind -/

theorem Centroid.base_of_make {config : CentroidConfig} {raw : RawArguments} {b : Base}
    {c : Centroid} (h : Component.make config raw b = .ok c) : c.base = b := by
  have made : Centroid.make config b = .ok c := h
  unfold Centroid.make at made
  split at made
  · cases made
  · cases made
    rfl

theorem Splat.base_of_make {config : SplatConfig} {raw : RawArguments} {b : Base} {s : Splat}
    (h : Component.make config raw b = .ok s) : s.base = b := by
  cases h
  rfl

/-- A splat is restored on its base, whatever raw arguments are split off that. -/
theorem Splat.base_of_restore {b : Base} {config : SplatConfig} {s : Splat}
    (h : Component.restore b config = .ok s) : s.base = b := by
  obtain ⟨_, -, restored⟩ := Outcome.bind_eq_ok_iff.mp h
  cases restored
  rfl

/-- An encoder is made on its base, but for the properties, and these are those of a new encoder. -/
theorem Encoder.base_of_make {given : GivenConfig} {raw : RawArguments} {b : Base} {e : Encoder}
    (h : Component.make given raw b = .ok e) :
    e.base = { b with properties := ⟨true, some given.batchSize⟩ } := by
  obtain ⟨config, textual, h⟩ := Outcome.bind_eq_ok_iff.mp h
  obtain ⟨_, -, made⟩ := Outcome.bind_eq_ok_iff.mp h
  obtain rfl := GivenConfig.textual_eq_ok_iff.mp textual
  cases made
  rfl

theorem Encoder.base_of_restore {b : Base} {config : EncoderConfig} {e : Encoder}
    (h : Component.restore b config = .ok e) : e.base = b := by
  obtain ⟨_, -, restored⟩ := Outcome.bind_eq_ok_iff.mp h
  cases restored
  rfl

theorem Centroid.keepsHandles : Component.KeepsHandles Centroid where
  base_withBase _ _ := rfl
  handles_make h := congrArg Base.handles (base_of_make h)
  handles_restore h := by
    cases h
    rfl

theorem Splat.keepsHandles : Component.KeepsHandles Splat where
  base_withBase _ _ := rfl
  handles_make h := congrArg Base.handles (base_of_make h)
  handles_restore h := congrArg Base.handles (base_of_restore h)

/-- Encoders keep theirs, though their constructor sets the properties. -/
theorem Encoder.keepsHandles : Component.KeepsHandles Encoder where
  base_withBase _ _ := rfl
  handles_make h := by
    have same := congrArg Base.handles (base_of_make h)
    exact same
  handles_restore h := congrArg Base.handles (base_of_restore h)

namespace AnyComponent

/-- The cache of a component. -/
def cache (component : AnyComponent) : DiskCache := component.base.handles.cache

/-- A component of any kind that was given settings, or was loaded by a registry with them. -/
inductive Given [Compressor] (settings : HandleSettings) : AnyComponent → Prop where
  | centroid {c : Centroid} (h : Component.Given settings c) : Given settings (.centroid c)
  | splat {s : Splat} (h : Component.Given settings s) : Given settings (.splat s)
  | encoder {e : Encoder} (h : Component.Given settings e) : Given settings (.encoder e)
  | registered {kinds : List Kind} {format : Format} {files : FileSystem} {path : String}
      {component : AnyComponent}
      (h : ((kinds.foldl Registry.register ⟨settings, []⟩).load format files path).result =
        .ok component) : Given settings component

end AnyComponent

/-- What the loader of a kind loads has the handles of the kind. -/
theorem Kind.handles_of_loader {k : Kind} {settings : HandleSettings} {component : AnyComponent} :
    (∀ e, k.loader.ofEnvelope settings e = .ok component →
      component.base.handles = .attach component.kind.name settings) ∧
    ∀ body, k.loader.ofBody settings body = .ok component →
      component.base.handles = .attach component.kind.name settings := by
  -- Both ways of loading only wrap what the kind has made of the file.
  have wrapped {α Config State : Type} [Component α Config State] {wrap : α → AnyComponent}
      (keeps : Component.KeepsHandles α) (bases : ∀ a, (wrap a).base = Component.base a)
      (kinds : ∀ a, (wrap a).kind.name = Component.kind α) :
      (∀ e, (Loader.of α wrap).ofEnvelope settings e = .ok component →
        component.base.handles = .attach component.kind.name settings) ∧
      ∀ body, (Loader.of α wrap).ofBody settings body = .ok component →
        component.base.handles = .attach component.kind.name settings := by
    constructor
    · intro e h
      obtain ⟨a, read, rfl⟩ := Outcome.map_eq_ok_iff.mp h
      rw [bases, kinds]
      exact Component.handles_of_ofEnvelope keeps read
    · intro body h
      obtain ⟨a, read, rfl⟩ := Outcome.map_eq_ok_iff.mp h
      rw [bases, kinds]
      exact Component.handles_of_ofBody keeps read
  cases k with
  | centroid => exact wrapped Centroid.keepsHandles (fun _ => rfl) fun _ => rfl
  | splat => exact wrapped Splat.keepsHandles (fun _ => rfl) fun _ => rfl
  | encoder => exact wrapped Encoder.keepsHandles (fun _ => rfl) fun _ => rfl

/-- What a registry loads was loaded by the loader of a kind, with the settings of the registry. -/
theorem Registry.exists_loader [Compressor] {settings : HandleSettings} {kinds : List Kind}
    {format : Format} {files : FileSystem} {path : String} {component : AnyComponent}
    (h : ((kinds.foldl register ⟨settings, []⟩).load format files path).result = .ok component) :
    ∃ k : Kind, (∃ e, k.loader.ofEnvelope settings e = .ok component) ∨
      ∃ body, k.loader.ofBody settings body = .ok component := by
  rw [result_load] at h
  cases format with
  | binary =>
    obtain ⟨e, k, -, -, made⟩ := exists_of_loadBinary h
    exact ⟨k, .inl ⟨e, made⟩⟩
  | structured =>
    obtain ⟨document, k, -, -, made⟩ := exists_of_loadStructured h
    exact ⟨k, .inr ⟨document.body, made⟩⟩

/-- The cache of a kind under the root that settings name. -/
def HandleSettings.cacheOf (settings : HandleSettings) (kind : Kind) : DiskCache :=
  ⟨Path.join settings.cacheRoot kind.name⟩

/-- **The cache of a component is that of its kind**, whichever way it was given its settings. -/
theorem AnyComponent.cache_of_given [Compressor] {settings : HandleSettings}
    {component : AnyComponent}
    (given : Given settings component) : component.cache = settings.cacheOf component.kind := by
  have handles : component.base.handles = .attach component.kind.name settings := by
    -- A registry loads with the loader of some kind, and that gives the handles of its own kind.
    cases given with
    | centroid h => exact Component.handles_of_given Centroid.keepsHandles h
    | splat h => exact Component.handles_of_given Splat.keepsHandles h
    | encoder h => exact Component.handles_of_given Encoder.keepsHandles h
    | registered h =>
      obtain ⟨k, ⟨e, read⟩ | ⟨body, read⟩⟩ := Registry.exists_loader h
      · exact Kind.handles_of_loader.1 e read
      · exact Kind.handles_of_loader.2 body read
  unfold cache
  rw [handles]
  rfl

end TextVec
