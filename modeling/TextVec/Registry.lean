import TextVec.Component.Centroid
import TextVec.Component.Splat
import TextVec.Component.Storage
import TextVec.Encoder.Basic

/-!
# Registries

A registry loads components whose kind only their file says. It knows how to load some kinds, in the
order of their names, and the settings from which a loaded component gets its handles. Of two
loaders that were registered for one name the later one counts.
-/

namespace TextVec

/-- The kinds of components. -/
inductive Kind where
  | centroid
  | splat
  | encoder
  deriving DecidableEq, Repr

/-- The name of a kind. -/
def Kind.name : Kind → String
  | .centroid => Component.kind Centroid
  | .splat => Component.kind Splat
  | .encoder => Component.kind Encoder

/-- All kinds. -/
def Kind.all : List Kind := [.centroid, .splat, .encoder]

/-- The kind of a name. -/
def Kind.ofName? (name : String) : Option Kind := Kind.all.find? (·.name == name)

/-- A component of any kind. -/
inductive AnyComponent where
  | centroid (component : Centroid)
  | splat (component : Splat)
  | encoder (component : Encoder)

namespace AnyComponent

/-- The kind of a component. -/
def kind : AnyComponent → Kind
  | .centroid _ => .centroid
  | .splat _ => .splat
  | .encoder _ => .encoder

def base : AnyComponent → Base
  | .centroid c => c.base
  | .splat s => s.base
  | .encoder e => e.base

/-- Closes a component. -/
def close : AnyComponent → Step AnyComponent Unit
  | .centroid c => let step := Component.close c; ⟨step.result, .centroid step.state, step.events⟩
  | .splat s => let step := Component.close s; ⟨step.result, .splat step.state, step.events⟩
  | .encoder e => let step := Component.close e; ⟨step.result, .encoder step.state, step.events⟩

/-- Stores a component in a file. -/
def store [Compressor] (format : Format) (component : AnyComponent) (files : FileSystem)
    (path : String) :
    Logged (Result FileSystem) :=
  match component with
  | .centroid c => Component.store format c files path
  | .splat s => Component.store format s files path
  | .encoder e => Component.store format e files path

/-- The form in which a message shows a component. -/
def inspect (component : AnyComponent) : String :=
  "DynComponent \x7b kind: " ++ Text.quoted component.kind.name ++ ", is_trained: " ++
    (if component.base.properties.isTrained then "true" else "false") ++ " \x7d"

end AnyComponent

/-- How the components of one kind are loaded, as components among which other kinds may be. -/
structure Loader (β : Type) where
  /-- The kind that it loads. -/
  name : String
  /-- How it is restored from what is in a binary file. -/
  ofEnvelope : HandleSettings → Envelope → Result β
  /-- How it is made of the sections of a structured file. -/
  ofBody : HandleSettings → Yaml.Mapping → Result β

/-- The loader of a kind. -/
def Loader.of (α : Type) {Config State : Type} [Component α Config State] (wrap : α → β) :
    Loader β where
  name := Component.kind α
  ofEnvelope settings e := (Component.ofEnvelope α settings e).map wrap
  ofBody settings body := (Component.ofBody α settings body).map wrap

/-- The loader of a kind among all kinds. -/
def Kind.loader : Kind → Loader AnyComponent
  | .centroid => .of Centroid .centroid
  | .splat => .of Splat .splat
  | .encoder => .of Encoder .encoder

/-- The kinds that can be loaded, in the order of their names, and the settings for what is
loaded. -/
structure Loaders (β : Type) where
  /-- What the loaded components get their handles from. -/
  settings : HandleSettings
  /-- The loaders by their names, in order. -/
  kinds : List (Loader β) := []

namespace Loaders

variable {β : Type}

/-- Puts a loader in its place among others, where it replaces one of the same name. -/
def insert (loader : Loader β) : List (Loader β) → List (Loader β)
  | [] => [loader]
  | l :: rest =>
    if l.name = loader.name then loader :: rest
    else if loader.name < l.name then loader :: l :: rest
    else l :: insert loader rest

/-- Adds a loader, in place of one of the same name. -/
def add (loaders : Loaders β) (loader : Loader β) : Loaders β :=
  { loaders with kinds := insert loader loaders.kinds }

def contains (loaders : Loaders β) (name : String) : Bool := loaders.kinds.any (·.name == name)

/-- The loader of a name. -/
def find (loaders : Loaders β) (name : String) : Result (Loader β) :=
  match loaders.kinds.find? (·.name == name) with
  | some loader => .ok loader
  | none => .error (.unknownKind name)

/-- The component in a binary file, whose envelope names the kind. -/
def loadBinary [Compressor] (loaders : Loaders β) (files : FileSystem) (path : String) :
    Result β := do
  let e ← Envelope.readFile files path
  let loader ← loaders.find e.kind
  loader.ofEnvelope loaders.settings e

/-- The component in a structured file, whose tag names the kind. -/
def loadStructured (loaders : Loaders β) (files : FileSystem) (path : String) : Result β := do
  let document ← Document.readFile files path
  match document.kind with
  | none => .error (.unreadable (.untagged path))
  | some name =>
    let loader ← loaders.find name
    loader.ofBody loaders.settings document.body

end Loaders

/-- A registry of components of any kind. -/
abbrev Registry := Loaders AnyComponent

namespace Registry

/-- Registers a kind, which may be registered already. -/
def register (registry : Registry) (kind : Kind) : Registry := registry.add kind.loader

/-- The registry that knows encoders. -/
def standard (settings : HandleSettings) : Registry := register ⟨settings, []⟩ .encoder

/-- Loads a component of any registered kind from a file. -/
def load [Compressor] (registry : Registry) (format : Format) (files : FileSystem) (path : String) :
    Logged (Result AnyComponent) :=
  let result := match format with
    | .binary => registry.loadBinary files path
    | .structured => registry.loadStructured files path
  match result with
  | .ok component => ⟨.ok component, [.recognized format component.kind.name path]⟩
  | .error failure => ⟨.error failure, []⟩

end Registry

end TextVec
