import TextVec.Component.Arguments
import TextVec.Component.Event
import TextVec.Component.Handles
import TextVec.Component.Properties

/-!
# Components

What all components have in common: captured arguments, properties and handles, a way of being made
from a configuration, a state that a binary file keeps, and a way of being closed. An operation on a
component gives its result, the component after it, and the reports it made.
-/

namespace TextVec

open Yaml (Value Mapping)

/-- What every component carries. -/
structure Base where
  /-- The captured arguments, in the order in which they were captured first. -/
  arguments : Mapping
  /-- What a document keeps only where it is not as in a new component. -/
  properties : Properties := {}
  /-- What the process gave it. -/
  handles : Handles
  deriving Repr

/-- An operation on a component: how it ended, the component after it, and what it reported. -/
structure Step (σ α : Type) where
  /-- What it gives, or why it fails. -/
  result : Result α
  /-- The component after it, also where it fails. -/
  state : σ
  /-- What it reports. -/
  events : List Event := []

/-- A kind of component with its configuration and the state that a binary file keeps of it. -/
class Component (α : Type) (Config State : outParam Type) where
  /-- The name of the kind, which stored components bear. -/
  kind : String
  /-- The version of the state; files with another one are refused. -/
  version : UInt16 := 1
  /-- Whether raw arguments are kept beside the configuration. -/
  storesRaw : Bool := false
  /-- The value that a configuration is captured as. A configuration may have none. -/
  toYaml : Config → Result Value
  /-- The configuration that a value is read as. -/
  ofYaml : Value → Decoded Config
  /-- Makes a component around its base. -/
  make : Config → RawArguments → Base → Result α
  base : α → Base
  /-- The same component around another base. -/
  withBase : α → Base → α
  /-- What a binary file keeps of a component beside its base. -/
  snapshot : α → State
  putState : State → Bytes
  /-- Takes a state off the front of bytes, of which some may be left. -/
  takeState : Bytes → Option (State × Bytes)
  /-- Makes a component again from what a binary file kept of it. -/
  restore : Base → State → Result α
  /-- Lets go of what a component holds, which may fail. -/
  close : α → Step α Unit

namespace Component

variable {α Config State : Type} [Component α Config State]

/-- The captured arguments of a configuration. -/
def captureFor (α : Type) {Config State : Type} [Component α Config State] (config : Config)
    (raw : RawArguments) : Result Mapping := do
  capture (← toYaml α config) raw (storesRaw α)

/-- Makes a component from a configuration, with the handles of the environment. -/
def build (environment : Environment) (config : Config) (raw : RawArguments) : Result α := do
  let arguments ← captureFor α config raw
  let handles := Handles.attach (kind α) (.ofEnvironment environment)
  make config raw { arguments, handles }

/-- Captures arguments again, over those captured before. -/
def recapture (component : α) (config : Config) (raw : RawArguments) : Step α Unit :=
  match captureFor α config raw with
  | .ok arguments =>
    let base := base component
    let arguments := Mapping.overlay base.arguments arguments
    ⟨.ok (), withBase component { base with arguments }, []⟩
  | .error failure => ⟨.error failure, component, []⟩

def properties (component : α) : Properties := (base component).properties

def withProperties (component : α) (properties : Properties) : α :=
  withBase component { base component with properties }

/-- Gives a component the handles of the given settings. -/
def attach (component : α) (settings : HandleSettings) : α :=
  withBase component { base component with handles := .attach (kind α) settings }

/-- Refuses an operation of a component that is not trained. -/
def requireTrained (component : α) (operation : String) : Result Unit :=
  if (properties component).isTrained then .ok () else .error (.untrained operation)

end Component

end TextVec
