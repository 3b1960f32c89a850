import TextVec.Component.Basic
import TextVec.Yaml.Print
import TextVec.Yaml.Read

/-!
# Structured documents

A structured file is a YAML mapping under the tag of the kind, with the captured arguments in one
section and the properties that are not as in a new component in another. Loading makes the
component anew from the arguments, and then sets the properties.
-/

namespace TextVec

open Yaml (Value Mapping)

/-- A structured document: the kind that its tag names, and its sections. -/
structure Document where
  /-- The kind in its tag, if it has one. -/
  kind : Option String
  /-- Its sections. -/
  body : Mapping

namespace Document

/-- The kind that a tag names. -/
def kindOfTag (tag : String) : String := String.ofList (tag.toList.dropWhile (· == '!'))

/-- The document that a value is. -/
def ofValue (value : Value) : Result Document :=
  let (kind, body) := match value with
    | .tagged tag body => (some (kindOfTag tag), body)
    | body => (none, body)
  match body with
  | .mapping entries => .ok ⟨kind, entries⟩
  | .null => .ok ⟨kind, []⟩
  | body => .error (.unreadable (.notMapping body.kindName))

/-- The document in a file. -/
def readFile (files : FileSystem) (path : String) : Result Document := do
  let text ← ofDisk (files.readText path)
  match Value.read? text with
  | some value => ofValue value
  | none => .error (.unreadable .malformed)

/-- A section of a document, which may be missing. -/
def sectionOf (body : Mapping) (place : Section) : Result Mapping :=
  match Mapping.get? body place.name with
  | none => .ok []
  | some value => mappingOr (.sectionNotMapping place) value

end Document

namespace Component

variable {α Config State : Type} [Component α Config State]

/-- The sections of the document of a component; an empty one is left out. -/
def body (component : α) : Mapping :=
  let arguments := (base component).arguments
  let overrides := (properties component).overrides
  (if arguments.isEmpty then [] else [(.string Section.parameter.name, .mapping arguments)]) ++
    (if overrides.isEmpty then [] else [(.string Section.property.name, .mapping overrides)])

/-- The document of a component. -/
def document (component : α) : Value := .tagged (kind α) (.mapping (body component))

/-- The text of a structured file of a component. -/
def encodeStructured (component : α) : Result String :=
  match (document component).print? with
  | some text => .ok text
  | none => .error .unwritable

/-- The configuration and the raw arguments in a section of arguments. -/
def readArguments (α : Type) {Config State : Type} [Component α Config State]
    (arguments : Mapping) : Result (Config × RawArguments) := do
  let (named, raw) ← if storesRaw α then RawArguments.split arguments else .ok (arguments, {})
  match ofYaml α (.mapping named) with
  | .ok config => .ok (config, raw)
  | .error error => .error (.misconfigured (.undecodable (kind α) error))

/-- The component in the sections of a document. -/
def ofBody (α : Type) {Config State : Type} [Component α Config State]
    (settings : HandleSettings) (sections : Mapping) : Result α := do
  let arguments ← Document.sectionOf sections .parameter
  let overrides ← Document.sectionOf sections .property
  let (config, raw) ← readArguments α arguments
  let component : α ← build {} config raw
  let component := attach component settings
  match (properties component).apply overrides with
  | (.ok (), set) => .ok (withProperties component set)
  | (.error failure, _) => .error failure

end Component

end TextVec
