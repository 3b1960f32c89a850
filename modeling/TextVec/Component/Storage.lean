import TextVec.Component.Document
import TextVec.Component.Envelope

/-!
# Storing and loading components

A component of a known kind in a file of either format.
-/

namespace TextVec.Component

variable {α Config State : Type} [Component α Config State]

/-- The content of a file of a component. -/
def encode [Compressor] (format : Format) (component : α) : Result Bytes :=
  match format with
  | .binary => encodeBinary component
  | .structured => (encodeStructured component).map Text.toUtf8

/-- Stores a component in a file. -/
def store [Compressor] (format : Format) (component : α) (files : FileSystem) (path : String) :
    Logged (Result FileSystem) :=
  let result := do
    let content ← encode format component
    ofDisk (files.write path content)
  ⟨result, if result.isOk then [.stored format (kind α) path] else []⟩

/-- The component in a binary file. -/
def loadBinary [Compressor] (α : Type) {Config State : Type} [Component α Config State]
    (settings : HandleSettings) (files : FileSystem) (path : String) : Result α := do
  ofEnvelope α settings (← Envelope.readFile files path)

/-- The component in a structured file. Without a tag the file may hold any kind. -/
def loadStructured (α : Type) {Config State : Type} [Component α Config State]
    (settings : HandleSettings) (files : FileSystem) (path : String) : Result α := do
  let document ← Document.readFile files path
  match document.kind with
  | some stored =>
    if stored == kind α then ofBody α settings document.body
    else .error (.unreadable (.otherKind stored (kind α)))
  | none => ofBody α settings document.body

/-- Loads a component of a known kind from a file. -/
def load [Compressor] (α : Type) {Config State : Type} [Component α Config State]
    (format : Format) (settings : HandleSettings) (files : FileSystem) (path : String) :
    Logged (Result α) :=
  let result := match format with
    | .binary => loadBinary α settings files path
    | .structured => loadStructured α settings files path
  ⟨result, if result.isOk then [.loaded format (kind α) path] else []⟩

end TextVec.Component
