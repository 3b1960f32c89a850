import TextVec.Binary.Codec
import TextVec.Component.Basic
import TextVec.Compression.Compressor
import TextVec.Yaml.Read

/-!
# Binary files

A binary file is an envelope, compressed: versions, the kind, captured arguments as a YAML text,
properties, and the state as bytes that only the kind can read. Handles are not in it. What follows
the envelope, or the state inside it, does not count.
-/

namespace TextVec

open Binary

/-- What a binary file holds. -/
structure Envelope where
  /-- The version of the layout of envelopes. -/
  layout : UInt16
  /-- The name of the kind. -/
  kind : String
  /-- The version of the state of this kind. -/
  version : UInt16
  /-- The captured arguments as a YAML text. -/
  arguments : String
  /-- The properties, all of them. -/
  properties : Properties
  /-- The state, in bytes that only the kind can read. -/
  state : Bytes
  deriving DecidableEq, Repr

namespace Envelope

def putProperties (properties : Properties) : Bytes :=
  putBool properties.isTrained ++ putOption putUInt64 properties.batchSize

def takeProperties : Reader Properties := fun bytes => do
  let (isTrained, bytes) ← takeBool bytes
  let (batchSize, bytes) ← takeOption takeUInt64 bytes
  some (⟨isTrained, batchSize⟩, bytes)

/-- The bytes of an envelope. -/
def put (e : Envelope) : Bytes :=
  putUInt16 e.layout ++ putText e.kind ++ putUInt16 e.version ++ putText e.arguments ++
    putProperties e.properties ++ putBytes e.state

/-- Takes an envelope off the front of bytes. -/
def take : Reader Envelope := fun bytes => do
  let (layout, bytes) ← takeUInt16 bytes
  let (kind, bytes) ← takeText bytes
  let (version, bytes) ← takeUInt16 bytes
  let (arguments, bytes) ← takeText bytes
  let (properties, bytes) ← takeProperties bytes
  let (state, bytes) ← takeCounted bytes
  some (⟨layout, kind, version, arguments, properties, state⟩, bytes)

/-- The envelope in the content of a file, if its layout is the present one. -/
def read [Compressor] (content : Bytes) : Result Envelope :=
  match (Compressor.decompress content).bind take with
  | none => .error (.unreadable .malformed)
  | some (e, _) =>
    if e.layout = layoutVersion then .ok e else .error (.unreadable (.layout e.layout))

/-- The envelope in a file. A file that cannot be read holds none. -/
def readFile [Compressor] (files : FileSystem) (path : String) : Result Envelope :=
  match files.read path with
  | .ok content => read content
  | .error error => .error (.unreadable (.absent path error))

end Envelope

namespace Component

variable {α Config State : Type} [Component α Config State]

/-- The envelope of a component. -/
def envelope (component : α) : Result Envelope :=
  match (Yaml.Value.mapping (base component).arguments).print? with
  | none => .error .unwritable
  | some arguments =>
    .ok ⟨layoutVersion, kind α, version α, arguments, properties component,
      putState α (snapshot component)⟩

/-- The content of a binary file of a component. -/
def encodeBinary [Compressor] (component : α) : Result Bytes := do
  return Compressor.compress (← envelope component).put

/-- The component in an envelope. -/
def ofEnvelope (α : Type) {Config State : Type} [Component α Config State]
    (settings : HandleSettings) (e : Envelope) : Result α :=
  if e.kind != kind α then .error (.unreadable (.otherKind e.kind (kind α)))
  else if e.version != version α then
    .error (.unreadable (.otherVersion (kind α) e.version (version α)))
  else
    match takeState α e.state, Yaml.Mapping.read? e.arguments with
    | some (state, _), some arguments =>
      restore { arguments, properties := e.properties, handles := .attach (kind α) settings } state
    | _, _ => .error (.unreadable .malformed)

end Component

end TextVec
