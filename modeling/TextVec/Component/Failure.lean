import TextVec.Decoding
import TextVec.Disk.Error
import TextVec.Yaml.Inspect

/-!
# Failures of components

Why making, using, storing or loading a component failed, by cause, and the text of each cause.
Running out of memory is none of these causes: wherever a vector, a text or a buffer is made, room
for it is taken for granted.
-/

namespace TextVec

/-- Which of the two sections of a structured document is meant. -/
inductive Section where
  | parameter
  | property
  deriving DecidableEq, Repr

/-- The key of a section. -/
def Section.name : Section → String
  | .parameter => "parameter"
  | .property => "property"

/-- Why parameters do not make a component. -/
inductive Misconfiguration where
  /-- A configuration is not a mapping but what `kind` says. -/
  | notMapping (kind : String)
  /-- The keyword arguments are not a mapping but what `kind` says. -/
  | keywordsNotMapping (kind : String)
  | sectionNotMapping (place : Section) (kind : String)
  | undecodable (component : String) (error : DecodeError)
  | badProperty (name : String) (error : DecodeError)
  | unknownProperty (key : Yaml.Value)
  /-- A path among the parameters is not a text, so that it has no written form. -/
  | pathNotText
  | zeroDimension
  | zeroBatchSize
  | zeroDims
  | noRows
  | rowLength (found expected : Nat)
  deriving Repr

/-- The names of the properties of a component. -/
def propertyNames : List String := ["is_trained", "batch_size"]

/-- The text of a misconfiguration. -/
def Misconfiguration.message : Misconfiguration → String
  | .notMapping kind => "component config must serialize to a mapping, got " ++ kind
  | .keywordsNotMapping kind => "`kwargs` must be a mapping, got " ++ kind
  | .sectionNotMapping place kind => "`" ++ place.name ++ "` must be a mapping, got " ++ kind
  | .undecodable component error => "`" ++ component ++ "`: " ++ error.message
  | .badProperty name error => "property `" ++ name ++ "`: " ++ error.message
  | .unknownProperty key =>
    "unknown property " ++ Yaml.inspect key ++ ", expected one of [" ++
      ", ".intercalate (propertyNames.map Text.quoted) ++ "]"
  | .pathNotText => "path contains invalid UTF-8 characters"
  | .zeroDimension => "`dimension` must be greater than zero"
  | .zeroBatchSize => "`batch_size` must be greater than zero"
  | .zeroDims => "dims must be positive"
  | .noRows => "no training rows"
  | .rowLength found expected =>
    "row has " ++ toString found ++ " values, expected " ++ toString expected

/-- The version of the binary layout. -/
def layoutVersion : UInt16 := 1

/-- Why a file does not hold a component. -/
inductive Unreadable where
  | absent (path : String) (error : DiskError)
  /-- The file is not in the format that it should have. -/
  | malformed
  | layout (version : UInt16)
  | otherKind (stored expected : String)
  | otherVersion (kind : String) (stored expected : UInt16)
  | notMapping (kind : String)
  | untagged (path : String)
  deriving DecidableEq, Repr

/-- The text of why a file does not hold a component. -/
def Unreadable.message : Unreadable → String
  | .absent path error => "cannot read " ++ path ++ ": " ++ error.message
  | .malformed => "malformed file"
  | .layout version =>
    "unsupported binary schema version " ++ toString version.toNat ++ " (expected " ++
      toString layoutVersion.toNat ++ ")"
  | .otherKind stored expected => "file holds a `" ++ stored ++ "`, not a `" ++ expected ++ "`"
  | .otherVersion kind stored expected =>
    "`" ++ kind ++ "` version " ++ toString stored.toNat ++ " is incompatible with version " ++
      toString expected.toNat
  | .notMapping kind => "structured component must be a mapping, got " ++ kind
  | .untagged path => path ++ " has no component tag (expected `!Kind` at the top)"

/-- Why an operation on a component failed. -/
inductive Failure where
  | disk (error : DiskError)
  /-- The operation needs a trained component. -/
  | untrained (operation : String)
  | unreadable (why : Unreadable)
  /-- The component has no written form. -/
  | unwritable
  | misconfigured (why : Misconfiguration)
  /-- There is no pooling strategy of this name. -/
  | unsupported (strategy : String)
  | unknownKind (kind : String)
  deriving Repr

/-- The text of a failure. -/
def Failure.message : Failure → String
  | .disk error => "io error: " ++ error.message
  | .untrained operation => "training is required before calling \"" ++ operation ++ "\""
  | .unreadable why => "deserialization failed: " ++ why.message
  | .unwritable => "serialization failed: the component has no written form"
  | .misconfigured why => "invalid component configuration: " ++ why.message
  | .unsupported strategy =>
    "unsupported configuration: pooling strategy " ++ Text.quoted strategy ++
      " (supported: \"REDUCE_MEAN\", \"mean\")"
  | .unknownKind kind => "unknown component kind: " ++ kind

/-- The result of an operation on components. -/
abbrev Result (α : Type) := Except Failure α

/-- The result of an operation on files as one on components. -/
def ofDisk (result : DiskResult α) : Result α :=
  match result with
  | .ok x => .ok x
  | .error error => .error (.disk error)

end TextVec
