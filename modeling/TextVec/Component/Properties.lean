import TextVec.Component.Failure
import TextVec.Yaml.Decode

/-!
# Properties

The two properties that every component has beside its configuration. A structured document names
only those that differ from their defaults.
-/

namespace TextVec

open Yaml (Value Mapping)

/-- Whether a component is trained, and how many inputs it should take at a time. -/
structure Properties where
  /-- Whether the component may be used. -/
  isTrained : Bool := false
  /-- How many inputs are taken at a time, if that was said. -/
  batchSize : Option UInt64 := none
  deriving DecidableEq, Repr, Inhabited

namespace Properties

/-- An optional number as a value. -/
def sizeValue : Option UInt64 → Value
  | none => .null
  | some n => .nat n.toNat

/-- The properties that are not as in a new component. -/
def overrides (properties : Properties) : Mapping :=
  (if properties.isTrained then [(.string "is_trained", .bool properties.isTrained)] else []) ++
    (if properties.batchSize.isSome then
      [(.string "batch_size", sizeValue properties.batchSize)]
    else [])

/-- The error of a property that cannot be decoded. -/
def check (name : String) (value : Decoded α) : Result α :=
  match value with
  | .ok x => .ok x
  | .error error => .error (.misconfigured (.badProperty name error))

/-- Sets one property. -/
def set (properties : Properties) (key value : Value) : Result Properties :=
  match key.text? with
  | some "is_trained" => do
    return { properties with isTrained := ← check "is_trained" value.decodeBool }
  | some "batch_size" => do
    let batchSize ← check "batch_size" (value.decodeOption Value.decodeSize)
    return { properties with batchSize }
  | _ => .error (.misconfigured (.unknownProperty key))

/-- Sets properties in order. Those before one that cannot be set stay set. -/
def apply (properties : Properties) : Mapping → Result Unit × Properties
  | [] => (.ok (), properties)
  | (key, value) :: rest =>
    match properties.set key value with
    | .ok properties => properties.apply rest
    | .error failure => (.error failure, properties)

end Properties

end TextVec
