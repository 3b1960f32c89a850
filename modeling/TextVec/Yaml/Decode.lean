import TextVec.Decoding
import TextVec.Number.Decimal
import TextVec.Yaml.Value

/-!
# Settings from YAML values

Typed readings of a YAML value. Tags do not count, except that a variant may be written as a tag.
-/

namespace TextVec.Yaml

/-- The double nearest to a whole number. -/
def doubleOfInt (n : Int) : Double := Decimal.toDouble ⟨n < 0, n.natAbs, 0⟩

namespace Value

/-- What a message says a value is. -/
def found (value : Value) : Found :=
  match value.untagged with
  | .null => .unit
  | .bool b => .bool b
  | .number (.int n) => .integer n
  | .number (.float x) => .float x
  | .string text => .string text
  | .sequence _ => .sequence
  | .mapping _ | .tagged _ _ => .map

/-- The error of a value of the wrong type. -/
def wrongType (value : Value) (expected : String) : Decoded α :=
  .error (.wrongType value.found expected)

/-- A whole number of 64 bits without a sign. -/
def decodeSize (value : Value) : Decoded UInt64 :=
  match value.untagged with
  | .number (.int n) =>
    if n < 0 then .error (.outOfRange n "usize") else .ok (UInt64.ofNat n.toNat)
  | _ => value.wrongType "usize"

/-- A truth value. -/
def decodeBool (value : Value) : Decoded Bool :=
  match value.untagged with
  | .bool b => .ok b
  | _ => value.wrongType "a boolean"

/-- A number as a double. Numbers have one NaN only, so no other one is read. -/
def decodeDouble (value : Value) : Decoded Double :=
  match value.untagged with
  | .number (.float x) => .ok x.withOneNaN
  | .number (.int n) => .ok (doubleOfInt n).withOneNaN
  | _ => value.wrongType "f64"

/-- A text, which a message calls `expected`. -/
def decodeText (expected : String) (value : Value) : Decoded String :=
  match value.untagged with
  | .string text => .ok text
  | _ => value.wrongType expected

/-- What `decode` reads, or nothing for null. -/
def decodeOption (decode : Value → Decoded α) (value : Value) : Decoded (Option α) :=
  match value with
  | .null => .ok none
  | _ => (decode value).map some

/-- The name of a variant: a string, or a tag of null. -/
def decodeVariant (ofName : String → Decoded α) (value : Value) : Decoded α :=
  match value with
  | .string name => ofName name
  | .tagged name payload => do
    let variant ← ofName name
    match payload.untagged with
    | .null => .ok variant
    | _ => payload.wrongType "unit"
  | _ => value.wrongType "a Value::Tagged enum"

/-- A record called `name`, field by field from `start` on. Null is a record without fields. -/
def decodeFields (name : String) (step : σ → String → Value → Decoded σ) (start : σ)
    (value : Value) : Decoded σ :=
  match value.untagged with
  | .mapping entries =>
    entries.foldlM (fun fields entry => do
      let field ← entry.1.decodeText "field identifier"
      step fields field entry.2) start
  | .null => .ok start
  | _ => value.wrongType ("struct " ++ name)

end Value

end TextVec.Yaml
