import TextVec.Decoding

/-!
# JSON values

The JSON values in which a tokenizer may be given, and the JSON arrays in which vectors are written.
-/

namespace TextVec

/-- A JSON value. The entries of an object are in the order of their keys. -/
inductive Json where
  | null
  | bool (value : Bool)
  | integer (value : Int)
  | float (value : Double)
  | string (text : String)
  | array (items : List Json)
  | object (entries : List (String × Json))
  deriving Repr, Inhabited

namespace Json

/-- What a message says a value is. -/
def found : Json → Found
  | .null => .null
  | .bool b => .bool b
  | .integer n => .integer n
  | .float x => .numeral (NumeralLayout.json.writeDouble x)
  | .string text => .string text
  | .array _ => .sequence
  | .object _ => .map

/-- A truth value. -/
def decodeBool : Json → Decoded Bool
  | .bool b => .ok b
  | value => .error (.wrongType value.found "a boolean")

/-- The name of a variant: a string, or an object with null under that name. -/
def decodeVariant (ofName : String → Decoded α) : Json → Decoded α
  | .string name => ofName name
  | .object [(name, payload)] => do
    let variant ← ofName name
    match payload with
    | .null => .ok variant
    | _ => .error (.wrongType payload.found "unit")
  | .object _ => .error .notOneEntry
  | value => .error (.wrongType value.found "string or map")

/-- A single-precision number; one that is not finite has no numeral. -/
def writeSingle (x : Float32) : String :=
  if x.isFinite then NumeralLayout.jsonLine.writeSingle x else "null"

/-- A vector as an array on one line. -/
def writeVector (vector : List Float32) : String :=
  "[" ++ ",".intercalate (vector.map writeSingle) ++ "]"

end Json

end TextVec
