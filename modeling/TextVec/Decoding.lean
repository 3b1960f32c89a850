import TextVec.Number.Shortest
import TextVec.Text.Quoted

/-!
# Decoding errors

Why a value of a data format is not the setting that was expected, and how a message says so. The
words are the same for every format.
-/

namespace TextVec

/-- What was found where something else was expected. -/
inductive Found where
  | bool (value : Bool)
  | integer (value : Int)
  | float (value : Double)
  /-- A floating point number as the format itself writes it. -/
  | numeral (text : String)
  | string (text : String)
  | unit
  | null
  | sequence
  | map
  deriving DecidableEq, Repr

/-- A double as messages show it. -/
def Double.shown (x : Double) : String :=
  if x.isNaN then "NaN"
  else if x.isInfinite then if x.isNegative then "-inf" else "inf"
  else NumeralLayout.message.writeDouble x

/-- How a message describes what was found. -/
def Found.message : Found → String
  | .bool b => "boolean `" ++ (if b then "true" else "false") ++ "`"
  | .integer n => "integer `" ++ toString n ++ "`"
  | .float x => "floating point `" ++ x.shown ++ "`"
  | .numeral text => "floating point `" ++ text ++ "`"
  | .string text => "string " ++ Text.quoted text
  | .unit => "unit value"
  | .null => "null"
  | .sequence => "sequence"
  | .map => "map"

/-- Why a value is not what was expected. -/
inductive DecodeError where
  | wrongType (found : Found) (expected : String)
  | outOfRange (value : Int) (expected : String)
  | missing (field : String)
  | duplicate (field : String)
  | unknownVariant (name : String) (variants : List String)
  | tooManyItems (count : Nat)
  | notOneEntry
  deriving DecidableEq, Repr

/-- A list of names in a message. -/
def alternatives : List String → String
  | [] => ""
  | [a] => "`" ++ a ++ "`"
  | [a, b] => "`" ++ a ++ "` or `" ++ b ++ "`"
  | names => "one of " ++ ", ".intercalate (names.map fun name => "`" ++ name ++ "`")

/-- The text of a decoding error. -/
def DecodeError.message : DecodeError → String
  | .wrongType found expected => "invalid type: " ++ found.message ++ ", expected " ++ expected
  | .outOfRange n expected =>
    "invalid value: " ++ (Found.integer n).message ++ ", expected " ++ expected
  | .missing field => "missing field `" ++ field ++ "`"
  | .duplicate field => "duplicate field `" ++ field ++ "`"
  | .unknownVariant name variants =>
    "unknown variant `" ++ name ++ "`, expected " ++ alternatives variants
  | .tooManyItems count =>
    "invalid length " ++ toString count ++ ", expected fewer elements in array"
  | .notOneEntry => "invalid value: map, expected map with a single key"

/-- A decoded value, or why there is none. -/
abbrev Decoded (α : Type) := Except DecodeError α

/-- The value of a field that must not have one yet. -/
def once (field : String) (old : Option α) (value : Decoded α) : Decoded (Option α) :=
  if old.isSome then .error (.duplicate field) else value.map some

/-- The value of a field that must have one. -/
def required (field : String) (value : Option α) : Decoded α :=
  match value with
  | some x => .ok x
  | none => .error (.missing field)

end TextVec
