import TextVec.Number.Double

/-!
# YAML values

The values of a YAML document and the mappings in which a component keeps its arguments: entries in
the order of their first insertion, with at most one entry per key. Two keys are one key if they are
the same value, where the order of the entries of a mapping does not count.
-/

namespace TextVec.Yaml

/-- A whole number or a double. -/
inductive Number where
  | int (value : Int)
  | float (value : Double)
  deriving DecidableEq, Repr, Inhabited

/-- The number that a double is written as. There is one NaN among numbers. -/
def Number.ofDouble (x : Double) : Number := .float x.withOneNaN

/-- Equality of numbers: a whole number is never a double. -/
def Number.same : Number → Number → Bool
  | .int a, .int b => a == b
  | .float a, .float b => a.same b
  | _, _ => false

/-- A YAML value. A tag is kept without the mark that opens it, unless it is nothing but that. -/
inductive Value where
  | null
  | bool (value : Bool)
  | number (value : Number)
  | string (text : String)
  | sequence (items : List Value)
  | mapping (entries : List (Value × Value))
  | tagged (tag : String) (value : Value)
  deriving Repr, Inhabited

/-- The entries of a mapping, in order. -/
abbrev Mapping := List (Value × Value)

mutual

/-- Whether two values are one value. -/
def Value.same : Value → Value → Bool
  | .null, .null => true
  | .bool a, .bool b => a == b
  | .number a, .number b => a.same b
  | .string a, .string b => a == b
  | .sequence a, .sequence b => sameItems a b
  | .mapping a, .mapping b =>
    a.length == b.length && eachIn a b && b.all fun entry => hasEntry a entry
  | .tagged s a, .tagged t b => s == t && a.same b
  | _, _ => false

/-- Whether two sequences hold the same values at the same places. -/
def sameItems : List Value → List Value → Bool
  | [], [] => true
  | a :: as, b :: bs => a.same b && sameItems as bs
  | _, _ => false

/-- Whether every entry of the first mapping is in the second. -/
def eachIn : List (Value × Value) → List (Value × Value) → Bool
  | [], _ => true
  | (key, value) :: rest, other =>
    (other.any fun entry => key.same entry.1 && value.same entry.2) && eachIn rest other

/-- Whether a mapping has the given entry. -/
def hasEntry : List (Value × Value) → Value × Value → Bool
  | [], _ => false
  | (key, value) :: rest, entry => (key.same entry.1 && value.same entry.2) || hasEntry rest entry

end

namespace Value

/-- A whole number that is not negative. -/
def nat (n : Nat) : Value := .number (.int n)

/-- A value without its tags. -/
def untagged : Value → Value
  | .tagged _ value => value.untagged
  | value => value

/-- The text of a string, tagged or not. -/
def text? (value : Value) : Option String :=
  match value.untagged with
  | .string text => some text
  | _ => none

/-- What a message calls the kind of a value. -/
def kindName : Value → String
  | .null => "null"
  | .bool _ => "a bool"
  | .number _ => "a number"
  | .string _ => "a string"
  | .sequence _ => "a sequence"
  | .mapping _ => "a mapping"
  | .tagged _ _ => "a tagged value"

/-- Whether a value is the string `name`, with no tag. -/
def isName (name : String) : Value → Bool
  | .string text => text == name
  | _ => false

end Value

namespace Mapping

/-- The value under a key. -/
def find? (entries : Mapping) (key : Value) : Option Value :=
  (List.find? (fun entry => entry.1.same key) entries).map (·.2)

/-- The value under a name. -/
def get? (entries : Mapping) (name : String) : Option Value :=
  (List.find? (fun entry => entry.1.isName name) entries).map (·.2)

/-- Whether a mapping has a key. -/
def hasKey (entries : Mapping) (key : Value) : Bool := entries.any fun entry => entry.1.same key

/-- Sets the value under a key: in its old place if the key is there, else at the end. -/
def insert (entries : Mapping) (key value : Value) : Mapping :=
  match entries with
  | [] => [(key, value)]
  | (k, v) :: rest => if k.same key then (k, value) :: rest else (k, v) :: insert rest key value

/-- Sets the value under a name. -/
def put (entries : Mapping) (name : String) (value : Value) : Mapping :=
  entries.insert (.string name) value

/-- Sets every entry of `later` in `entries`, in order. -/
def overlay (entries later : Mapping) : Mapping :=
  later.foldl (fun result entry => result.insert entry.1 entry.2) entries

/-- The names among the keys, in order. -/
def names (entries : Mapping) : List String := entries.filterMap fun entry => entry.1.text?

end Mapping

end TextVec.Yaml
