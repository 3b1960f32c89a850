import TextVec.Number.Decimal
import TextVec.Yaml.Scalar
import TextVec.Yaml.Value

/-!
# Plain scalars

What a plain scalar stands for: null, a truth value, a number, or itself as a string. Whole numbers
have 64 bits, with or without a sign; a number of up to 128 bits is refused, and one beyond that is
a double.
-/

namespace TextVec.Yaml

/-- The words for null. -/
def isNullWord (text : String) : Bool := ["null", "Null", "NULL", "~"].contains text

/-- The truth value that a word names. -/
def boolOfWord? (text : String) : Option Bool :=
  if ["true", "True", "TRUE"].contains text then some true
  else if ["false", "False", "FALSE"].contains text then some false
  else none

/-- Whether a text has only digits, of which the first is a zero that counts for nothing. A sign may
stand before them. -/
def hasIdleZero (text : List Char) : Bool :=
  match (takeSign text).2 with
  | '0' :: rest => !rest.isEmpty && rest.all Char.isDigit
  | _ => false

/-- The number that digits write in the base `base`. -/
def digitsIn? (base : Nat) (digits : List Char) : Option Nat :=
  if digits.isEmpty then none
  else
    digits.foldlM (fun n c => do
      let d ← hexValue? [c]
      if d < base then some (n * base + d) else none) 0

/-- The digits of a whole number with their base, after its sign. -/
def magnitude? (text digits : List Char) : Option Nat :=
  let coded := match digits with
    | '0' :: 'x' :: rest => digitsIn? 16 rest
    | '0' :: 'o' :: rest => digitsIn? 8 rest
    | '0' :: 'b' :: rest => digitsIn? 2 rest
    | _ => none
  coded.orElse fun _ => if hasIdleZero text then none else digitsIn? 10 digits

/-- The whole number that a text writes, whatever its size. -/
def wholeNumber? (text : List Char) : Option Int :=
  match text with
  | '-' :: digits => (magnitude? text digits).map fun n => -(n : Int)
  | '+' :: digits => (magnitude? text digits).map Int.ofNat
  | digits => (magnitude? text digits).map Int.ofNat

/-- The double that a text writes. -/
def double? (text : List Char) : Option Double :=
  let word := String.ofList text
  let unsigned := if text.head? == some '+' then text.drop 1 else text
  if text.head? == some '+' && (unsigned.head? == some '+' || unsigned.head? == some '-') then none
  else if [".inf", ".Inf", ".INF"].contains (String.ofList unsigned) then some .infinity
  else if ["-.inf", "-.Inf", "-.INF"].contains word then some .negInfinity
  else if [".nan", ".NaN", ".NAN"].contains word then some .nan
  else
    match Numeral.read? unsigned with
    | some numeral => if numeral.toDouble.isFinite then some numeral.toDouble else none
    | none => none

/-- What a plain scalar stands for. -/
inductive Resolved where
  | value (value : Value)
  /-- A whole number of more than 64 and at most 128 bits. -/
  | tooLarge
  /-- The text itself. -/
  | text

/-- The value of a whole number, if it has a size that admits one. -/
def resolveWhole (n : Int) : Option Resolved :=
  if -(Nat.pow 2 63 : Int) ≤ n && n < (Nat.pow 2 64 : Int) then some (.value (.number (.int n)))
  else if -(Nat.pow 2 127 : Int) ≤ n && n < (Nat.pow 2 128 : Int) then some .tooLarge
  else none

/-- What a plain scalar stands for. -/
def resolve (text : String) : Resolved :=
  let chars := text.toList
  if chars.isEmpty || isNullWord text then .value .null
  else
    match boolOfWord? text with
    | some b => .value (.bool b)
    | none =>
      match (wholeNumber? chars).bind resolveWhole with
      | some resolved => resolved
      | none =>
        match if hasIdleZero chars then none else double? chars with
        | some x => .value (.number (.float x))
        | none => .text

end TextVec.Yaml
