import TextVec.Number.Double

/-!
# Decimal numerals

Reading a number in decimal notation, and the binary number nearest to it, of two equally near ones
the even one.
-/

namespace TextVec

/-- The number `(-1) ^ negative * digits * 10 ^ exponent`. -/
structure Decimal where
  /-- Whether it has a sign, also if it is zero. -/
  negative : Bool
  /-- Its digits, without a point. -/
  digits : Nat
  /-- The power of ten that they are multiplied with. -/
  exponent : Int
  deriving DecidableEq, Repr

/-- What a numeral can stand for. -/
inductive Numeral where
  | finite (value : Decimal)
  | infinite (negative : Bool)
  | notANumber (negative : Bool)
  deriving DecidableEq, Repr

/-- The number that decimal digits write. -/
def natOfDigits (digits : List Char) : Nat :=
  digits.foldl (fun n c => n * 10 + (c.toNat - '0'.toNat)) 0

/-- A sign, which may be absent, and the rest. -/
def takeSign : List Char → Bool × List Char
  | '-' :: rest => (true, rest)
  | '+' :: rest => (false, rest)
  | cs => (false, cs)

namespace Decimal

/-- The exponent part of a numeral: nothing, or `e` and a whole number. -/
def readExponent? : List Char → Option Int
  | [] => some 0
  | c :: rest =>
    if c = 'e' || c = 'E' then
      let (negative, digits) := takeSign rest
      if digits.isEmpty || !digits.all Char.isDigit then none
      else
        let n := natOfDigits digits
        some (if negative then -(n : Int) else n)
    else none

/-- Digits with at most one point among or beside them, and an exponent part. -/
def readUnsigned? (negative : Bool) (cs : List Char) : Option Decimal :=
  let whole := cs.takeWhile Char.isDigit
  let afterWhole := cs.dropWhile Char.isDigit
  let (fraction, rest) := match afterWhole with
    | '.' :: r => (r.takeWhile Char.isDigit, r.dropWhile Char.isDigit)
    | _ => ([], afterWhole)
  if whole.isEmpty && fraction.isEmpty then none
  else
    (readExponent? rest).map fun exponent =>
      ⟨negative, natOfDigits (whole ++ fraction), exponent - fraction.length⟩

/-- The exponent at which the number would have a single digit before its point. -/
def magnitude (d : Decimal) : Int := d.exponent + (Nat.toDigits 10 d.digits).length

/-- The nearest number that `build` makes of digits and exponent, where a number beyond `10 ^ 400`
is infinite and one below `10 ^ -400` is zero. -/
def roundWith (d : Decimal) (build : Nat → Bool → Nat → α) (infinity zero : α) : α :=
  if d.digits = 0 || d.magnitude < -400 then zero
  else if d.magnitude > 400 then infinity
  else build d.digits (d.exponent < 0) d.exponent.natAbs

def toSingle (d : Decimal) : Float32 :=
  let r := d.roundWith Float32.ofScientific (Float32.ofBits 0x7F800000) 0
  if d.negative then -r else r

def toDouble (d : Decimal) : Double :=
  let r := d.roundWith (fun m s e => Double.ofFloat (Float.ofScientific m s e)) .infinity .zero
  if d.negative then r.neg else r

end Decimal

namespace Numeral

/-- Reads a whole text as a numeral. -/
def read? (text : List Char) : Option Numeral :=
  let (negative, rest) := takeSign text
  let word := rest.map Char.toLower
  if word = "inf".toList || word = "infinity".toList then some (.infinite negative)
  else if word = "nan".toList then some (.notANumber negative)
  else (Decimal.readUnsigned? negative rest).map .finite

/-- The single-precision number nearest to a numeral, if that is finite. -/
def toFiniteSingle? : Numeral → Option Float32
  | .finite d => let r := d.toSingle; if r.isFinite then some r else none
  | _ => none

/-- The double-precision number nearest to a numeral. -/
def toDouble : Numeral → Double
  | .finite d => d.toDouble
  | .infinite negative => if negative then .negInfinity else .infinity
  | .notANumber negative => if negative then Double.nan.neg else .nan

end Numeral

end TextVec
