import TextVec.Number.Double

/-!
# Shortest numerals

The fewest decimal digits that read back as a given binary number, and the ways in which the program
writes them. A binary number stands for every real number that rounds to it: an interval around it,
whose ends belong to it if its last binary digit is 0. Among decimals of equally few digits in that
interval the one nearest to the number is taken.
-/

namespace TextVec

/-- The positive number `mantissa * 2 ^ exponent`. `narrow` says that the numbers below it lie twice
as close as those above it. -/
structure BinaryNumber where
  mantissa : Nat
  exponent : Int
  narrow : Bool
  deriving DecidableEq, Repr

namespace BinaryNumber

/-- Decodes the magnitude bits of a format with `fractionBits` bits after the point and the exponent
of its smallest numbers `lowest`. -/
def ofMagnitude (fractionBits : Nat) (lowest : Int) (bits : Nat) : BinaryNumber :=
  let fraction := bits % Nat.pow 2 fractionBits
  let field := bits / Nat.pow 2 fractionBits
  if field = 0 then ⟨fraction, lowest, false⟩
  else ⟨Nat.pow 2 fractionBits + fraction, lowest + (field - 1 : Nat), fraction = 0 && field > 1⟩

/-- The numerators of the number and of the two ends of its interval, over one denominator. -/
def scaled (b : BinaryNumber) : Nat × Nat × Nat × Nat :=
  let up := Nat.pow 2 b.exponent.toNat
  let down := 4 * Nat.pow 2 (-b.exponent).toNat
  (4 * b.mantissa * up, (4 * b.mantissa - if b.narrow then 1 else 2) * up,
    (4 * b.mantissa + 2) * up, down)

/-- The greatest `e` with `10 ^ e ≤ numerator / denominator`. -/
def floorLog10 (numerator denominator : Nat) : Int :=
  if denominator ≤ numerator then
    ((Nat.toDigits 10 (numerator / denominator)).length - 1 : Nat)
  else
    let n := (Nat.toDigits 10 (denominator / numerator)).length
    if denominator ≤ numerator * Nat.pow 10 (n - 1) then -((n - 1 : Nat) : Int) else -(n : Int)

/-- The decimal `digits * 10 ^ exponent` of at most `n` digits that reads back as `b` and is nearest
to it, if there is one. -/
def nearest? (b : BinaryNumber) (top : Int) (n : Nat) : Option (Nat × Int) :=
  let (value, low, high, denominator) := b.scaled
  let exponent := top - n + 1
  -- Both sides of every comparison are multiplied out to whole numbers.
  let unit := denominator * Nat.pow 10 exponent.toNat
  let factor := Nat.pow 10 (-exponent).toNat
  let below := value * factor / unit
  let fits := fun c =>
    let x := c * unit
    if b.mantissa % 2 = 0 then low * factor ≤ x && x ≤ high * factor
    else low * factor < x && x < high * factor
  let above := below + 1
  match fits below, fits above with
  | true, true =>
    let twice := 2 * (value * factor)
    let middle := (below + above) * unit
    some (if twice < middle || (twice = middle && below % 2 = 0) then below else above, exponent)
  | true, false => some (below, exponent)
  | false, true => some (above, exponent)
  | false, false => none

/-- The decimal of fewest digits that reads back as `b`, tried from `n` digits upwards. -/
def shortestFrom (b : BinaryNumber) (top : Int) (n : Nat) : Nat → Nat × Int
  | 0 => (b.mantissa, 0)
  | steps + 1 =>
    match b.nearest? top n with
    | some found => found
    | none => shortestFrom b top (n + 1) steps

/-- The decimal `digits * 10 ^ exponent` of fewest digits that reads back as `b`; seventeen digits
always do. -/
def shortest (b : BinaryNumber) : Nat × Int :=
  let (value, _, _, denominator) := b.scaled
  b.shortestFrom (floorLog10 value denominator) 1 17

end BinaryNumber

/-- How a number is laid out: positionally if the exponent of its first digit is from `lowest` to
`highest`, else with an exponent, which has the sign `positive` if it is not negative. -/
structure NumeralLayout where
  lowest : Int
  highest : Int
  positive : String

namespace NumeralLayout

/-- Numbers in YAML texts. -/
def yaml : NumeralLayout := ⟨-5, 15, ""⟩

/-- Numbers in JSON texts. -/
def json : NumeralLayout := ⟨-5, 15, "+"⟩

/-- Single-precision numbers in JSON lines. -/
def jsonLine : NumeralLayout := ⟨-6, 12, "+"⟩

/-- Numbers in messages, which never have an exponent. -/
def message : NumeralLayout := ⟨-400, 400, ""⟩

/-- Drops zeros at the end of digits given last first, but not the last one left. -/
def dropZeros : List Char → List Char
  | '0' :: c :: rest => dropZeros (c :: rest)
  | cs => cs

/-- Writes the positive number `digits * 10 ^ exponent`. -/
def write (layout : NumeralLayout) (digits : Nat) (exponent : Int) : String :=
  let all := Nat.toDigits 10 digits
  let shown := (dropZeros all.reverse).reverse
  let first : Int := exponent + (all.length - 1 : Nat)
  let zeros := fun n => List.replicate n '0'
  let body :=
    if layout.lowest ≤ first && first ≤ layout.highest then
      if first < 0 then "0.".toList ++ zeros (-first - 1).toNat ++ shown
      else
        let before := first.toNat + 1
        let whole := shown.take before ++ zeros (before - shown.length)
        let fraction := shown.drop before
        whole ++ '.' :: (if fraction.isEmpty then ['0'] else fraction)
    else
      let fraction := shown.drop 1
      shown.take 1 ++ (if fraction.isEmpty then [] else '.' :: fraction) ++
        'e' :: ((if first < 0 then ['-'] else layout.positive.toList) ++
          Nat.toDigits 10 first.natAbs)
  String.ofList body

/-- Writes a finite number of the sign and the magnitude given. -/
def writeSigned (layout : NumeralLayout) (negative : Bool) (b : BinaryNumber) : String :=
  let body :=
    if b.mantissa = 0 then "0.0"
    else
      let (digits, exponent) := b.shortest
      layout.write digits exponent
  if negative then "-" ++ body else body

/-- Writes a finite double. -/
def writeDouble (layout : NumeralLayout) (x : Double) : String :=
  layout.writeSigned x.isNegative (.ofMagnitude 52 (-1074) x.magnitude.toNat)

/-- Writes a finite single-precision number. -/
def writeSingle (layout : NumeralLayout) (x : Float32) : String :=
  let bits := x.toBits.toNat
  layout.writeSigned (bits ≥ Nat.pow 2 31) (.ofMagnitude 23 (-149) (bits % Nat.pow 2 31))

end NumeralLayout

end TextVec
