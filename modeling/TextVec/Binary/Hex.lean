import TextVec.Text.Utf8

/-!
# Hexadecimal digits

Bytes and numbers as hexadecimal digits of a fixed width.
-/

namespace TextVec.Hex

/-- The digit of a number below sixteen. -/
def digit (n : Nat) : Char := Nat.digitChar (n % 16)

/-- The last `width` digits of a number. -/
def ofNat : (width : Nat) → Nat → List Char
  | 0, _ => []
  | width + 1, n => ofNat width (n / 16) ++ [digit n]

/-- Two digits for each byte. -/
def ofBytes (bytes : Bytes) : String := String.ofList (bytes.flatMap fun b => ofNat 2 b.toNat)

end TextVec.Hex
