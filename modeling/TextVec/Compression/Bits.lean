/-!
# Bit streams

Two ways of taking bits from bytes: upwards from the first bit, and downwards from the last one. The
bits of a number are always in their natural order, the lowest first.
-/

namespace TextVec.Compression

/-- The bit at a place. Bits past the end are zero. -/
def bitAt (bytes : ByteArray) (place : Nat) : Nat :=
  ((bytes.data[place / 8]?.getD 0).toNat >>> (place % 8)) % 2

/-- The number of `count` bits from `start` on. -/
def bitsAt (bytes : ByteArray) (start : Nat) : (count : Nat) → Nat
  | 0 => 0
  | count + 1 => bitAt bytes start + 2 * bitsAt bytes (start + 1) count

/-- The number of binary digits of a number. -/
def bitLength (n : Nat) : Nat := if n = 0 then 0 else Nat.log2 n + 1

/-- A stream that is read from its end. -/
structure Backward where
  bytes : ByteArray
  /-- The number of bits that are left. -/
  left : Nat

namespace Backward

/-- The stream in bytes whose last one bit only marks the end. -/
def ofBytes? (bytes : ByteArray) : Option Backward :=
  match bytes.data.back? with
  | none => none
  | some last =>
    if last = 0 then none
    else some ⟨bytes, 8 * (bytes.size - 1) + (bitLength last.toNat - 1)⟩

/-- The next `count` bits, with zeros for those that are missing. -/
def peek (s : Backward) (count : Nat) : Nat :=
  if count ≤ s.left then bitsAt s.bytes (s.left - count) count
  else bitsAt s.bytes 0 s.left * Nat.pow 2 (count - s.left)

/-- Takes `count` bits, if there are as many. -/
def take (s : Backward) (count : Nat) : Option (Nat × Backward) :=
  if count ≤ s.left then some (s.peek count, { s with left := s.left - count }) else none

end Backward

end TextVec.Compression
