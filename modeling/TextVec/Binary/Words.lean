import TextVec.Text.Utf8

/-!
# Words in bytes

Numbers as a fixed count of bytes, the least significant first. Main statements: a number that fits
is read back from what was written, whatever follows it, and nothing shorter is read.
-/

namespace TextVec

/-- The `width` low bytes of a number, the least significant first. -/
def littleEndian : (width : Nat) → Nat → Bytes
  | 0, _ => []
  | width + 1, n => UInt8.ofNat n :: littleEndian width (n / 256)

/-- The number whose bytes, least significant first, are given. -/
def ofLittleEndian : Bytes → Nat
  | [] => 0
  | b :: rest => b.toNat + 256 * ofLittleEndian rest

/-- Takes `n` bytes off the front, if there are as many. -/
def takeBytes (n : Nat) (bytes : Bytes) : Option (Bytes × Bytes) :=
  if n ≤ bytes.length then some (bytes.take n, bytes.drop n) else none

/-- Takes a number of `width` bytes off the front. -/
def takeWord (width : Nat) (bytes : Bytes) : Option (Nat × Bytes) :=
  (takeBytes width bytes).map fun (word, rest) => (ofLittleEndian word, rest)

@[simp] theorem length_littleEndian (width n : Nat) : (littleEndian width n).length = width := by
  induction width generalizing n with
  | zero => rfl
  | succ width ih => simp [littleEndian, ih]

theorem ofLittleEndian_littleEndian {width n : Nat} (h : n < Nat.pow 256 width) :
    ofLittleEndian (littleEndian width n) = n := by
  induction width generalizing n with
  | zero =>
    have : n = 0 := Nat.lt_one_iff.mp h
    simp [littleEndian, ofLittleEndian, this]
  | succ width ih =>
    have hdiv : n / 256 < Nat.pow 256 width := by
      change n < Nat.pow 256 width * 256 at h
      exact Nat.div_lt_of_lt_mul (by omega)
    simp only [littleEndian, ofLittleEndian, ih hdiv, UInt8.toNat_ofNat']
    omega

theorem takeBytes_append (front rest : Bytes) :
    takeBytes front.length (front ++ rest) = some (front, rest) := by
  simp [takeBytes]

theorem takeWord_littleEndian {width n : Nat} (h : n < Nat.pow 256 width) (rest : Bytes) :
    takeWord width (littleEndian width n ++ rest) = some (n, rest) := by
  have := takeBytes_append (littleEndian width n) rest
  rw [length_littleEndian] at this
  simp [takeWord, this, ofLittleEndian_littleEndian h]

end TextVec
