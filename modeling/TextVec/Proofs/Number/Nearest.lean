import TextVec.Proofs.Number.Rounding
import TextVec.Proofs.Number.Shortest

/-!
# Nearest numbers

What a single-precision number stands for can be read off its bits: the first is its sign, and the
others are its magnitude. Main statement: a decimal in the interval around a magnitude is not nearer
to any other number than to the one with that magnitude and the same sign.
-/

namespace TextVec.Single

open Float.Model (Format UnpackedFloat)
open Float.Model.UnpackedFloat

/-! ## Numbers by their bits -/

/-- The magnitude of a number, which its last 31 bits are. -/
def magnitude (x : Float32) : BinaryNumber :=
  .ofMagnitude 23 (-149) (x.toBits.toNat % Nat.pow 2 31)

/-- What a finite number stands for: a multiple of the least positive number. -/
def value (x : Float32) : ℚ := units x * 2 ^ (-149 : Int)

theorem toNat_unpackMantissa (bits : BitVec 32) :
    (@unpackMantissa .binary32 bits).toNat = bits.toNat % 8388608 := by
  unfold unpackMantissa
  simp

theorem toNat_unpackExponent (bits : BitVec 32) :
    (@unpackExponent .binary32 bits).toNat = bits.toNat / 8388608 % 256 := by
  unfold unpackExponent
  simp [Nat.shiftRight_eq_div_pow]

/-- The first bit is that of a negative number. -/
theorem sign_eq_negative_iff (bits : BitVec 32) :
    Sign.ofBitVec (@unpackSign .binary32 bits) = .negative ↔ 2147483648 ≤ bits.toNat := by
  have bound := bits.isLt
  have bit : (@unpackSign .binary32 bits).toNat = bits.toNat / 2147483648 % 2 := by
    unfold unpackSign
    simp [Nat.shiftRight_eq_div_pow]
  have zero : @unpackSign .binary32 bits = 0#1 ↔ bits.toNat / 2147483648 % 2 = 0 := by
    rw [← bit, ← BitVec.toNat_inj]
    rfl
  unfold Sign.ofBitVec
  split
  · rename_i positive
    have even := zero.mp positive
    simp only [reduceCtorEq, false_iff]
    omega
  · rename_i negative
    have odd := mt zero.mpr negative
    simp only [true_iff]
    omega

/-- A finite number does not have the greatest exponent. -/
theorem unpackExponent_ne_of_isFinite {bits : BitVec 32}
    (h : (UnpackedFloat.unpack .binary32 bits).isFinite = true) :
    @unpackExponent .binary32 bits ≠ -1#8 := by
  intro ones
  by_cases none : @unpackMantissa .binary32 bits = 0#23
  · have read : UnpackedFloat.unpack .binary32 bits = .infinity _ :=
      (if_pos ones).trans (if_pos none)
    rw [read] at h
    cases h
  · have read : UnpackedFloat.unpack .binary32 bits = .notANumber :=
      (if_pos ones).trans (if_neg none)
    rw [read] at h
    cases h

/-- What bits stand for by their sign, their exponent and their mantissa. -/
theorem unitsOf_unpack {bits : BitVec 32} (h : @unpackExponent .binary32 bits ≠ -1#8) :
    unitsOf (.unpack .binary32 bits) = (Sign.ofBitVec (@unpackSign .binary32 bits)).apply
      (if @unpackExponent .binary32 bits = 0#8 then (@unpackMantissa .binary32 bits).toNat
        else (8388608 + (@unpackMantissa .binary32 bits).toNat) <<<
          ((@unpackExponent .binary32 bits).toNat - 1) : Nat) := by
  -- Without the first digit the mantissa counts the least numbers, and with it the exponent moves
  -- it.
  by_cases zero : @unpackExponent .binary32 bits = 0#8
  · rw [if_pos zero]
    by_cases none : @unpackMantissa .binary32 bits = 0#23
    · have read : UnpackedFloat.unpack .binary32 bits = .zero _ :=
        (if_neg h).trans ((if_pos zero).trans (dif_pos none))
      rw [read, none]
      cases Sign.ofBitVec (@unpackSign .binary32 bits) <;> rfl
    · have read : UnpackedFloat.unpack .binary32 bits = .finite _ _ _ _ :=
        (if_neg h).trans ((if_pos zero).trans (dif_neg none))
      -- The least exponent leaves the mantissa where it is.
      have least : (((@unpackExponent .binary32 bits).toNat : Int) - (127 + 23) + 1 + 149).toNat =
          0 := by
        rw [zero]
        rfl
      rw [read]
      show Sign.apply _ ((@unpackMantissa .binary32 bits).toNat <<<
        (((@unpackExponent .binary32 bits).toNat : Int) - (127 + 23) + 1 + 149).toNat : Nat) = _
      rw [least, Nat.shiftLeft_zero]
  · have read : UnpackedFloat.unpack .binary32 bits = .finite _ _ _ _ :=
      (if_neg h).trans (if_neg zero)
    have mantissa := toNat_one_append (@unpackMantissa .binary32 bits)
    have shift : (((@unpackExponent .binary32 bits).toNat : Int) - (127 + 23) + 149).toNat =
        (@unpackExponent .binary32 bits).toNat - 1 := by omega
    rw [read, if_neg zero]
    show Sign.apply _ (((1#1 ++ @unpackMantissa .binary32 bits).toNat <<<
      (((@unpackExponent .binary32 bits).toNat : Int) - (127 + 23) + 149).toNat : Nat) : Int) = _
    rw [mantissa, shift]

/-- The mantissa of the magnitude, moved to where its exponent says. -/
theorem mantissa_magnitude (x : Float32) :
    (magnitude x).mantissa <<< ((magnitude x).exponent + 149).toNat =
      if @unpackExponent .binary32 x.toBits.toBitVec = 0#8 then
        (@unpackMantissa .binary32 x.toBits.toBitVec).toNat
      else (8388608 + (@unpackMantissa .binary32 x.toBits.toBitVec).toNat) <<<
        ((@unpackExponent .binary32 x.toBits.toBitVec).toNat - 1) := by
  have exponent := toNat_unpackExponent x.toBits.toBitVec
  have zero : @unpackExponent .binary32 x.toBits.toBitVec = 0#8 ↔
      x.toBits.toNat % 2147483648 / 8388608 = 0 := by
    rw [← BitVec.toNat_inj, exponent, UInt32.toNat_toBitVec]
    show _ = 0 ↔ _
    omega
  have fraction : x.toBits.toNat % 2147483648 % 8388608 = x.toBits.toNat % 8388608 := by omega
  unfold magnitude BinaryNumber.ofMagnitude
  rw [show Nat.pow 2 23 = 8388608 from rfl, show Nat.pow 2 31 = 2147483648 from rfl]
  simp only [toNat_unpackMantissa, exponent, zero, UInt32.toNat_toBitVec, fraction]
  -- Both count from the least exponent on, one step later if there is a first digit.
  split
  · exact Nat.shiftLeft_zero
  · have shift : (-149 + ((x.toBits.toNat % 2147483648 / 8388608 - 1 : Nat) : Int) + 149).toNat =
        x.toBits.toNat / 8388608 % 256 - 1 := by
      have field : x.toBits.toNat / 8388608 % 256 = x.toBits.toNat % 2147483648 / 8388608 := by
        omega
      omega
    rw [shift]

/-- A number stands for its magnitude, with the sign of its first bit. -/
theorem value_eq {x : Float32} (finite : x.isFinite = true) :
    value x = (if Nat.pow 2 31 ≤ x.toBits.toNat then -1 else 1) * (magnitude x).value := by
  have notOnes : @unpackExponent .binary32 x.toBits.toBitVec ≠ -1#8 :=
    unpackExponent_ne_of_isFinite finite
  have negative := sign_eq_negative_iff x.toBits.toBitVec
  have whole : units x = (Sign.ofBitVec (@unpackSign .binary32 x.toBits.toBitVec)).apply
      ((magnitude x).mantissa <<< ((magnitude x).exponent + 149).toNat : Nat) := by
    rw [mantissa_magnitude]
    exact unitsOf_unpack notOnes
  have least := (BinaryNumber.isSingle_ofMagnitude (x.toBits.toNat % Nat.pow 2 31)).least
  -- The multiple, times the least number, is the mantissa at its exponent.
  have scaled : (((magnitude x).mantissa <<< ((magnitude x).exponent + 149).toNat : Nat) : ℚ) *
      2 ^ (-149 : Int) = (magnitude x).value := by
    have exponent : (magnitude x).exponent =
        (((magnitude x).exponent + 149).toNat : Int) + -149 := by
      have : -149 ≤ (magnitude x).exponent := least
      omega
    rw [BinaryNumber.value, Nat.shiftLeft_eq]
    conv_rhs => rw [exponent, zpow_add₀ (by decide), zpow_natCast]
    push_cast
    ring
  unfold value
  rw [whole, ← scaled]
  by_cases h : Nat.pow 2 31 ≤ x.toBits.toNat
  · rw [negative.mpr h, if_pos h, Sign.apply, Int.cast_neg, Int.cast_natCast, neg_one_mul, neg_mul]
  · rw [if_neg h]
    cases s : Sign.ofBitVec (@unpackSign .binary32 x.toBits.toBitVec) with
    | negative => exact absurd (negative.mp s) h
    | positive => rw [Sign.apply, Int.cast_natCast, one_mul]

/-! ## Which number is nearest -/

/-- Numbers of one sign lie as far apart as their magnitudes, and others do not lie closer. -/
theorem abs_sub_le_abs_sub {v w : ℚ} (hv : 0 ≤ v) (hw : 0 ≤ w) (p q : Prop) [Decidable p]
    [Decidable q] :
    |v - w| ≤ |(if p then -1 else 1) * v - (if q then -1 else 1) * w| := by
  have apart : |v - w| ≤ v + w := abs_le.mpr ⟨by linarith, by linarith⟩
  -- With equal signs the distance is that of the magnitudes, and else their sum.
  split <;> split
  · rw [neg_one_mul, neg_one_mul, neg_sub_neg, abs_sub_comm]
  · rw [neg_one_mul, one_mul, ← neg_add', abs_neg, abs_of_nonneg (add_nonneg hv hw)]
    exact apart
  · rw [neg_one_mul, one_mul, sub_neg_eq_add, abs_of_nonneg (add_nonneg hv hw)]
    exact apart
  · rw [one_mul, one_mul]

/-- **The nearest number** to a decimal in the interval around a magnitude is the one that has this
magnitude, and the sign of the decimal. -/
theorem abs_sub_value_le {x y : Float32} (hx : x.isFinite = true) (hy : y.isFinite = true) {v : ℚ}
    (notNegative : 0 ≤ v) (low : (magnitude x).low ≤ v) (high : v ≤ (magnitude x).high) :
    |(if Nat.pow 2 31 ≤ x.toBits.toNat then -1 else 1) * v - value x| ≤
      |(if Nat.pow 2 31 ≤ x.toBits.toNat then -1 else 1) * v - value y| := by
  have positive : 0 ≤ (magnitude y).value := by
    unfold BinaryNumber.value
    positivity
  have near := BinaryNumber.abs_sub_le (BinaryNumber.isSingle_ofMagnitude _)
    (BinaryNumber.isSingle_ofMagnitude (y.toBits.toNat % Nat.pow 2 31)) low high
  rw [value_eq hx, value_eq hy, ← mul_sub, abs_mul]
  -- The sign of the decimal is that of the number, and counts on neither side.
  have one : |(if Nat.pow 2 31 ≤ x.toBits.toNat then -1 else 1 : ℚ)| = 1 := by
    split <;> simp
  rw [one, one_mul]
  exact near.trans (abs_sub_le_abs_sub notNegative positive _ _)

end TextVec.Single
