/-!
# Rounding to single precision

The result of an operation is rounded to as many binary digits as single precision has, and then
stored in 32 bits, where it becomes infinite if it is too large. Main statements: a rounded result
that is not too large stays finite, one that is not too small keeps its first digit where it was but
for a carry, and one that has no more digits than can be stored is kept as it is.
-/

namespace TextVec.Single

open Float.Model (Format UnpackedFloat)
open Float.Model.UnpackedFloat

/-! ## Reading -/

/-- The digits of a normal number: the first one is not stored. -/
theorem toNat_one_append (fraction : BitVec 23) :
    (1#1 ++ fraction).toNat = 8388608 + fraction.toNat := by
  rw [BitVec.toNat_append, ← Nat.shiftLeft_add_eq_or_of_lt fraction.isLt]
  rfl

/-- What bits are read as, by their exponent and their mantissa. -/
inductive ReadsAs (bits : BitVec 32) : UnpackedFloat → Prop where
  /-- The greatest exponent, and no mantissa. -/
  | infinity {s : Sign} (ones : @unpackExponent .binary32 bits = -1#8) :
    ReadsAs bits (.infinity s)
  /-- The greatest exponent, and a mantissa. -/
  | notANumber (ones : @unpackExponent .binary32 bits = -1#8) : ReadsAs bits .notANumber
  /-- The least exponent, and no mantissa. -/
  | zero {s : Sign} (zero : @unpackExponent .binary32 bits = 0#8) : ReadsAs bits (.zero s)
  /-- A number that is too small to have all digits. -/
  | short {s : Sign} {h : 0 < (@unpackMantissa .binary32 bits).toNat}
      (zero : @unpackExponent .binary32 bits = 0#8) :
    ReadsAs bits (.finite s (@unpackMantissa .binary32 bits).toNat (-149) h)
  /-- Any other exponent: the mantissa has a first digit that is not stored. -/
  | normal {s : Sign} {h : 0 < (1#1 ++ @unpackMantissa .binary32 bits).toNat}
      (notZero : @unpackExponent .binary32 bits ≠ 0#8)
      (notOnes : @unpackExponent .binary32 bits ≠ -1#8) :
    ReadsAs bits (.finite s (1#1 ++ @unpackMantissa .binary32 bits).toNat
      ((@unpackExponent .binary32 bits).toNat - (127 + 23)) h)

/-- Numbers with digits are the same if their digits and exponents are; the proof that there are
some does not matter. -/
theorem finite_congr {s : Sign} {m m' : Nat} {e e' : Int} {h : 0 < m} (mantissa : m = m')
    (exponent : e = e') : finite s m e h = finite s m' e' (mantissa ▸ h) := by
  subst mantissa exponent
  rfl

/-- Bits are read in one of these five ways. -/
theorem readsAs_unpack (bits : BitVec 32) : ReadsAs bits (.unpack .binary32 bits) := by
  -- Test by test, since the last branch holds a proof about the mantissa that `split` would move.
  by_cases ones : @unpackExponent .binary32 bits = -1#8
  · by_cases none : @unpackMantissa .binary32 bits = 0#23
    · have read : UnpackedFloat.unpack .binary32 bits = .infinity _ :=
        (if_pos ones).trans (if_pos none)
      exact read ▸ .infinity ones
    · have read : UnpackedFloat.unpack .binary32 bits = .notANumber :=
        (if_pos ones).trans (if_neg none)
      exact read ▸ .notANumber ones
  · by_cases zero : @unpackExponent .binary32 bits = 0#8
    · by_cases none : @unpackMantissa .binary32 bits = 0#23
      · have read : UnpackedFloat.unpack .binary32 bits = .zero _ :=
          (if_neg ones).trans ((if_pos zero).trans (dif_pos none))
        exact read ▸ .zero zero
      · have read : UnpackedFloat.unpack .binary32 bits = .finite _ _ _ _ :=
          (if_neg ones).trans ((if_pos zero).trans (dif_neg none))
        have least : ((@unpackExponent .binary32 bits).toNat : Int) - (127 + 23) + 1 = -149 := by
          rw [zero]
          rfl
        rw [read.trans (finite_congr rfl least)]
        exact .short zero
    · have read : UnpackedFloat.unpack .binary32 bits = .finite _ _ _ _ :=
        (if_neg ones).trans (if_neg zero)
      exact read ▸ .normal zero ones

/-- Only the greatest exponent is not that of a finite number. -/
theorem isFinite_unpack {bits : BitVec 32} (h : @unpackExponent .binary32 bits ≠ -1#8) :
    (UnpackedFloat.unpack .binary32 bits).isFinite = true := by
  have reads := readsAs_unpack bits
  generalize UnpackedFloat.unpack .binary32 bits = result at reads
  cases reads with
  | infinity ones => exact absurd ones h
  | notANumber ones => exact absurd ones h
  | zero => rfl
  | short => rfl
  | normal => rfl

/-- A single-precision number as its sign, its mantissa and its exponent, if it has them. -/
def parts (x : Float32) : UnpackedFloat := x.toModel.unpack

/-- How often the least positive number goes into a finite one. -/
def unitsOf : UnpackedFloat → Int
  | .finite s m e _ => s.apply (m <<< (e + 149).toNat : Nat)
  | _ => 0

/-- How often the least positive number goes into a number, which it does exactly. -/
def units (x : Float32) : Int := unitsOf (parts x)

/-! ## Storing -/

/-- What a rounded result is once it was stored. -/
def stored (result : UnpackedFloat) : UnpackedFloat := .unpack .binary32 (result.pack .binary32)

theorem stored_infinity (s : Sign) : stored (.infinity s) = .infinity s := by
  cases s <;> rfl

/-- Zeros are stored as they are, with their sign. -/
theorem stored_zero (s : Sign) : stored (.zero s) = .zero s := by
  cases s <;> rfl

/-- A number with an exponent above the greatest one becomes infinite. -/
theorem stored_of_large {s : Sign} {m : Nat} {e : Int} {h : 0 < m} (large : 104 < e) :
    stored (.finite s m e h) = .infinity s := by
  have beyond : 256 ≤ (e + 127 + 23).toNat + 1 := by omega
  have packed : UnpackedFloat.pack .binary32 (.finite s m e h) = packedInfinity .binary32 s :=
    if_pos beyond
  rw [stored, packed]
  cases s <;> rfl

/-- A number that is not too large has its digits in the last 23 bits, but for the first one if it
has 24 of them. -/
theorem pack_of_small {s : Sign} {m : Nat} {e : Int} {h : 0 < m} (small : e ≤ 104) :
    UnpackedFloat.pack .binary32 (.finite s m e h) =
      if m.log2 + 1 = 24 then
        packComponents .binary32 s (BitVec.ofNat 8 (e + 127 + 23).toNat) (BitVec.ofNat 23 m)
      else packComponents .binary32 s 0#8 (BitVec.ofNat 23 m) := by
  have within : ¬ 256 ≤ (e + 127 + 23).toNat + 1 := by omega
  exact if_neg within

/-- A number that is not too large stays finite when it is stored. -/
theorem isFinite_stored {s : Sign} {m : Nat} {e : Int} {h : 0 < m} (small : e ≤ 104) :
    (stored (.finite s m e h)).isFinite = true := by
  apply isFinite_unpack
  rw [pack_of_small small]
  split
  · rw [unpackExponent_packComponents]
    intro same
    have value := congrArg BitVec.toNat same
    rw [BitVec.toNat_ofNat, Nat.mod_eq_of_lt (by omega)] at value
    have ones : (-1#8).toNat = 255 := rfl
    omega
  · rw [unpackExponent_packComponents]
    decide

/-- A number of 24 digits is stored as it is, unless it is too large or too small. -/
theorem stored_of_normal {s : Sign} {m : Nat} {e : Int} {h : 0 < m} (normal : m.log2 = 23)
    (low : -149 ≤ e) (small : e ≤ 104) : ∃ t, stored (.finite s m e h) = .finite t m e h := by
  obtain ⟨lower, upper⟩ : 8388608 ≤ m ∧ m < 16777216 :=
    (Nat.log2_eq_iff (Nat.ne_of_gt h)).mp normal
  have exponent : (BitVec.ofNat 8 (e + 127 + 23).toNat).toNat = (e + 127 + 23).toNat := by
    rw [BitVec.toNat_ofNat, Nat.mod_eq_of_lt (by omega)]
  have notZero : BitVec.ofNat 8 (e + 127 + 23).toNat ≠ 0#8 := by
    intro same
    have value := congrArg BitVec.toNat same
    rw [exponent, show (0#8).toNat = 0 from rfl] at value
    omega
  have notOnes : BitVec.ofNat 8 (e + 127 + 23).toNat ≠ -1#8 := by
    intro same
    have value := congrArg BitVec.toNat same
    rw [exponent, show (-1#8).toNat = 255 from rfl] at value
    omega
  have mantissa : (1#1 ++ BitVec.ofNat 23 m).toNat = m := by
    rw [toNat_one_append, BitVec.toNat_ofNat]
    show 8388608 + m % 8388608 = m
    omega
  rw [stored, pack_of_small small, if_pos (by rw [normal])]
  -- Only the exponent and the mantissa of the bits count, and the bits would be computed otherwise.
  generalize hBits : packComponents .binary32 s (BitVec.ofNat 8 (e + 127 + 23).toNat)
    (BitVec.ofNat 23 m) = bits
  have hExponent : @unpackExponent .binary32 bits = BitVec.ofNat 8 (e + 127 + 23).toNat := by
    rw [← hBits, unpackExponent_packComponents]
  have hMantissa : @unpackMantissa .binary32 bits = BitVec.ofNat 23 m := by
    rw [← hBits, unpackMantissa_packComponents]
  have reads := readsAs_unpack bits
  generalize UnpackedFloat.unpack .binary32 bits = result at reads
  cases reads with
  | infinity ones => exact absurd (hExponent.symm.trans ones) notOnes
  | notANumber ones => exact absurd (hExponent.symm.trans ones) notOnes
  | zero zero => exact absurd (hExponent.symm.trans zero) notZero
  | short zero => exact absurd (hExponent.symm.trans zero) notZero
  | @normal t =>
    refine ⟨t, finite_congr (hMantissa ▸ mantissa) ?_⟩
    rw [hExponent, exponent]
    omega

/-- Storing a result makes it neither a number nor no number. -/
theorem isNaN_stored (result : UnpackedFloat) : (stored result).isNaN = result.isNaN := by
  cases result with
  | notANumber => rfl
  | infinity s => rw [stored_infinity]
  | zero s => rw [stored_zero]
  | finite s m e h =>
    by_cases small : e ≤ 104
    · have finite := @isFinite_stored s m e h small
      cases kept : stored (.finite s m e h) with
      | notANumber =>
        rw [kept] at finite
        cases finite
      | _ => rfl
    · rw [stored_of_large (by omega)]
      rfl

/-- Storing a result makes it infinite, but not finite again. -/
theorem isFinite_of_isFinite_stored {result : UnpackedFloat}
    (h : (stored result).isFinite = true) : result.isFinite = true := by
  cases result with
  | zero => rfl
  | finite => rfl
  | notANumber => cases h
  | infinity s =>
    rw [stored_infinity] at h
    cases h

/-! ## Bounds -/

/-- The bounds that every single-precision number keeps to: it has at most 24 binary digits, and
exactly that many unless its exponent is the least one. -/
structure InBounds (m : Nat) (e : Int) : Prop where
  /-- At most 24 digits. -/
  few : m.log2 ≤ 23
  /-- The last digit stands for `2 ^ -149` or more. -/
  least : -149 ≤ e
  /-- The exponent is not above the greatest one. -/
  greatest : e ≤ 104
  /-- Digits are missing only if the exponent is the least one. -/
  normal : m.log2 = 23 ∨ e = -149

/-- What is read keeps to the bounds. -/
theorem inBounds_of_unpack {bits : BitVec 32} {s : Sign} {m : Nat} {e : Int} {h : 0 < m}
    (read : UnpackedFloat.unpack .binary32 bits = .finite s m e h) : InBounds m e := by
  have fraction : (@unpackMantissa .binary32 bits).toNat < 8388608 := BitVec.isLt _
  have exponent : (@unpackExponent .binary32 bits).toNat < 256 := BitVec.isLt _
  have reads := readsAs_unpack bits
  rw [read] at reads
  cases reads with
  | short zero =>
    have few : (@unpackMantissa .binary32 bits).toNat.log2 < 23 :=
      (Nat.log2_lt (Nat.ne_of_gt h)).mpr fraction
    exact ⟨by omega, by omega, by omega, .inr rfl⟩
  | normal notZero notOnes =>
    have notFirst : (@unpackExponent .binary32 bits).toNat ≠ 0 :=
      fun same => notZero (BitVec.eq_of_toNat_eq same)
    have notLast : (@unpackExponent .binary32 bits).toNat ≠ 255 :=
      fun same => notOnes (BitVec.eq_of_toNat_eq same)
    have mantissa := toNat_one_append (@unpackMantissa .binary32 bits)
    have normal : (1#1 ++ @unpackMantissa .binary32 bits).toNat.log2 = 23 := by
      rw [mantissa]
      exact (Nat.log2_eq_iff (by omega)).mpr ⟨by omega, by omega⟩
    exact ⟨by omega, by omega, by omega, .inl normal⟩

/-- Every number with digits keeps to the bounds. -/
theorem inBounds_of_parts {x : Float32} {s : Sign} {m : Nat} {e : Int} {h : 0 < m}
    (hx : parts x = .finite s m e h) : InBounds m e :=
  inBounds_of_unpack hx

/-! ## Where the first digit is -/

theorem log2_shiftRight (m n : Nat) : (m >>> n).log2 = m.log2 - n := by
  have half (m : Nat) : (m / 2).log2 = m.log2 - 1 := by
    rw [Nat.log2_def m]
    split
    · rfl
    · rw [show m / 2 = 0 by omega]
      rfl
  induction n with
  | zero => rfl
  | succ n ih =>
    rw [Nat.shiftRight_succ, half, ih]
    omega

theorem log2_shiftLeft {m : Nat} (positive : 0 < m) (n : Nat) : (m <<< n).log2 = m.log2 + n := by
  induction n with
  | zero => rfl
  | succ n ih =>
    have notZero : m <<< n ≠ 0 := by
      rw [Nat.shiftLeft_eq]
      exact Nat.ne_of_gt (Nat.mul_pos positive (Nat.two_pow_pos n))
    rw [Nat.shiftLeft_succ, Nat.log2_two_mul notZero, ih, Nat.add_assoc]

/-- A greater number does not have fewer digits. -/
theorem log2_le_log2 {m n : Nat} (h : m ≤ n) : m.log2 ≤ n.log2 := by
  by_cases zero : m = 0
  · rw [zero]
    exact Nat.zero_le _
  · exact (Nat.le_log2 (by omega)).mpr (Nat.le_trans (Nat.log2_self_le zero) h)

/-- One more is one more digit at most. -/
theorem log2_succ_le (m : Nat) : (m + 1).log2 ≤ m.log2 + 1 := by
  have below := log2_le_log2 (show m + 1 ≤ _ from @Nat.lt_log2_self m)
  rwa [Nat.log2_two_pow] at below

/-! ## Rounding -/

/-- The exponent at which 24 digits are left, or the least one. -/
theorem targetExponent_eq (total : Int) :
    Format.targetExponent .binary32 total = max (total - 24) (-149) := rfl

/-- Cutting off digits that are remembered for rounding cuts off the digits. -/
theorem mantissa_shiftRight (x : ExtendedMantissa) (n : Nat) :
    (x >>> n).mantissa = x.mantissa >>> n := by
  show (n.repeat ExtendedMantissa.shiftRightOne x).mantissa = _
  induction n with
  | zero => rfl
  | succ n ih =>
    rw [Nat.repeat, Nat.shiftRight_succ, ← ih]
    rfl

theorem mantissa_ofMantissaAndAccuracy (m : Nat) (accuracy : Accuracy) :
    (ExtendedMantissa.ofMantissaAndAccuracy m accuracy).mantissa = m := by
  unfold ExtendedMantissa.ofMantissaAndAccuracy
  split <;> rfl

/-- Rounding adds one at most. -/
theorem roundedMantissa_eq_or (x : ExtendedMantissa) :
    x.roundedMantissa = x.mantissa ∨ x.roundedMantissa = x.mantissa + 1 := by
  obtain ⟨m, roundBit, stickyBit⟩ := x
  cases roundBit <;> cases stickyBit
  · exact .inl rfl
  · exact .inl rfl
  · show m + m % 2 = m ∨ m + m % 2 = m + 1
    omega
  · exact .inr rfl

/-- Digits that were put behind a number are dropped again. -/
theorem ofMantissaAndAccuracy_shiftRight (m n : Nat) :
    ExtendedMantissa.ofMantissaAndAccuracy (m <<< n) .exact >>> n = ⟨m, false, false⟩ := by
  show n.repeat ExtendedMantissa.shiftRightOne ⟨m <<< n, false, false⟩ = _
  induction n generalizing m with
  | zero => rfl
  | succ n ih =>
    have double : m <<< (n + 1) = (2 * m) <<< n := by
      rw [Nat.shiftLeft_succ, Nat.shiftLeft_eq, Nat.shiftLeft_eq, Nat.mul_assoc]
    rw [Nat.repeat, double, ih]
    simp [ExtendedMantissa.shiftRightOne]

/-- The exponent of a number of which only as many digits are left as can be stored. -/
def roundingExponent (m : Nat) (e : Int) : Int := max e (max (m.log2 + 1 + e - 24) (-149))

/-- The mantissa that is left then, rounded. Where the last digits carry, it has a digit more. -/
def roundedAt (m : Nat) (e : Int) (accuracy : Accuracy) : Nat :=
  (ExtendedMantissa.ofMantissaAndAccuracy m accuracy >>>
    (roundingExponent m e - e).toNat).roundedMantissa

/-- Rounding leaves the digits that were not cut off, and one more at most. -/
theorem log2_roundedAt (m : Nat) (e : Int) (accuracy : Accuracy) :
    m.log2 - (roundingExponent m e - e).toNat ≤ (roundedAt m e accuracy).log2 ∧
      (roundedAt m e accuracy).log2 ≤ m.log2 - (roundingExponent m e - e).toNat + 1 := by
  have rounded := roundedMantissa_eq_or (ExtendedMantissa.ofMantissaAndAccuracy m accuracy >>>
    (roundingExponent m e - e).toNat)
  rw [mantissa_shiftRight, mantissa_ofMantissaAndAccuracy] at rounded
  rw [← log2_shiftRight, roundedAt]
  rcases rounded with same | up
  · rw [same]
    exact ⟨Nat.le_refl _, Nat.le_succ _⟩
  · rw [up]
    exact ⟨log2_le_log2 (Nat.le_succ _), log2_succ_le _⟩

/-- A number is rounded to the digits that can be stored, and the digit of a carry is dropped, which
is a zero then. -/
theorem roundWithAccuracy_eq (s : Sign) (m : Nat) (e : Int) (accuracy : Accuracy) :
    roundWithAccuracy .binary32 s m e accuracy =
      if h : roundedAt m e accuracy >>> ((roundedAt m e accuracy).log2 - 23) = 0 then .zero s
      else
        .finite s (roundedAt m e accuracy >>> ((roundedAt m e accuracy).log2 - 23))
          (roundingExponent m e + ((roundedAt m e accuracy).log2 - 23 : Nat))
          (Nat.pos_of_ne_zero h) := by
  have least : -149 ≤ roundingExponent m e := by
    rw [roundingExponent]
    omega
  have exponent : e + ((roundingExponent m e - e).toNat : Int) = roundingExponent m e := by
    rw [roundingExponent]
    omega
  have shift : (Format.targetExponent .binary32 (Float.Model.totalExponent m e) - e).toNat =
      (roundingExponent m e - e).toNat := by
    rw [targetExponent_eq, Float.Model.totalExponent, roundingExponent]
    omega
  have carry :
      (Format.targetExponent .binary32
          (Float.Model.totalExponent (roundedAt m e accuracy) (roundingExponent m e)) -
        roundingExponent m e).toNat = (roundedAt m e accuracy).log2 - 23 := by
    rw [targetExponent_eq, Float.Model.totalExponent]
    omega
  have first : shiftToTargetExponent .binary32 m e accuracy =
      (ExtendedMantissa.ofMantissaAndAccuracy m accuracy >>> (roundingExponent m e - e).toNat,
        roundingExponent m e) := by
    simp only [shiftToTargetExponent, shiftToExponent, shift, exponent]
  have second :
      shiftToTargetExponent .binary32 (roundedAt m e accuracy) (roundingExponent m e) .exact =
        (ExtendedMantissa.ofMantissaAndAccuracy (roundedAt m e accuracy) .exact >>>
            ((roundedAt m e accuracy).log2 - 23),
          roundingExponent m e + ((roundedAt m e accuracy).log2 - 23 : Nat)) := by
    simp only [shiftToTargetExponent, shiftToExponent, carry]
  have rounded : (ExtendedMantissa.ofMantissaAndAccuracy m accuracy >>>
      (roundingExponent m e - e).toNat).roundedMantissa = roundedAt m e accuracy := rfl
  -- The digits that are too many are rounded away, and then the digit of a carry is cut off.
  unfold roundWithAccuracy
  rw [first]
  dsimp only
  rw [rounded, second]
  dsimp only
  rw [mantissa_shiftRight, mantissa_ofMantissaAndAccuracy]

/-- Rounding a number gives a number. -/
theorem isNaN_roundWithAccuracy (s : Sign) (m : Nat) (e : Int) (accuracy : Accuracy) :
    (roundWithAccuracy .binary32 s m e accuracy).isNaN = false := by
  rw [roundWithAccuracy_eq]
  by_cases zero : roundedAt m e accuracy >>> ((roundedAt m e accuracy).log2 - 23) = 0
  · rw [dif_pos zero]
    rfl
  · rw [dif_neg zero]
    rfl

/-- A result that is smaller by a digit than what can be stored stays finite, even if a digit
carries. -/
theorem isFinite_stored_roundWithAccuracy {s : Sign} {m : Nat} {e : Int} {accuracy : Accuracy}
    (first : m.log2 + 1 + e ≤ 127) (small : e ≤ 103) :
    (stored (roundWithAccuracy .binary32 s m e accuracy)).isFinite = true := by
  rw [roundWithAccuracy_eq]
  by_cases zero : roundedAt m e accuracy >>> ((roundedAt m e accuracy).log2 - 23) = 0
  · rw [dif_pos zero, stored_zero]
    rfl
  · rw [dif_neg zero]
    apply isFinite_stored
    -- A carry makes the exponent greater by one, for which there is room.
    have carry := (log2_roundedAt m e accuracy).2
    rw [roundingExponent] at carry ⊢
    omega

/-- A result that is not too small keeps its first digit where it was, but for a carry. -/
theorem roundWithAccuracy_of_normal {s : Sign} {m : Nat} {e : Int} {accuracy : Accuracy}
    (long : 23 ≤ m.log2) (normal : -125 ≤ m.log2 + 1 + e) :
    ∃ m' e' h, roundWithAccuracy .binary32 s m e accuracy = .finite s m' e' h ∧
      m'.log2 = 23 ∧ (e' = m.log2 + e - 23 ∨ e' = m.log2 + e - 22) := by
  have exponent : roundingExponent m e = m.log2 + e - 23 := by
    rw [roundingExponent]
    omega
  have digits : (roundedAt m e accuracy).log2 = 23 ∨ (roundedAt m e accuracy).log2 = 24 := by
    have carry := log2_roundedAt m e accuracy
    omega
  have final : (roundedAt m e accuracy >>> ((roundedAt m e accuracy).log2 - 23)).log2 = 23 := by
    rw [log2_shiftRight]
    omega
  have notZero : roundedAt m e accuracy >>> ((roundedAt m e accuracy).log2 - 23) ≠ 0 := by
    intro zero
    rw [zero] at final
    cases final
  refine ⟨_, _, _, (roundWithAccuracy_eq s m e accuracy).trans (dif_neg notZero), final, ?_⟩
  omega

/-- A result that can be stored as it is, but for digits behind it that are all zero, is not
changed. -/
theorem roundWithAccuracy_shiftLeft {s : Sign} {m : Nat} {e : Int} (h : 0 < m)
    (bounds : InBounds m e) (n : Nat) :
    roundWithAccuracy .binary32 s (m <<< n) (e - n) .exact = .finite s m e h := by
  obtain ⟨few, least, -, normal⟩ := bounds
  have exponent : roundingExponent (m <<< n) (e - n) = e := by
    rw [roundingExponent, log2_shiftLeft h]
    omega
  have exact : roundedAt (m <<< n) (e - n) .exact = m := by
    have shift : (e - (e - (n : Int))).toNat = n := by omega
    rw [roundedAt, exponent, shift, ofMantissaAndAccuracy_shiftRight]
    rfl
  have noCarry : m.log2 - 23 = 0 := by omega
  rw [roundWithAccuracy_eq, exact, exponent, noCarry, Nat.shiftRight_zero,
    dif_neg (Nat.ne_of_gt h)]
  exact finite_congr rfl (Int.add_zero e)

end TextVec.Single
