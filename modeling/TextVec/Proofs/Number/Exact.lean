import Mathlib
import TextVec.Proofs.Number.Single

/-!
# Sums that are not rounded

Every finite number of single precision is a whole multiple of the least positive one, so a sum that
is not rounded can be told from whole numbers. Main statements: two numbers can be added in either
order; numbers that are added up without a loss have one sum in whatever order that is; and nothing
is lost if all numbers are multiples of one power of two that together fit into 24 binary digits.
-/

namespace TextVec.Single

open Float.Model (Format UnpackedFloat)
open Float.Model.UnpackedFloat

/-! ## Numbers by their parts -/

/-- A number is known by its parts. -/
theorem eq_of_parts {x y : Float32} (h : parts x = parts y) : x = y := by
  obtain ⟨⟨⟨bits⟩, valid⟩⟩ := x
  obtain ⟨⟨⟨bits'⟩, valid'⟩⟩ := y
  obtain rfl : bits = bits' := (unpack_inj_of_valid valid valid').mp h
  rfl

/-- The parts of a number have been stored, so storing them again changes nothing. -/
theorem stored_parts (x : Float32) : stored (parts x) = parts x :=
  congrArg (UnpackedFloat.unpack .binary32) (pack_unpack_of_valid x.toModel.valid)

/-- Two numbers can be added in either order. -/
theorem add_comm (x y : Float32) : x + y = y + x := by
  -- Neither the cases nor the smaller exponent depend on the order.
  have sum (a b : UnpackedFloat) :
      UnpackedFloat.add .binary32 a b = UnpackedFloat.add .binary32 b a := by
    cases a with
    | notANumber => cases b <;> rfl
    | infinity s =>
      cases b with
      | infinity t => cases s <;> cases t <;> rfl
      | _ => rfl
    | zero s =>
      cases b with
      | zero t => cases s <;> cases t <;> rfl
      | _ => rfl
    | finite s m e h =>
      cases b with
      | finite t n f k =>
        unfold UnpackedFloat.add
        dsimp only
        rw [Int.min_comm, Int.add_comm]
      | _ => rfl
  refine eq_of_parts ?_
  rw [parts_add, parts_add, sum]

/-- Storing a number keeps its sign. -/
theorem sign_of_stored {s t : Sign} {m n : Nat} {e f : Int} {h : 0 < m} {k : 0 < n}
    (kept : stored (.finite s m e h) = .finite t n f k) : t = s := by
  by_cases small : e ≤ 104
  · have signs {bits : BitVec 32} (read : UnpackedFloat.unpack .binary32 bits = .finite t n f k) :
        t = Sign.ofBitVec (@unpackSign .binary32 bits) := by
      unfold UnpackedFloat.unpack at read
      dsimp only at read
      split at read
      · split at read <;> cases read
      · split at read
        · split at read <;> cases read
          rfl
        · cases read
          rfl
    rw [signs kept, pack_of_small small]
    split <;> rw [unpackSign_packComponents, Sign.ofBitVec_toBitVec]
  · rw [stored_of_large (by omega)] at kept
    cases kept

/-- A number of the least exponent that has few digits is stored as it is, but for its sign. -/
theorem stored_of_short {s : Sign} {m : Nat} {h : 0 < m} (short : m.log2 < 23) :
    ∃ t, stored (.finite s m (-149) h) = .finite t m (-149) h := by
  have mantissa : (BitVec.ofNat 23 m).toNat = m := by
    rw [BitVec.toNat_ofNat]
    exact Nat.mod_eq_of_lt ((Nat.log2_lt (Nat.ne_of_gt h)).mp short)
  have none : BitVec.ofNat 23 m ≠ 0#23 := by
    intro zero
    rw [zero] at mantissa
    exact absurd mantissa (Nat.ne_of_lt h)
  rw [stored, pack_of_small (by decide), if_neg (by omega)]
  -- Only the exponent and the mantissa of the bits count, and the bits would be computed otherwise.
  generalize hBits : packComponents .binary32 s 0#8 (BitVec.ofNat 23 m) = bits
  have hExponent : @unpackExponent .binary32 bits = 0#8 := by
    rw [← hBits, unpackExponent_packComponents]
  have hMantissa : @unpackMantissa .binary32 bits = BitVec.ofNat 23 m := by
    rw [← hBits, unpackMantissa_packComponents]
  have notOnes : @unpackExponent .binary32 bits ≠ -1#8 := by
    rw [hExponent]
    decide
  have read : UnpackedFloat.unpack .binary32 bits = .finite _ _ _ _ :=
    (if_neg notOnes).trans ((if_pos hExponent).trans (dif_neg (hMantissa ▸ none)))
  have least : ((@unpackExponent .binary32 bits).toNat : Int) - (127 + 23) + 1 = -149 := by
    rw [hExponent]
    rfl
  exact ⟨_, read.trans (finite_congr (hMantissa ▸ mantissa) least)⟩

/-- A number that keeps to the bounds is stored as it is. -/
theorem stored_of_inBounds {s : Sign} {m : Nat} {e : Int} {h : 0 < m} (bounds : InBounds m e) :
    stored (.finite s m e h) = .finite s m e h := by
  obtain ⟨few, least, greatest, normal⟩ := bounds
  obtain ⟨t, same⟩ : ∃ t, stored (.finite s m e h) = .finite t m e h := by
    -- With all digits the number is normal; with fewer it has the least exponent.
    by_cases long : m.log2 = 23
    · exact stored_of_normal long least greatest
    · obtain rfl : e = -149 := normal.resolve_left long
      exact stored_of_short (by omega)
  rw [sign_of_stored same] at same
  exact same

/-! ## Whole multiples of the least positive number -/

/-- `Exactly u r`: `r` is what stands for `u` times the least positive number. For zero that is the
positive zero. -/
inductive Exactly : Int → UnpackedFloat → Prop where
  /-- Nothing is the positive zero. -/
  | zero : Exactly 0 (.zero .positive)
  /-- A number within the bounds is its mantissa, moved by what its exponent is above the least
  one. -/
  | finite {s : Sign} {m : Nat} {e : Int} {h : 0 < m} (bounds : InBounds m e) :
    Exactly (s.apply (m <<< (e + 149).toNat : Nat)) (.finite s m e h)

/-- Numbers with signs are equal if signs and magnitudes are, unless both are zero. -/
theorem apply_eq_apply {s t : Sign} {a b : Nat} (positive : 0 < a) (h : s.apply a = t.apply b) :
    s = t ∧ a = b := by
  cases s <;> cases t <;> simp only [Sign.apply] at h
  · exact ⟨rfl, by omega⟩
  · omega
  · omega
  · exact ⟨rfl, by omega⟩

theorem apply_ne_zero {s : Sign} {a : Nat} (positive : 0 < a) : s.apply a ≠ 0 := by
  cases s <;> simp only [Sign.apply] <;> omega

/-- The bounds leave one exponent for each mantissa and exponent. -/
theorem InBounds.exponent_eq {m : Nat} {e : Int} (bounds : InBounds m e) :
    e = max (m.log2 + 1 + e - 24) (-149) := by
  obtain ⟨few, least, -, normal⟩ := bounds
  omega

/-- Numbers within the bounds that are the same multiple have the same digits and exponent. -/
theorem InBounds.unique {m n : Nat} {e f : Int} (positive : 0 < m) (he : InBounds m e)
    (hf : InBounds n f) (same : m <<< (e + 149).toNat = n <<< (f + 149).toNat) :
    m = n ∧ e = f := by
  have positive' : 0 < n := by
    refine Nat.pos_of_ne_zero fun zero => ?_
    have := Nat.shiftLeft_pos_iff (m := (e + 149).toNat).mpr positive
    rw [same, zero, Nat.zero_shiftLeft] at this
    exact absurd this (Nat.lt_irrefl 0)
  have digits := congrArg Nat.log2 same
  rw [log2_shiftLeft positive, log2_shiftLeft positive'] at digits
  -- The place of the first digit decides the exponent.
  have hExponent := he.exponent_eq
  have fExponent := hf.exponent_eq
  have := he.least
  have := hf.least
  obtain rfl : e = f := by omega
  rw [Nat.shiftLeft_eq, Nat.shiftLeft_eq] at same
  exact ⟨Nat.eq_of_mul_eq_mul_right (Nat.two_pow_pos _) same, rfl⟩

/-- No more than one number stands for a multiple. -/
theorem Exactly.unique {u : Int} {r r' : UnpackedFloat} (h : Exactly u r) (h' : Exactly u r') :
    r = r' := by
  cases h with
  | zero =>
    generalize hu : (0 : Int) = u at h'
    cases h' with
    | zero => rfl
    | @finite s m e k bounds => exact absurd hu.symm (apply_ne_zero (Nat.shiftLeft_pos_iff.mpr k))
  | @finite s m e k bounds =>
    generalize hu : s.apply (m <<< (e + 149).toNat : Nat) = u at h'
    cases h' with
    | zero => exact absurd hu (apply_ne_zero (Nat.shiftLeft_pos_iff.mpr k))
    | @finite t n f k' bounds' =>
      obtain ⟨rfl, same⟩ := apply_eq_apply (Nat.shiftLeft_pos_iff.mpr k) hu
      obtain ⟨rfl, rfl⟩ := bounds.unique k bounds' same
      rfl

theorem Exactly.stored {u : Int} {r : UnpackedFloat} (h : Exactly u r) : stored r = r := by
  cases h with
  | zero => exact stored_zero _
  | finite bounds => exact stored_of_inBounds bounds

theorem Exactly.isFinite {u : Int} {r : UnpackedFloat} (h : Exactly u r) : r.isFinite = true := by
  cases h <;> rfl

/-- What stands for a multiple is that multiple. -/
theorem Exactly.unitsOf_eq {u : Int} {r : UnpackedFloat} (h : Exactly u r) : unitsOf r = u := by
  cases h <;> rfl

/-- A finite number is a zero, or its digits keep to the bounds. -/
theorem parts_cases {x : Float32} (finite : x.isFinite = true) :
    (∃ s, parts x = .zero s) ∨
      ∃ (s : Sign) (m : Nat) (e : Int) (h : 0 < m), parts x = .finite s m e h ∧ InBounds m e := by
  rw [isFinite_eq] at finite
  cases hx : parts x with
  | notANumber =>
    rw [hx] at finite
    cases finite
  | infinity s =>
    rw [hx] at finite
    cases finite
  | zero s => exact .inl ⟨s, rfl⟩
  | finite s m e h => exact .inr ⟨s, m, e, h, rfl, inBounds_of_parts hx⟩

/-- A finite number other than the negative zero stands for the multiple that it is. -/
theorem exactly_parts {x : Float32} (finite : x.isFinite = true)
    (notNegative : parts x ≠ .zero .negative) : Exactly (units x) (parts x) := by
  rw [units]
  rcases parts_cases finite with ⟨s, zero⟩ | ⟨s, m, e, h, digits, bounds⟩
  · cases s with
    | negative => exact absurd zero notNegative
    | positive =>
      rw [zero]
      exact .zero
  · rw [digits]
    exact .finite bounds

/-- Finite numbers that are the same multiple are equal, unless they are zeros of two signs. -/
theorem eq_of_units {x y : Float32} (hx : x.isFinite = true) (hy : y.isFinite = true)
    (notNegative : parts x ≠ .zero .negative) (notNegative' : parts y ≠ .zero .negative)
    (same : units x = units y) : x = y := by
  have left := exactly_parts hx notNegative
  rw [same] at left
  exact eq_of_parts (left.unique (exactly_parts hy notNegative'))

/-- Only what fits is a multiple of a single-precision number: as many digits as there are, at an
exponent that is not too large. -/
theorem exists_exactly {u : Int} {k : Nat} (multiple : (2 ^ k : Nat) ∣ u.natAbs)
    (few : u.natAbs < 2 ^ (k + 24)) (small : k ≤ 253) : ∃ r, Exactly u r := by
  by_cases zero : u = 0
  · rw [zero]
    exact ⟨_, .zero⟩
  have notZero : u.natAbs ≠ 0 := Int.natAbs_ne_zero.mpr zero
  have digits : u.natAbs.log2 < k + 24 := (Nat.log2_lt notZero).mpr few
  -- All digits but 24 are moved into the exponent.
  generalize hj : u.natAbs.log2 - 23 = j
  -- The digits that do not fit are zeros, since there are at most `k` of them.
  have whole : (u.natAbs >>> j) <<< j = u.natAbs := by
    rw [Nat.shiftRight_eq_div_pow, Nat.shiftLeft_eq]
    exact Nat.div_mul_cancel ((Nat.pow_dvd_pow 2 (by omega)).trans multiple)
  have positive : 0 < u.natAbs >>> j := by
    refine Nat.pos_of_ne_zero fun none => ?_
    rw [none, Nat.zero_shiftLeft] at whole
    exact notZero whole.symm
  have length : (u.natAbs >>> j).log2 = u.natAbs.log2 - j := log2_shiftRight ..
  have exponent : ((j : Int) - 149 + 149).toNat = j := by omega
  have bounds : InBounds (u.natAbs >>> j) ((j : Int) - 149) :=
    ⟨by omega, by omega, by omega, by omega⟩
  have sign : ∃ s : Sign, s.apply u.natAbs = u := by
    by_cases negative : u < 0
    · exact ⟨.negative, by simp only [Sign.apply]; omega⟩
    · exact ⟨.positive, by simp only [Sign.apply]; omega⟩
  obtain ⟨s, signed⟩ := sign
  have exact := @Exactly.finite s _ _ positive bounds
  rw [exponent, whole, signed] at exact
  exact ⟨_, exact⟩

/-! ## Sums of two -/

/-- What rounding does first: it moves the digits to where the last one that fits will be. -/
theorem round_eq (s : Sign) (n : Nat) (f : Int) :
    UnpackedFloat.round .binary32 s n f =
      roundWithAccuracy .binary32 s
        (n <<< (f - max (n.log2 + 1 + f - 24) (-149)).toNat)
        (f - ((f - max (n.log2 + 1 + f - 24) (-149)).toNat : Nat)) .exact := rfl

/-- Rounding does not change what is a multiple that fits. -/
theorem round_of_inBounds {s : Sign} {m n : Nat} {e f : Int} (h : 0 < m) (bounds : InBounds m e)
    (least : -149 ≤ f) (same : n <<< (f + 149).toNat = m <<< (e + 149).toNat) :
    UnpackedFloat.round .binary32 s n f = .finite s m e h := by
  have positive : 0 < n := by
    refine Nat.pos_of_ne_zero fun zero => ?_
    rw [zero, Nat.zero_shiftLeft] at same
    exact absurd same (Nat.ne_of_lt (Nat.shiftLeft_pos_iff.mpr h))
  -- Equal multiples have equal numbers of digits, and those alone decide the exponent.
  have digits := congrArg Nat.log2 same
  rw [log2_shiftLeft positive, log2_shiftLeft h] at digits
  have least' := bounds.least
  have target : max (n.log2 + 1 + f - 24) (-149) = e := by
    have := bounds.exponent_eq
    omega
  rw [round_eq, target]
  obtain ⟨d, exponent⟩ : ∃ d : Nat, f - ((f - e).toNat : Int) = e - d :=
    ⟨(e - f).toNat, by omega⟩
  have mantissa : n <<< (f - e).toNat = m <<< d := by
    have shift : (f + 149).toNat + d = (f - e).toNat + (e + 149).toNat := by omega
    have scaled : (n <<< (f - e).toNat) <<< (e + 149).toNat = (m <<< d) <<< (e + 149).toNat := by
      rw [← Nat.shiftLeft_add, ← shift, Nat.shiftLeft_add, same, ← Nat.shiftLeft_add,
        ← Nat.shiftLeft_add, Nat.add_comm]
    rw [Nat.shiftLeft_eq, Nat.shiftLeft_eq _ (e + 149).toNat] at scaled
    exact Nat.eq_of_mul_eq_mul_right (Nat.two_pow_pos _) scaled
  rw [exponent, mantissa]
  exact roundWithAccuracy_shiftLeft h bounds d

/-- Rounding a sum neither loses it nor changes its sign. -/
theorem exists_round {s : Sign} {n : Nat} {f : Int} (positive : 0 < n) (least : -149 ≤ f) :
    ∃ m e h, UnpackedFloat.round .binary32 s n f = .finite s m e h ∧
      (InBounds m e ∨ 104 < e) := by
  -- A normal sum keeps the place of its first digit, but for a carry; a smaller one is not rounded
  -- at all.
  by_cases normal : -126 ≤ (n.log2 : Int) + f
  · rw [round_eq]
    have digits := log2_shiftLeft positive (f - max (n.log2 + 1 + f - 24) (-149)).toNat
    obtain ⟨m, e, h, round, long, exponent⟩ :=
      @roundWithAccuracy_of_normal s
        (n <<< (f - max (n.log2 + 1 + f - 24) (-149)).toNat)
        (f - ((f - max (n.log2 + 1 + f - 24) (-149)).toNat : Nat)) .exact (by omega) (by omega)
    refine ⟨m, e, h, round, ?_⟩
    by_cases small : e ≤ 104
    · exact .inl ⟨by omega, by omega, small, .inl long⟩
    · exact .inr (by omega)
  · have bounds : InBounds (n <<< (f + 149).toNat) (-149) := by
      have digits := log2_shiftLeft positive (f + 149).toNat
      exact ⟨by omega, by omega, by omega, .inr rfl⟩
    exact ⟨_, _, Nat.shiftLeft_pos_iff.mpr positive,
      round_of_inBounds (Nat.shiftLeft_pos_iff.mpr positive) bounds least rfl, .inl bounds⟩

/-- The mantissas of two numbers, put to the smaller of their exponents and added. -/
theorem add_finite (s t : Sign) {m n : Nat} (e f : Int) (h : 0 < m) (k : 0 < n) :
    UnpackedFloat.add .binary32 (.finite s m e h) (.finite t n f k) =
      UnpackedFloat.normalize .binary32
        (s.apply (m <<< (e - min e f).toNat : Nat) + t.apply (n <<< (f - min e f).toNat : Nat))
        (min e f) .positive := rfl

/-- A mantissa can be moved in two steps, of which the second is a multiplication. -/
theorem apply_shiftLeft (s : Sign) (m : Nat) {n k l : Nat} (h : k + l = n) :
    s.apply (m <<< n : Nat) = s.apply (m <<< k : Nat) * (2 ^ l : Nat) := by
  have whole : m <<< n = m <<< k * 2 ^ l := by
    rw [← Nat.shiftLeft_eq, ← Nat.shiftLeft_add, h]
  rw [whole]
  cases s <;> simp [Sign.apply]

/-- A whole number that is rounded, if it is not zero, and put in order. -/
theorem normalize_eq {u : Int} (notZero : u ≠ 0) (f : Int) :
    ∃ s : Sign, s.apply u.natAbs = u ∧
      UnpackedFloat.normalize .binary32 u f .positive =
        UnpackedFloat.round .binary32 s u.natAbs f := by
  unfold UnpackedFloat.normalize
  by_cases negative : u < 0
  · have magnitude : (-u).toNat = u.natAbs := by omega
    refine ⟨.negative, by simp only [Sign.apply]; omega, ?_⟩
    rw [Int.compare_eq_lt.mpr negative, magnitude]
  · have magnitude : u.toNat = u.natAbs := by omega
    refine ⟨.positive, by simp only [Sign.apply]; omega, ?_⟩
    rw [Int.compare_eq_gt.mpr (by omega), magnitude]

/-- A whole number at an exponent is rounded to what stands for the multiple that it is. -/
theorem normalize_of_exactly {u v : Int} {f : Int} {r : UnpackedFloat} (least : -149 ≤ f)
    (scaled : v * (2 ^ (f + 149).toNat : Nat) = u) (exact : Exactly u r) :
    UnpackedFloat.normalize .binary32 v f .positive = r := by
  by_cases zero : v = 0
  · have none : (0 : Int) = u := by rw [← scaled, zero, Int.zero_mul]
    rw [zero]
    exact Exactly.zero.unique (none ▸ exact)
  · obtain ⟨s, signed, round⟩ := normalize_eq zero f
    have whole : s.apply (v.natAbs <<< (f + 149).toNat : Nat) = u := by
      rw [apply_shiftLeft s v.natAbs (Nat.zero_add _), Nat.shiftLeft_zero, signed, scaled]
    have positive : 0 < v.natAbs := Int.natAbs_pos.mpr zero
    rw [round]
    -- What stands for the multiple has the sign and the digits that are rounded.
    rw [← whole] at exact
    generalize hw : s.apply (v.natAbs <<< (f + 149).toNat : Nat) = w at exact
    cases exact with
    | zero => exact absurd hw (apply_ne_zero (Nat.shiftLeft_pos_iff.mpr positive))
    | @finite t m e h bounds =>
      obtain ⟨rfl, same⟩ := apply_eq_apply (Nat.shiftLeft_pos_iff.mpr positive) hw
      exact round_of_inBounds h bounds least same

/-- The sum of two numbers with digits is not rounded if it fits. -/
theorem add_finite_of_exactly {s t : Sign} {m n : Nat} {e f : Int} {h : 0 < m} {k : 0 < n}
    {r : UnpackedFloat} (least : -149 ≤ e) (least' : -149 ≤ f)
    (exact : Exactly (unitsOf (.finite s m e h) + unitsOf (.finite t n f k)) r) :
    UnpackedFloat.add .binary32 (.finite s m e h) (.finite t n f k) = r := by
  rw [add_finite]
  refine normalize_of_exactly (by omega) ?_ exact
  -- What both were shifted by and what the sum is still to be shifted by make up a whole shift.
  rw [Int.add_mul, ← apply_shiftLeft s m (n := (e + 149).toNat) (by omega),
    ← apply_shiftLeft t n (n := (f + 149).toNat) (by omega)]
  rfl

/-- A sum that fits is not rounded. -/
theorem parts_add_of_exactly {x y : Float32} {r : UnpackedFloat} (hx : x.isFinite = true)
    (notNegative : parts x ≠ .zero .negative) (hy : y.isFinite = true)
    (exact : Exactly (units x + units y) r) : parts (x + y) = r := by
  rw [parts_add]
  suffices sum : UnpackedFloat.add .binary32 (parts x) (parts y) = r by
    rw [sum, exact.stored]
  have left := exactly_parts hx notNegative
  unfold units at exact left
  -- A zero leaves the other number as it is; two numbers with digits are added as whole numbers.
  rcases parts_cases hx with ⟨s, zero⟩ | ⟨s, m, e, h, digits, bounds⟩
  · rw [zero] at exact notNegative ⊢
    cases s with
    | negative => exact absurd rfl notNegative
    | positive =>
      rcases parts_cases hy with ⟨t, zero'⟩ | ⟨t, n, f, k, digits', bounds'⟩
      · -- The positive zero stays what it is when a zero is added, whichever that is.
        rw [zero'] at exact ⊢
        cases t <;> exact Exactly.zero.unique exact
      · rw [digits'] at exact ⊢
        have right : Exactly (0 + unitsOf (.finite t n f k)) (.finite t n f k) := by
          rw [Int.zero_add]
          exact .finite bounds'
        exact right.unique exact
  · rw [digits] at exact left ⊢
    rcases parts_cases hy with ⟨t, zero'⟩ | ⟨t, n, f, k, digits', bounds'⟩
    · rw [zero'] at exact ⊢
      rw [← Int.add_zero (unitsOf _)] at left
      exact left.unique exact
    · rw [digits'] at exact ⊢
      exact add_finite_of_exactly bounds.least bounds'.least exact

/-- What a sum can be before it is stored: a number within the bounds or beyond them, and of the two
zeros only the positive one. -/
inductive Summed : UnpackedFloat → Prop where
  /-- No number, from infinities of both signs or from no number. -/
  | notANumber : Summed .notANumber
  /-- An infinity. -/
  | infinity (s : Sign) : Summed (.infinity s)
  /-- The positive zero. -/
  | zero : Summed (.zero .positive)
  /-- A number with digits, which may be too large to be stored. -/
  | finite {s : Sign} {m : Nat} {e : Int} {h : 0 < m} (within : InBounds m e ∨ 104 < e) :
    Summed (.finite s m e h)

/-- Storing a sum does not make the negative zero of it. -/
theorem Summed.stored_ne_negative {r : UnpackedFloat} (h : Summed r) :
    stored r ≠ .zero .negative := by
  cases h with
  | notANumber =>
    have kept : stored .notANumber = .notANumber := rfl
    rw [kept]
    nofun
  | infinity s =>
    rw [stored_infinity]
    nofun
  | zero =>
    rw [stored_zero]
    nofun
  | finite within =>
    rcases within with bounds | large
    · rw [stored_of_inBounds bounds]
      nofun
    · rw [stored_of_large large]
      nofun

/-- What is rounded after an addition is a sum. -/
theorem summed_normalize (u : Int) {f : Int} (least : -149 ≤ f) :
    Summed (UnpackedFloat.normalize .binary32 u f .positive) := by
  by_cases zero : u = 0
  · rw [zero]
    exact .zero
  · obtain ⟨s, -, round⟩ := normalize_eq zero f
    obtain ⟨m, e, h, rounded, within⟩ := @exists_round s _ f (Int.natAbs_pos.mpr zero) least
    rw [round, rounded]
    exact .finite within

/-- A sum whose first number is not the negative zero is not the negative zero. -/
theorem summed_add {x : Float32} (h : parts x ≠ .zero .negative) (y : Float32) :
    Summed (UnpackedFloat.add .binary32 (parts x) (parts y)) := by
  cases px : parts x with
  | notANumber => exact .notANumber
  | infinity s =>
    cases parts y with
    | notANumber => exact .notANumber
    | infinity t => cases s <;> cases t <;> constructor
    | zero t => exact .infinity s
    | finite => exact .infinity s
  | zero s =>
    cases s with
    | negative => exact absurd px h
    | positive =>
      cases py : parts y with
      | notANumber => exact .notANumber
      | infinity t => exact .infinity t
      | zero t => cases t <;> exact .zero
      | finite t n f k => exact .finite (.inl (inBounds_of_parts py))
  | finite s m e h =>
    -- With a zero the number stays; with another number the sum of the mantissas is rounded.
    have bounds := inBounds_of_parts px
    cases py : parts y with
    | notANumber => exact .notANumber
    | infinity t => exact .infinity t
    | zero t => exact .finite (.inl bounds)
    | finite t n f k =>
      have least := bounds.least
      have least' := (inBounds_of_parts py).least
      rw [add_finite]
      exact summed_normalize _ (by omega)

/-- Adding to a number that is not the negative zero does not give that. -/
theorem parts_add_ne_negative {x : Float32} (h : parts x ≠ .zero .negative) (y : Float32) :
    parts (x + y) ≠ .zero .negative := by
  rw [parts_add]
  exact (summed_add h y).stored_ne_negative

/-! ## Sums of a list -/

/-- Adding up never leads to the negative zero. -/
theorem parts_foldl_ne_negative {x : Float32} (h : parts x ≠ .zero .negative)
    (xs : List Float32) : parts (xs.foldl (· + ·) x) ≠ .zero .negative := by
  induction xs generalizing x with
  | nil => exact h
  | cons y rest ih => exact ih (parts_add_ne_negative h y)

/-- The sum of a list is not the negative zero, since adding up begins with the positive one. -/
theorem parts_sum_ne_negative (xs : List Float32) : parts (sum xs) ≠ .zero .negative :=
  have zero : parts 0 = .zero .positive := rfl
  parts_foldl_ne_negative (by rw [zero]; nofun) xs

/-- Nothing is lost when the numbers are added up in this order. -/
structure AddsUp (xs : List Float32) : Prop where
  /-- The sum is finite. -/
  finite : (sum xs).isFinite = true
  /-- The sum is that of the whole numbers. -/
  units_eq : units (sum xs) = (xs.map units).sum

/-- **A sum without a loss** does not depend on the order of the numbers. -/
theorem sum_eq_of_addsUp {xs ys : List Float32} (permuted : xs.Perm ys) (hx : AddsUp xs)
    (hy : AddsUp ys) : sum xs = sum ys := by
  refine eq_of_units hx.finite hy.finite (parts_sum_ne_negative xs) (parts_sum_ne_negative ys) ?_
  rw [hx.units_eq, hy.units_eq]
  exact (permuted.map units).sum_eq

/-- The negative zero adds nothing. -/
theorem add_negative_zero {x : Float32} (h : parts x = .zero .negative) (y : Float32) :
    y + x = y := by
  refine eq_of_parts ?_
  rw [parts_add, h]
  refine Eq.trans ?_ (stored_parts y)
  cases parts y with
  | zero s => cases s <;> rfl
  | _ => rfl

/-- The positive zero adds nothing to anything but the negative zero. -/
theorem zero_add_of_ne_negative {x : Float32} (h : parts x ≠ .zero .negative) : 0 + x = x := by
  have zero : parts 0 = .zero .positive := rfl
  refine eq_of_parts ?_
  rw [parts_add, zero]
  refine Eq.trans ?_ (stored_parts x)
  cases px : parts x with
  | zero s =>
    cases s with
    | negative => exact absurd px h
    | positive => rfl
  | _ => rfl

/-- Two numbers are added up in either order. -/
theorem sum_pair_comm (x y : Float32) : sum [x, y] = sum [y, x] := by
  show 0 + x + y = 0 + y + x
  -- A negative zero counts for nothing on either side; without one the first sum is the number
  -- itself.
  by_cases hx : parts x = .zero .negative
  · rw [add_negative_zero hx, add_negative_zero hx]
  · by_cases hy : parts y = .zero .negative
    · rw [add_negative_zero hy, add_negative_zero hy]
    · rw [zero_add_of_ne_negative hx, zero_add_of_ne_negative hy, add_comm]

/-- The sum of one number or two does not depend on their order. -/
theorem sum_eq_of_length_le_two {xs ys : List Float32} (permuted : xs.Perm ys)
    (few : xs.length ≤ 2) : sum xs = sum ys := by
  induction permuted with
  | nil => rfl
  | @cons x xs ys permuted =>
    have short : xs.length ≤ 1 := Nat.le_of_succ_le_succ few
    have same : xs = ys := by
      cases xs with
      | nil => exact permuted.nil_eq
      | cons y rest =>
        obtain rfl : rest = [] := by simpa using short
        exact (List.perm_singleton.mp permuted.symm).symm
    rw [same]
  | swap x y rest =>
    obtain rfl : rest = [] := by simpa using few
    exact sum_pair_comm y x
  | trans first second ih ih' =>
    exact (ih few).trans (ih' (first.length_eq ▸ few))

/-- Multiples of a power of two that together fit into 24 binary digits. -/
structure OnGrid (k : Nat) (xs : List Float32) : Prop where
  /-- All numbers are multiples of that power of two. -/
  multiple : ∀ x ∈ xs, 2 ^ k ∣ (units x).natAbs
  /-- Together they have 24 digits above it at most. -/
  few : (xs.map fun x => (units x).natAbs).sum < 2 ^ (k + 24)
  /-- What has so many digits is not too large. -/
  small : k ≤ 253

theorem OnGrid.perm {k : Nat} {xs ys : List Float32} (h : OnGrid k xs) (permuted : xs.Perm ys) :
    OnGrid k ys where
  multiple x member := h.multiple x (permuted.mem_iff.mpr member)
  few := (permuted.map fun x => (units x).natAbs).sum_eq ▸ h.few
  small := h.small

/-- The sum of the first two numbers is not rounded, and takes their place on the grid. -/
theorem OnGrid.add {k : Nat} {xs : List Float32} {x y : Float32} (h : OnGrid k (x :: y :: xs))
    (hx : x.isFinite = true) (notNegative : parts x ≠ .zero .negative) (hy : y.isFinite = true) :
    (x + y).isFinite = true ∧ units (x + y) = units x + units y ∧ OnGrid k ((x + y) :: xs) := by
  obtain ⟨multiple, few, small⟩ := h
  simp only [List.forall_mem_cons] at multiple
  simp only [List.map_cons, List.sum_cons] at few
  obtain ⟨multipleX, multipleY, multiple⟩ := multiple
  have both : 2 ^ k ∣ (units x + units y).natAbs :=
    Int.natCast_dvd.mp (Int.dvd_add (Int.natCast_dvd.mpr multipleX) (Int.natCast_dvd.mpr multipleY))
  obtain ⟨r, exact⟩ := exists_exactly both (by omega) small
  have sum := parts_add_of_exactly hx notNegative hy exact
  have same : units (x + y) = units x + units y := by
    rw [units, sum, exact.unitsOf_eq]
  refine ⟨?_, same, ?_, ?_, small⟩
  · rw [isFinite_eq, sum, exact.isFinite]
  · rw [List.forall_mem_cons, same]
    exact ⟨both, multiple⟩
  · rw [List.map_cons, List.sum_cons, same]
    omega

/-- Numbers on a grid are added to a first one without a loss. -/
theorem OnGrid.foldl {k : Nat} {xs : List Float32} {x : Float32} (h : OnGrid k (x :: xs))
    (hx : x.isFinite = true) (notNegative : parts x ≠ .zero .negative)
    (finite : ∀ y ∈ xs, y.isFinite = true) :
    (xs.foldl (· + ·) x).isFinite = true ∧
      units (xs.foldl (· + ·) x) = units x + (xs.map units).sum := by
  induction xs generalizing x with
  | nil => exact ⟨hx, (Int.add_zero _).symm⟩
  | cons y rest ih =>
    obtain ⟨hy, finite⟩ := List.forall_mem_cons.mp finite
    obtain ⟨hSum, sum, onGrid⟩ := h.add hx notNegative hy
    have total := ih onGrid hSum (parts_add_ne_negative notNegative y) finite
    rw [sum, Int.add_assoc] at total
    exact total

/-- Finite numbers on a grid are added up without a loss. -/
theorem OnGrid.addsUp {k : Nat} {xs : List Float32} (h : OnGrid k xs)
    (finite : ∀ x ∈ xs, x.isFinite = true) : AddsUp xs := by
  have none : units 0 = 0 := rfl
  have start : OnGrid k (0 :: xs) := by
    obtain ⟨multiple, few, small⟩ := h
    refine ⟨List.forall_mem_cons.mpr ⟨?_, multiple⟩, ?_, small⟩
    · rw [none]
      exact Nat.dvd_zero _
    · rw [List.map_cons, List.sum_cons, none, Int.natAbs_zero, Nat.zero_add]
      exact few
  obtain ⟨finite, total⟩ := start.foldl rfl (parts_sum_ne_negative []) finite
  rw [none, Int.zero_add] at total
  exact ⟨finite, total⟩

end TextVec.Single
