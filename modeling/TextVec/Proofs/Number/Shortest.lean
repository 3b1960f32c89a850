import Mathlib.Algebra.Order.Field.Power
import Mathlib.Tactic.Linarith
import Mathlib.Tactic.NormNum
import Mathlib.Tactic.Positivity
import Mathlib.Tactic.Ring
import TextVec.Number.Shortest

/-!
# Shortest digits lie in the interval

The shortest digits of a binary number are searched for with whole numbers only, every comparison
being multiplied out. Main statements: the decimal that is found lies in the interval around the
number, since nine digits are always enough for one of 24 binary digits; and what lies in the
interval is at least as near to the number as to any other of single precision.
-/

namespace TextVec

/-- A power with any exponent by two with natural ones, of which one is 1. -/
theorem zpow_eq_div {base : Nat} (positive : 0 < base) (e : Int) :
    (base : ℚ) ^ e = (Nat.pow base e.toNat : Nat) / (Nat.pow base (-e).toNat : Nat) := by
  have notZero : (base : ℚ) ≠ 0 := by exact_mod_cast Nat.ne_of_gt positive
  have split : e = (e.toNat : Int) - ((-e).toNat : Int) := by omega
  conv_lhs => rw [split]
  rw [zpow_sub₀ notZero, zpow_natCast, zpow_natCast, Nat.pow_eq, Nat.pow_eq, Nat.cast_pow,
    Nat.cast_pow]

namespace BinaryNumber

/-! ## The interval around a number -/

/-- The number itself. -/
def value (b : BinaryNumber) : ℚ := b.mantissa * 2 ^ b.exponent

/-- The lower end of the interval: half way to the next number below. -/
def low (b : BinaryNumber) : ℚ := b.value - (if b.narrow then 1 / 4 else 1 / 2) * 2 ^ b.exponent

/-- The upper end of the interval: half way to the next number above. -/
def high (b : BinaryNumber) : ℚ := b.value + 1 / 2 * 2 ^ b.exponent

/-- The interval is not too narrow for its number. -/
theorem low_lt_value_lt_high (b : BinaryNumber) : b.low < b.value ∧ b.value < b.high := by
  have power : (0 : ℚ) < 2 ^ b.exponent := by positivity
  unfold low high
  constructor
  · split <;> linarith
  · linarith

/-- The interval around a number that is not zero has positive numbers only. -/
theorem low_pos {b : BinaryNumber} (notZero : b.mantissa ≠ 0) : 0 < b.low := by
  have power : (0 : ℚ) < 2 ^ b.exponent := by positivity
  have one : (1 : ℚ) ≤ b.mantissa := by exact_mod_cast Nat.pos_of_ne_zero notZero
  have least := mul_le_mul_of_nonneg_right one power.le
  unfold low value
  split <;> linarith

/-- What the search compares are the number and the two ends, over one denominator. -/
theorem scaled_eq {b : BinaryNumber} (notZero : b.mantissa ≠ 0) :
    0 < b.scaled.2.2.2 ∧ (b.scaled.1 : ℚ) / b.scaled.2.2.2 = b.value ∧
      (b.scaled.2.1 : ℚ) / b.scaled.2.2.2 = b.low ∧
      (b.scaled.2.2.1 : ℚ) / b.scaled.2.2.2 = b.high := by
  -- All three count quarters of the last digit.
  have quarters (k : Nat) : ((k * Nat.pow 2 b.exponent.toNat : Nat) : ℚ) /
      (4 * Nat.pow 2 (-b.exponent).toNat : Nat) = k / 4 * 2 ^ b.exponent := by
    have power := zpow_eq_div Nat.two_pos b.exponent
    rw [Nat.cast_ofNat] at power
    rw [power]
    push_cast
    ring
  refine ⟨Nat.mul_pos (by decide) (Nat.two_pow_pos _), ?_, ?_, ?_⟩
  · refine (quarters _).trans ?_
    rw [value]
    push_cast
    ring
  · refine (quarters _).trans ?_
    rw [low, value]
    split
    · rw [Nat.cast_sub (by omega)]
      push_cast
      ring
    · rw [Nat.cast_sub (by omega)]
      push_cast
      ring
  · refine (quarters _).trans ?_
    rw [high, value]
    push_cast
    ring

section Fractions

variable {denominator : Nat} (positive : 0 < denominator) (x c : Nat) (exponent : Int)

/-- A fraction over the denominator of the comparisons. -/
theorem fraction_eq_div :
    (x : ℚ) / denominator = (x * Nat.pow 10 (-exponent).toNat : Nat) /
      (denominator * Nat.pow 10 (-exponent).toNat : Nat) := by
  have factor : ((Nat.pow 10 (-exponent).toNat : Nat) : ℚ) ≠ 0 := by
    exact_mod_cast Nat.ne_of_gt (Nat.pow_pos (by decide))
  rw [Nat.cast_mul, Nat.cast_mul, mul_div_mul_right _ _ factor]

include positive

/-- A decimal over the denominator of the comparisons. -/
theorem decimal_eq_div :
    (c : ℚ) * 10 ^ exponent = (c * (denominator * Nat.pow 10 exponent.toNat) : Nat) /
      (denominator * Nat.pow 10 (-exponent).toNat : Nat) := by
  have power := zpow_eq_div (by decide : 0 < 10) exponent
  have notZero : (denominator : ℚ) ≠ 0 := by exact_mod_cast Nat.ne_of_gt positive
  rw [Nat.cast_ofNat] at power
  rw [power, Nat.mul_left_comm, Nat.cast_mul denominator, Nat.cast_mul denominator,
    mul_div_mul_left _ _ notZero, Nat.cast_mul, mul_div_assoc]

theorem denominator_pos :
    (0 : ℚ) < (denominator * Nat.pow 10 (-exponent).toNat : Nat) := by
  exact_mod_cast Nat.mul_pos positive (Nat.pow_pos (by decide))

/-- Whether a decimal is at most a fraction is decided with whole numbers. -/
theorem le_div_iff_mul_le :
    (c : ℚ) * 10 ^ exponent ≤ x / denominator ↔
      c * (denominator * Nat.pow 10 exponent.toNat) ≤ x * Nat.pow 10 (-exponent).toNat := by
  rw [decimal_eq_div positive, fraction_eq_div x exponent,
    div_le_div_iff_of_pos_right (denominator_pos positive exponent), Nat.cast_le]

/-- Whether a decimal is at least a fraction is decided with whole numbers. -/
theorem div_le_iff_le_mul :
    (x : ℚ) / denominator ≤ c * 10 ^ exponent ↔
      x * Nat.pow 10 (-exponent).toNat ≤ c * (denominator * Nat.pow 10 exponent.toNat) := by
  rw [decimal_eq_div positive, fraction_eq_div x exponent,
    div_le_div_iff_of_pos_right (denominator_pos positive exponent), Nat.cast_le]

end Fractions

/-! ## Decimals that fit -/

/-- Whether a decimal lies in the interval, to which its ends belong if the last digit of the number
is 0. -/
def fits (b : BinaryNumber) (exponent : Int) (c : Nat) : Bool :=
  let x := c * (b.scaled.2.2.2 * Nat.pow 10 exponent.toNat)
  let factor := Nat.pow 10 (-exponent).toNat
  if b.mantissa % 2 = 0 then b.scaled.2.1 * factor ≤ x && x ≤ b.scaled.2.2.1 * factor
  else b.scaled.2.1 * factor < x && x < b.scaled.2.2.1 * factor

/-- A decimal that fits lies between the ends. -/
theorem between_of_fits {b : BinaryNumber} (notZero : b.mantissa ≠ 0) {exponent : Int} {c : Nat}
    (h : b.fits exponent c = true) :
    b.low ≤ c * 10 ^ exponent ∧ c * 10 ^ exponent ≤ b.high := by
  obtain ⟨positive, -, low, high⟩ := scaled_eq notZero
  rw [← low, ← high, div_le_iff_le_mul positive, le_div_iff_mul_le positive]
  unfold fits at h
  simp only at h
  split at h
  · simpa using h
  · rw [Bool.and_eq_true, decide_eq_true_eq, decide_eq_true_eq] at h
    exact ⟨Nat.le_of_lt h.1, Nat.le_of_lt h.2⟩

/-- A decimal that does not fit lies beyond one of the ends, or is one of them. -/
theorem outside_of_not_fits {b : BinaryNumber} (notZero : b.mantissa ≠ 0) {exponent : Int}
    {c : Nat} (h : b.fits exponent c = false) :
    c * 10 ^ exponent ≤ b.low ∨ b.high ≤ c * 10 ^ exponent := by
  obtain ⟨positive, -, low, high⟩ := scaled_eq notZero
  rw [← low, ← high, div_le_iff_le_mul positive, le_div_iff_mul_le positive]
  unfold fits at h
  simp only at h
  split at h
  · rw [Bool.and_eq_false_iff, decide_eq_false_iff_not, decide_eq_false_iff_not] at h
    omega
  · rw [Bool.and_eq_false_iff, decide_eq_false_iff_not, decide_eq_false_iff_not] at h
    omega

/-- The search looks at the two decimals next to the number; if both fit, it takes one of them. -/
theorem nearest?_eq (b : BinaryNumber) (top : Int) (n : Nat) :
    ∃ below closer : Nat,
      below = b.scaled.1 * Nat.pow 10 (-(top - n + 1)).toNat /
        (b.scaled.2.2.2 * Nat.pow 10 (top - n + 1).toNat) ∧
      (closer = below ∨ closer = below + 1) ∧
      b.nearest? top n = match b.fits (top - n + 1) below, b.fits (top - n + 1) (below + 1) with
        | true, true => some (closer, top - n + 1)
        | true, false => some (below, top - n + 1)
        | false, true => some (below + 1, top - n + 1)
        | false, false => none := by
  refine ⟨_, _, rfl, ?_, rfl⟩
  split
  · exact .inl rfl
  · exact .inr rfl

theorem fits_of_nearest? {b : BinaryNumber} {top : Int} {n : Nat} {found : Nat × Int}
    (h : b.nearest? top n = some found) : b.fits found.2 found.1 = true := by
  obtain ⟨below, closer, -, closerEq, eq⟩ := nearest?_eq b top n
  rw [eq] at h
  cases lower : b.fits (top - n + 1) below with
  | true =>
    cases upper : b.fits (top - n + 1) (below + 1) with
    | true =>
      rw [lower, upper] at h
      cases h
      rcases closerEq with rfl | rfl
      · exact lower
      · exact upper
    | false =>
      rw [lower, upper] at h
      cases h
      exact lower
  | false =>
    cases upper : b.fits (top - n + 1) (below + 1) with
    | true =>
      rw [lower, upper] at h
      cases h
      exact upper
    | false =>
      rw [lower, upper] at h
      cases h

/-- One of the two fits if decimals of that many digits lie closer than the ends of the interval. -/
theorem nearest?_ne_none {b : BinaryNumber} (notZero : b.mantissa ≠ 0) {top : Int} {n : Nat}
    (fine : (10 : ℚ) ^ (top - n + 1) < b.high - b.low) : b.nearest? top n ≠ none := by
  obtain ⟨below, closer, belowEq, -, eq⟩ := nearest?_eq b top n
  obtain ⟨positive, value, -, -⟩ := scaled_eq notZero
  have unit : 0 < b.scaled.2.2.2 * Nat.pow 10 (top - n + 1).toNat :=
    Nat.mul_pos positive (Nat.pow_pos (by decide))
  -- The number lies between the two decimals, so each of them can only miss one end.
  have lower : (below : ℚ) * 10 ^ (top - n + 1) ≤ b.value := by
    rw [← value, le_div_iff_mul_le positive, belowEq]
    exact Nat.div_mul_le_self ..
  have upper : b.value ≤ (below + 1 : Nat) * 10 ^ (top - n + 1) := by
    rw [← value, div_le_iff_le_mul positive, belowEq]
    exact Nat.le_of_lt (Nat.lt_mul_of_div_lt (Nat.lt_succ_self _) unit)
  obtain ⟨low, high⟩ := b.low_lt_value_lt_high
  rw [eq]
  intro none
  -- If both missed, one would lie below the interval and the other above it, further apart than
  -- they are.
  cases first : b.fits (top - n + 1) below with
  | true =>
    rw [first] at none
    cases second : b.fits (top - n + 1) (below + 1) with
    | _ =>
      rw [second] at none
      cases none
  | false =>
    cases second : b.fits (top - n + 1) (below + 1) with
    | true =>
      rw [first, second] at none
      cases none
    | false =>
      have tooLow := (outside_of_not_fits notZero first).resolve_right (by linarith)
      have tooHigh := (outside_of_not_fits notZero second).resolve_left (by linarith)
      push_cast at tooHigh
      linarith

/-! ## How many digits are enough -/

/-- A number is not less than the least one with as many digits. -/
theorem pow_length_toDigits_le {n : Nat} (positive : 0 < n) :
    Nat.pow 10 ((Nat.toDigits 10 n).length - 1) ≤ n := by
  by_contra less
  by_cases one : (Nat.toDigits 10 n).length - 1 = 0
  · rw [one, Nat.pow_eq] at less
    omega
  · have short := (Nat.length_toDigits_le_iff (by decide) (by omega)).mpr (Nat.not_le.mp less)
    omega

/-- A number is less than the least one with one more digit. -/
theorem lt_pow_length_toDigits (n : Nat) : n < Nat.pow 10 (Nat.toDigits 10 n).length :=
  (Nat.length_toDigits_le_iff (by decide) Nat.length_toDigits_pos).mp (Nat.le_refl _)

/-- The power of ten that the search begins at is not greater than the fraction. -/
theorem pow_floorLog10_le {numerator denominator : Nat} (hNumerator : 0 < numerator)
    (hDenominator : 0 < denominator) :
    (10 : ℚ) ^ floorLog10 numerator denominator ≤ numerator / denominator := by
  have positive : (0 : ℚ) < denominator := by exact_mod_cast hDenominator
  have small {n : Nat} (h : denominator ≤ numerator * Nat.pow 10 n) :
      (10 : ℚ) ^ (-(n : Int)) ≤ numerator / denominator := by
    rw [zpow_neg, zpow_natCast, inv_eq_one_div, div_le_div_iff₀ (by positivity) positive, one_mul]
    exact_mod_cast h
  unfold floorLog10
  split
  -- From one on, the digits of the whole part are counted; below it, those of the inverse.
  · rename_i large
    have digits := pow_length_toDigits_le (Nat.div_pos large hDenominator)
    rw [zpow_natCast, le_div_iff₀ positive]
    exact_mod_cast (Nat.le_div_iff_mul_le hDenominator).mp digits
  · simp only
    split
    · rename_i enough
      exact small enough
    · have digits := lt_pow_length_toDigits (denominator / numerator)
      refine small (Nat.le_of_lt ?_)
      rw [Nat.mul_comm]
      exact (Nat.div_lt_iff_lt_mul hNumerator).mp digits

/-- Decimals of nine digits lie close enough for a number of 24 binary digits. -/
theorem fine_of_nine {b : BinaryNumber} (notZero : b.mantissa ≠ 0) (few : b.mantissa < 16777216) :
    (10 : ℚ) ^ (floorLog10 b.scaled.1 b.scaled.2.2.2 - (9 : Nat) + 1) < b.high - b.low := by
  obtain ⟨positive, value, -, -⟩ := scaled_eq notZero
  have numerator : 0 < b.scaled.1 :=
    Nat.mul_pos (Nat.mul_pos (by decide) (Nat.pos_of_ne_zero notZero)) (Nat.two_pow_pos _)
  have power : (0 : ℚ) < 2 ^ b.exponent := by positivity
  have top : (10 : ℚ) ^ floorLog10 b.scaled.1 b.scaled.2.2.2 ≤ 16777216 * 2 ^ b.exponent := by
    have mantissa : (b.mantissa : ℚ) ≤ 16777216 := by exact_mod_cast Nat.le_of_lt few
    have below := pow_floorLog10_le numerator positive
    rw [value] at below
    exact below.trans (mul_le_mul_of_nonneg_right mantissa power.le)
  have width : 3 / 4 * (2 : ℚ) ^ b.exponent ≤ b.high - b.low := by
    unfold high low
    split <;> linarith
  have digits : floorLog10 b.scaled.1 b.scaled.2.2.2 - (9 : Nat) + 1 =
      floorLog10 b.scaled.1 b.scaled.2.2.2 - (8 : Nat) := by
    push_cast
    ring
  have eight : (10 : ℚ) ^ 8 = 100000000 := by norm_num
  rw [digits, zpow_sub₀ (by decide), zpow_natCast, eight]
  -- Eight digits behind the first are more than a hundred million steps, and 24 binary ones fewer
  -- than seventeen.
  linarith

/-- If so many digits are enough, then what is found fits when the search comes that far. -/
theorem fits_of_shortestFrom {b : BinaryNumber} {top : Int} {last : Nat}
    (enough : b.nearest? top last ≠ none) {n steps : Nat} (before : n ≤ last)
    (within : last < n + steps) :
    b.fits (b.shortestFrom top n steps).2 (b.shortestFrom top n steps).1 = true := by
  induction steps generalizing n with
  | zero => omega
  | succ steps ih =>
    rw [shortestFrom]
    cases found : b.nearest? top n with
    | some digits => exact fits_of_nearest? found
    | none =>
      have more : n ≠ last := fun same => enough (same ▸ found)
      exact ih (by omega) (by omega)

/-- **Shortest digits** stand for a decimal in the interval of their number. -/
theorem between_of_shortest {b : BinaryNumber} (notZero : b.mantissa ≠ 0)
    (few : b.mantissa < 16777216) :
    b.low ≤ b.shortest.1 * 10 ^ b.shortest.2 ∧ b.shortest.1 * 10 ^ b.shortest.2 ≤ b.high := by
  have enough := nearest?_ne_none notZero (fine_of_nine notZero few)
  exact between_of_fits notZero (fits_of_shortestFrom enough (by decide) (by decide))

/-- The shortest digits of a number that is not zero are not zero, as zero lies below its
interval. -/
theorem shortest_pos {b : BinaryNumber} (notZero : b.mantissa ≠ 0) (few : b.mantissa < 16777216) :
    0 < b.shortest.1 := by
  refine Nat.pos_of_ne_zero fun zero => ?_
  have low := (between_of_shortest notZero few).1
  have positive := low_pos notZero
  rw [zero, Nat.cast_zero, zero_mul] at low
  linarith

/-! ## Where other numbers are -/

/-- Single precision has 24 binary digits at most, and fewer only with the least exponent. -/
structure IsSingle (b : BinaryNumber) : Prop where
  /-- At most 24 binary digits. -/
  few : b.mantissa < 16777216
  /-- The exponent is not below the least one. -/
  least : -149 ≤ b.exponent
  /-- All 24 digits, or the least exponent. -/
  normal : 8388608 ≤ b.mantissa ∨ b.exponent = -149
  /-- Below a power of two the numbers lie closer, unless they have the least exponent as well. -/
  narrow_iff : b.narrow = true ↔ b.mantissa = 8388608 ∧ -149 < b.exponent

/-- Magnitude bits stand for a number of single precision. -/
theorem isSingle_ofMagnitude (bits : Nat) : (ofMagnitude 23 (-149) bits).IsSingle := by
  have fraction : bits % 8388608 < 8388608 := Nat.mod_lt _ (by decide)
  unfold ofMagnitude
  rw [show Nat.pow 2 23 = 8388608 from rfl]
  simp only
  split
  · exact ⟨by simp only; omega, Int.le_refl _, .inr rfl, by simp⟩
  · refine ⟨by simp only; omega, by simp only; omega, .inl (by simp only; omega), ?_⟩
    simp only [Bool.and_eq_true, decide_eq_true_eq]
    omega

/-- How far the next number below is away at least. -/
def gap (b : BinaryNumber) : ℚ := (if b.narrow then 1 / 2 else 1) * 2 ^ b.exponent

theorem gap_pos (b : BinaryNumber) : 0 < b.gap := by
  unfold gap
  split <;> positivity

theorem gap_le (b : BinaryNumber) : b.gap ≤ 2 ^ b.exponent := by
  have power : (0 : ℚ) < 2 ^ b.exponent := by positivity
  unfold gap
  split <;> linarith

/-- The lower end lies half way down the gap. -/
theorem low_eq (b : BinaryNumber) : b.low = b.value - b.gap / 2 := by
  unfold low gap
  split <;> ring

/-- A number whose exponent is not smaller is a multiple of the last digit of the other. -/
theorem apart_of_le {b c : BinaryNumber} (h : b.exponent ≤ c.exponent) :
    c.value = b.value ∨ b.value + 2 ^ b.exponent ≤ c.value ∨
      c.value ≤ b.value - 2 ^ b.exponent := by
  obtain ⟨k, exponent⟩ := Int.le.dest h
  have power : (0 : ℚ) < 2 ^ b.exponent := by positivity
  have multiple : c.value = (c.mantissa * Nat.pow 2 k : Nat) * 2 ^ b.exponent := by
    rw [value, ← exponent, zpow_add₀ (by decide), zpow_natCast, Nat.pow_eq]
    push_cast
    ring
  rw [multiple, value]
  -- Two multiples are equal, or one step apart at least.
  rcases Nat.lt_trichotomy (c.mantissa * Nat.pow 2 k) b.mantissa with less | same | more
  · right
    right
    have step : ((c.mantissa * Nat.pow 2 k : Nat) : ℚ) + 1 ≤ b.mantissa := by exact_mod_cast less
    nlinarith only [step, power]
  · exact .inl (by rw [same])
  · right
    left
    have step : (b.mantissa : ℚ) + 1 ≤ (c.mantissa * Nat.pow 2 k : Nat) := by exact_mod_cast more
    nlinarith only [step, power]

/-- A number with a smaller exponent is smaller, since the other one has all digits. -/
theorem apart_of_lt {b c : BinaryNumber} (hb : b.IsSingle) (hc : c.IsSingle)
    (h : c.exponent < b.exponent) : c.value ≤ b.value - b.gap := by
  obtain ⟨k, exponent⟩ := Int.le.dest (Int.add_one_le_of_lt h)
  have few := hc.few
  have least := hc.least
  have normal : 8388608 ≤ b.mantissa := hb.normal.resolve_right (by omega)
  have one : 1 ≤ Nat.pow 2 k := Nat.one_le_two_pow
  have positive : (0 : ℚ) < 2 ^ c.exponent := by positivity
  have scale : (2 : ℚ) ^ b.exponent = 2 * (Nat.pow 2 k : Nat) * 2 ^ c.exponent := by
    rw [← exponent, zpow_add₀ (by decide), zpow_add_one₀ (by decide), zpow_natCast, Nat.pow_eq]
    push_cast
    ring
  generalize Nat.pow 2 k = power at one scale
  -- Both sides are multiples of the last digit of the smaller number.
  have multiple {n : Nat} {g : ℚ} (le : c.mantissa ≤ n)
      (eq : (n : ℚ) = b.mantissa * (2 * power) - g * (2 * power)) :
      c.value ≤ b.value - g * 2 ^ b.exponent := by
    have le' : (c.mantissa : ℚ) ≤ n := by exact_mod_cast le
    have difference : b.value - g * 2 ^ b.exponent = n * 2 ^ c.exponent := by
      rw [value, scale, eq]
      ring
    rw [difference, value]
    exact mul_le_mul_of_nonneg_right le' positive.le
  unfold gap
  split
  -- Below a power of two the other number has at most 24 digits of half the size.
  · rename_i narrow
    have mantissa := (hb.narrow_iff.mp narrow).1
    refine @multiple (16777215 * power) _ (by omega) ?_
    rw [mantissa]
    push_cast
    ring
  · rename_i wide
    have more : 8388608 < b.mantissa := by
      refine Nat.lt_of_le_of_ne normal fun same => wide ?_
      exact hb.narrow_iff.mpr ⟨same.symm, by omega⟩
    refine @multiple ((b.mantissa - 1) * (2 * power)) _ ?_ ?_
    · have product : 8388608 * 2 ≤ (b.mantissa - 1) * (2 * power) :=
        Nat.mul_le_mul (by omega) (by omega)
      omega
    · push_cast [Nat.cast_sub (show 1 ≤ b.mantissa by omega)]
      ring

/-- Between a number and the next ones there is no other. -/
theorem apart {b c : BinaryNumber} (hb : b.IsSingle) (hc : c.IsSingle) :
    c.value = b.value ∨ b.value + 2 ^ b.exponent ≤ c.value ∨ c.value ≤ b.value - b.gap := by
  rcases Int.lt_or_le c.exponent b.exponent with less | more
  · exact .inr (.inr (apart_of_lt hb hc less))
  · rcases apart_of_le more with same | above | below
    · exact .inl same
    · exact .inr (.inl above)
    · have gap := b.gap_le
      exact .inr (.inr (by linarith))

/-- **What lies in the interval** of a number is not nearer to any other. -/
theorem abs_sub_le {b c : BinaryNumber} (hb : b.IsSingle) (hc : c.IsSingle) {v : ℚ}
    (low : b.low ≤ v) (high : v ≤ b.high) : |v - b.value| ≤ |v - c.value| := by
  rw [low_eq] at low
  unfold BinaryNumber.high at high
  have gap := b.gap_le
  have positive := b.gap_pos
  rw [abs_le]
  -- The decimal is half a gap away at most, and any other number a whole one.
  rcases apart hb hc with same | above | below
  · rw [same]
    exact ⟨neg_abs_le _, le_abs_self _⟩
  · have far := neg_le_abs (v - c.value)
    constructor <;> linarith
  · have far := le_abs_self (v - c.value)
    constructor <;> linarith

end BinaryNumber

end TextVec
