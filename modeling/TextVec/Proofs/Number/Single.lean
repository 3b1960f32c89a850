import TextVec.Proofs.Number.Rounding

/-!
# Sums and quotients in single precision

What is not finite stays so when it is added to or divided. Adding finite numbers may give an
infinite one, but always gives a number; and dividing by a count never makes a finite number
infinite, however the count itself is rounded.
-/

namespace TextVec.Single

open Float.Model (Format UnpackedFloat)
open Float.Model.UnpackedFloat

theorem isFinite_eq (x : Float32) : x.isFinite = (parts x).isFinite := rfl

theorem isNaN_eq (x : Float32) : x.isNaN = (parts x).isNaN := rfl

/-! ## Sums -/

/-- A sum is computed exactly, rounded and stored. -/
theorem parts_add (x y : Float32) : parts (x + y) = stored (.add .binary32 (parts x) (parts y)) :=
  rfl

theorem isNaN_normalize (m e : Int) (s : Sign) :
    (UnpackedFloat.normalize .binary32 m e s).isNaN = false := by
  unfold UnpackedFloat.normalize UnpackedFloat.round
  split
  · exact isNaN_roundWithAccuracy ..
  · rfl
  · exact isNaN_roundWithAccuracy ..

/-- A sum of numbers of which the second is finite is a number. -/
theorem isNaN_add {x y : Float32} (hx : x.isNaN = false) (hy : y.isFinite = true) :
    (x + y).isNaN = false := by
  have sum {a b : UnpackedFloat} (ha : a.isNaN = false) (hb : b.isFinite = true) :
      (UnpackedFloat.add .binary32 a b).isNaN = false := by
    cases a with
    | notANumber => cases ha
    | infinity s => cases b <;> first | rfl | cases hb
    | zero s =>
      cases b with
      | zero t => cases s <;> cases t <;> rfl
      | finite => rfl
      | infinity => cases hb
      | notANumber => cases hb
    | finite s m e h =>
      cases b with
      | zero t => rfl
      | finite => exact isNaN_normalize ..
      | infinity => cases hb
      | notANumber => cases hb
  rw [isNaN_eq, parts_add, isNaN_stored]
  exact sum hx hy

/-- What is not finite does not become finite by adding to it. -/
theorem isFinite_of_isFinite_add {x y : Float32} (h : (x + y).isFinite = true) :
    x.isFinite = true := by
  have sum {a b : UnpackedFloat} (h : (UnpackedFloat.add .binary32 a b).isFinite = true) :
      a.isFinite = true := by
    cases a with
    | zero => rfl
    | finite => rfl
    | notANumber => cases h
    | infinity s =>
      cases b with
      | infinity t => cases s <;> cases t <;> cases h
      | _ => cases h
  exact sum (isFinite_of_isFinite_stored h)

/-- The sum of numbers, added up from the first on. -/
def sum (xs : List Float32) : Float32 := xs.foldl (· + ·) 0

/-- Adding up does not come back to the finite numbers. -/
theorem isFinite_of_isFinite_foldl {x : Float32} {xs : List Float32}
    (h : (xs.foldl (· + ·) x).isFinite = true) : x.isFinite = true := by
  induction xs generalizing x with
  | nil => exact h
  | cons y rest ih => exact isFinite_of_isFinite_add (ih h)

/-- A sum is finite exactly if adding up never leaves the finite numbers on the way. -/
theorem isFinite_sum_iff {xs : List Float32} :
    (sum xs).isFinite = true ↔ ∀ n, (sum (xs.take n)).isFinite = true := by
  constructor
  · intro h n
    rw [sum, ← List.take_append_drop n xs, List.foldl_append] at h
    exact isFinite_of_isFinite_foldl h
  · intro h
    have whole := h xs.length
    rwa [List.take_length] at whole

/-- A sum of finite numbers is a number. -/
theorem isNaN_sum {xs : List Float32} (finite : ∀ x ∈ xs, x.isFinite = true) :
    (sum xs).isNaN = false := by
  -- From any number on, one finite number after the other.
  have step {start : Float32} (hStart : start.isNaN = false) :
      (xs.foldl (· + ·) start).isNaN = false := by
    induction xs generalizing start with
    | nil => exact hStart
    | cons x rest ih =>
      have hx := finite x (List.mem_cons_self ..)
      exact ih (fun y member => finite y (List.mem_cons_of_mem _ member)) (isNaN_add hStart hx)
  exact step rfl

/-! ## Counts -/

/-- A number whose first digit stands for `2 ^ k` at least. Only if that is large, it may be
infinite. -/
inductive Reaches (k : Int) : UnpackedFloat → Prop where
  /-- The count was too large. -/
  | infinite {s : Sign} (large : 100 < k) : Reaches k (.infinity s)
  /-- The number has all 24 digits, and the first one where it must be. -/
  | finite {s : Sign} {m : Nat} {e : Int} (h : 0 < m) (normal : m.log2 = 23)
    (first : k ≤ m.log2 + e) : Reaches k (.finite s m e h)

/-- What is rounded and stored keeps its first digit where it was, or higher by a carry. -/
theorem reaches_stored {s : Sign} {m : Nat} {e : Int} (long : 23 ≤ m.log2)
    (normal : -126 ≤ m.log2 + e) :
    Reaches (m.log2 + e) (stored (roundWithAccuracy .binary32 s m e .exact)) := by
  obtain ⟨m', e', h, round, digits, exponent⟩ :=
    @roundWithAccuracy_of_normal s m e .exact long (by omega)
  rw [round]
  by_cases small : e' ≤ 104
  · obtain ⟨t, same⟩ := @stored_of_normal s m' e' h digits (by omega) small
    rw [same]
    exact .finite h digits (by omega)
  · rw [stored_of_large (by omega)]
    exact .infinite (by omega)

/-- A count of many digits is what rounding makes of it. -/
theorem parts_ofNat_of_large {n : Nat} (large : 8388608 ≤ n) :
    parts (Float32.ofNat n) =
      stored (roundWithAccuracy .binary32 .positive (n <<< 24) (-24) .exact) := by
  have slow : ¬ (n < 8388608 ∧ 0 ≤ 10) := by omega
  have scientific : parts (Float32.ofNat n) = stored (.ofScientific .binary32 n 0) := by
    show parts (Float32.ofScientific n false 0) = _
    rw [Float32.ofScientific, dif_neg slow]
    rfl
  have notTiny : ¬ (0 : Int) < -(256 + n.log2) := by omega
  rw [scientific, UnpackedFloat.ofScientific, dif_neg (by omega), if_neg (by decide)]
  refine (congrArg stored ((if_neg notTiny).trans (if_pos (Int.le_refl 0)))).trans ?_
  show stored (roundWithAccuracy .binary32 .positive (n <<< 24 * 1) (-24 + 0) .exact) = _
  rw [Nat.mul_one]
  rfl

/-- A count of few digits is filled up with zeros, so that rounding does not change it. -/
theorem normalize_ofNat {n : Nat} (positive : 0 < n) (small : n.log2 ≤ 23) :
    UnpackedFloat.normalize .binary32 n 0 .positive =
      roundWithAccuracy .binary32 .positive (n <<< (23 - n.log2)) (0 - (23 - n.log2 : Nat))
        .exact := by
  have compared : compare (n : Int) 0 = .gt := Int.compare_eq_gt.mpr (by omega)
  have shift : (0 - Format.targetExponent .binary32 (Float.Model.totalExponent n 0)).toNat =
      23 - n.log2 := by
    rw [targetExponent_eq, Float.Model.totalExponent]
    omega
  unfold UnpackedFloat.normalize
  rw [compared]
  show roundWithAccuracy .binary32 .positive
    (n <<< (0 - Format.targetExponent .binary32 (Float.Model.totalExponent n 0)).toNat)
    (0 - ((0 - Format.targetExponent .binary32 (Float.Model.totalExponent n 0)).toNat : Int))
    .exact = _
  rw [shift]

/-- A count of few digits keeps its first digit. -/
theorem reaches_normalize {n : Nat} (positive : 0 < n) (small : n.log2 ≤ 23) :
    Reaches n.log2 (stored (UnpackedFloat.normalize .binary32 n 0 .positive)) := by
  have digits : (n <<< (23 - n.log2)).log2 = 23 := by
    rw [log2_shiftLeft positive]
    omega
  have first : ((n <<< (23 - n.log2)).log2 : Int) + (0 - (23 - n.log2 : Nat)) = n.log2 := by
    rw [digits]
    omega
  have reaches :=
    @reaches_stored .positive (n <<< (23 - n.log2)) (0 - (23 - n.log2 : Nat)) (by omega) (by omega)
  rw [normalize_ofNat positive small]
  rwa [first] at reaches

theorem mul_parts_one {s : Sign} {m : Nat} {e : Int} (h : 0 < m) (bounds : InBounds m e) :
    UnpackedFloat.mul .binary32 (.finite s m e h) (parts (Float32.ofBits 0x3F800000)) =
      .finite s m e h := by
  have one : parts (Float32.ofBits 0x3F800000) = .finite .positive 8388608 (-23) (by decide) := rfl
  have sign : s * Sign.positive = s := by cases s <;> rfl
  have digits : m * 8388608 = m <<< 23 := (Nat.shiftLeft_eq m 23).symm
  rw [one]
  show roundWithAccuracy .binary32 (s * .positive) (m * 8388608) (e - (23 : Nat)) .exact = _
  rw [sign, digits, roundWithAccuracy_shiftLeft h bounds]

/-- A count of few digits is written in 64 bits first, and multiplied with a power of ten, which is
one. -/
theorem parts_ofNat_of_small {n : Nat} (small : n < 8388608) :
    parts (Float32.ofNat n) =
      stored (.mul .binary32 (stored (UnpackedFloat.normalize .binary32 n 0 .positive))
        (parts (Float32.ofBits 0x3F800000))) := by
  have fast : n < 8388608 ∧ 0 ≤ 10 := ⟨small, by decide⟩
  have same : n.toUInt64.toNat = n := by
    rw [Nat.toUInt64_eq, UInt64.toNat_ofNat']
    exact Nat.mod_eq_of_lt (by omega)
  show parts (Float32.ofScientific n false 0) = _
  rw [Float32.ofScientific, dif_pos fast]
  show stored (.mul _ (stored (.normalize .binary32 n.toUInt64.toNat 0 .positive)) _) = _
  rw [same]
  rfl

/-- The first digit of a count is not lost when it becomes a single-precision number. -/
theorem reaches_ofNat {n : Nat} (positive : 0 < n) : Reaches n.log2 (parts (Float32.ofNat n)) := by
  by_cases large : 8388608 ≤ n
  · have digits : (n <<< 24).log2 = n.log2 + 24 := log2_shiftLeft positive 24
    have first : ((n <<< 24).log2 : Int) + -24 = n.log2 := by
      rw [digits]
      omega
    have reaches := @reaches_stored .positive (n <<< 24) (-24) (by omega) (by omega)
    rw [parts_ofNat_of_large large]
    rwa [first] at reaches
  · have few : n.log2 < 23 := (Nat.log2_lt (by omega)).mpr (Nat.lt_of_not_le large)
    have reaches := reaches_normalize positive (by omega)
    rw [parts_ofNat_of_small (by omega)]
    -- Whatever was stored is in bounds, so that multiplying it with one does not change it.
    generalize hx : stored (UnpackedFloat.normalize .binary32 n 0 .positive) = x at reaches
    cases reaches with
    | infinite large => omega
    | finite h normal first =>
      have bounds := inBounds_of_unpack hx
      obtain ⟨t, same⟩ := stored_of_normal normal bounds.least bounds.greatest
      rw [mul_parts_one h bounds, same]
      exact .finite h normal first

/-! ## Quotients -/

/-- A quotient is computed to enough digits, rounded and stored. -/
theorem parts_div (x y : Float32) : parts (x / y) = stored (.div .binary32 (parts x) (parts y)) :=
  rfl

/-- A quotient is computed to as many digits as rounding needs, and then rounded. -/
theorem div_finite {s t : Sign} {m n shift : Nat} {e f exponent : Int} (h : 0 < m) (k : 0 < n)
    (hExponent : exponent =
      min (e - f) (max ((m.log2 + 1 + e) - (n.log2 + 1 + f) - 24) (-149)))
    (hShift : shift = (e - f - exponent).toNat) :
    UnpackedFloat.div .binary32 (.finite s m e h) (.finite t n f k) =
      roundWithAccuracy .binary32 (s / t) ((m <<< shift) / n) exponent
        (accuracyOfFraction ((m <<< shift) % n) n) := by
  rw [hShift, hExponent]
  rfl

/-- A number has one digit less than before when it is divided by two or more. -/
theorem isFinite_div_of_two_le {s t : Sign} {m n : Nat} {e f : Int} (h : 0 < m) (k : 0 < n)
    (bounds : InBounds m e) (normal : n.log2 = 23) (first : 1 ≤ (n.log2 : Int) + f) :
    (stored (.div .binary32 (.finite s m e h) (.finite t n f k))).isFinite = true := by
  obtain ⟨few, -, greatest, -⟩ := bounds
  rw [div_finite h k rfl rfl]
  generalize hExponent :
    min (e - f) (max ((m.log2 + 1 + e) - (n.log2 + 1 + f) - 24) (-149)) = exponent
  generalize hShift : (e - f - exponent).toNat = shift
  have lower : 8388608 ≤ n := ((Nat.log2_eq_iff (Nat.ne_of_gt k)).mp normal).1
  -- The divisor has 24 digits, so the quotient has 23 digits less than what is divided.
  have shorter : ((m <<< shift) / n).log2 ≤ m.log2 + shift - 23 := by
    rw [← log2_shiftLeft h, ← log2_shiftRight, Nat.shiftRight_eq_div_pow]
    exact log2_le_log2 (Nat.div_le_div_left lower (by decide))
  exact isFinite_stored_roundWithAccuracy (by omega) (by omega)

theorem div_parts_one {s : Sign} {m : Nat} {e : Int} (h : 0 < m) (bounds : InBounds m e) :
    UnpackedFloat.div .binary32 (.finite s m e h) (parts (Float32.ofNat 1)) = .finite s m e h := by
  obtain ⟨few, least, -, normal⟩ := id bounds
  have one : parts (Float32.ofNat 1) = .finite .positive 8388608 (-23) (by decide) := rfl
  have digits : Nat.log2 8388608 = 23 := rfl
  obtain ⟨n, exponent⟩ : ∃ n : Nat, e - n = max (m.log2 + e - 24) (-149) :=
    ⟨(e - max (m.log2 + e - 24) (-149)).toNat, by omega⟩
  have whole : m <<< (n + 23) = (m <<< n) * 8388608 := by
    rw [Nat.shiftLeft_add]
    exact Nat.shiftLeft_eq ..
  have sign : s / Sign.positive = s := by cases s <;> rfl
  have quotient := @div_finite s .positive m 8388608 (n + 23) e (-23) (e - n) h (by decide)
    (by omega) (by omega)
  rw [one, quotient, whole, Nat.mul_div_cancel _ (by decide), Nat.mul_mod_left, sign]
  exact roundWithAccuracy_shiftLeft h bounds n

/-- What is not finite does not become finite by dividing it. -/
theorem isFinite_of_isFinite_div {x y : Float32} (h : (x / y).isFinite = true) :
    x.isFinite = true := by
  have quotient {a b : UnpackedFloat} (h : (UnpackedFloat.div .binary32 a b).isFinite = true) :
      a.isFinite = true := by
    cases a with
    | zero => rfl
    | finite => rfl
    | notANumber => cases h
    | infinity s => cases b <;> cases h
  exact quotient (isFinite_of_isFinite_stored h)

/-- **The quotient by a count is finite** exactly if what is divided is. -/
theorem isFinite_div_ofNat {n : Nat} (positive : 0 < n) (x : Float32) :
    (x / Float32.ofNat n).isFinite = x.isFinite := by
  rw [Bool.eq_iff_iff]
  refine ⟨isFinite_of_isFinite_div, fun finite => ?_⟩
  rw [isFinite_eq] at finite
  rw [isFinite_eq, parts_div]
  have reaches := reaches_ofNat positive
  cases hx : parts x with
  | notANumber =>
    rw [hx] at finite
    cases finite
  | infinity s =>
    rw [hx] at finite
    cases finite
  | zero s =>
    -- A zero divided by anything but zero is a zero.
    generalize parts (Float32.ofNat n) = count at reaches
    cases reaches <;> exact congrArg UnpackedFloat.isFinite (stored_zero _)
  | finite s m e h =>
    have bounds := inBounds_of_parts hx
    -- One is the only count that makes no number smaller, but it does not change it either.
    by_cases one : n = 1
    · rw [one, div_parts_one h bounds]
      exact isFinite_stored bounds.greatest
    · have two : 1 ≤ n.log2 := (Nat.le_log2 (by omega)).mpr (by omega)
      generalize parts (Float32.ofNat n) = count at reaches
      cases reaches with
      | infinite large => exact congrArg UnpackedFloat.isFinite (stored_zero _)
      | finite k normal first => exact isFinite_div_of_two_le h k bounds normal (by omega)

/-- The quotient of a number by a count that is not too large is a number. -/
theorem isNaN_div_ofNat {n : Nat} (positive : 0 < n) (counted : n < UInt64.size) {x : Float32}
    (hx : x.isNaN = false) : (x / Float32.ofNat n).isNaN = false := by
  rw [isNaN_eq] at hx ⊢
  have few : n.log2 < 64 := (Nat.log2_lt (by omega)).mpr counted
  have reaches := reaches_ofNat positive
  rw [parts_div, isNaN_stored]
  generalize parts (Float32.ofNat n) = count at reaches
  cases reaches with
  | infinite large => omega
  | finite h normal first =>
    cases px : parts x with
    | notANumber =>
      rw [px] at hx
      cases hx
    | infinity s => rfl
    | zero s => rfl
    | finite s m e k => exact isNaN_roundWithAccuracy ..

end TextVec.Single
