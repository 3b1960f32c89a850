/-!
# Stored doubles

A double-precision number as its 64 bits. Keeping the bits means that a number that is only stored
and written out again comes back as it was, the sign and payload of a NaN included.
-/

namespace TextVec

/-- A double-precision number by its bits. -/
structure Double where
  bits : UInt64
  deriving DecidableEq, Repr, Inhabited

namespace Double

def ofFloat (x : Float) : Double := ⟨x.toBits⟩

def toFloat (x : Double) : Float := Float.ofBits x.bits

def zero : Double := ⟨0⟩
def one : Double := ⟨0x3FF0000000000000⟩
def negZero : Double := ⟨0x8000000000000000⟩
def infinity : Double := ⟨0x7FF0000000000000⟩
def negInfinity : Double := ⟨0xFFF0000000000000⟩
def nan : Double := ⟨0x7FF8000000000000⟩

/-- The NaN that an operation without a value gives, such as infinity less infinity. -/
def invalid : Double := ⟨0xFFF8000000000000⟩

def isNegative (x : Double) : Bool := x.bits >>> 63 == 1

/-- The bits without the sign. -/
def magnitude (x : Double) : UInt64 := x.bits &&& 0x7FFFFFFFFFFFFFFF

def isNaN (x : Double) : Bool := x.magnitude > infinity.bits

def isInfinite (x : Double) : Bool := x.magnitude == infinity.bits

def isFinite (x : Double) : Bool := x.magnitude < infinity.bits

def neg (x : Double) : Double := ⟨x.bits ^^^ 0x8000000000000000⟩

/-- The same number, where of all NaNs only one is left. -/
def withOneNaN (x : Double) : Double := if x.isNaN then nan else x

/-- A NaN with its quiet bit set. -/
def quiet (x : Double) : Double := ⟨x.bits ||| 0x0008000000000000⟩

/-- An operation on two numbers: the first NaN among the operands is the result. -/
def combine (op : Float → Float → Float) (x y : Double) : Double :=
  if x.isNaN then x.quiet
  else if y.isNaN then y.quiet
  else
    let r := op x.toFloat y.toFloat
    if r.isNaN then invalid else ofFloat r

def add : Double → Double → Double := combine (· + ·)
def sub : Double → Double → Double := combine (· - ·)
def mul : Double → Double → Double := combine (· * ·)
def div : Double → Double → Double := combine (· / ·)

/-- The square root. -/
def sqrt (x : Double) : Double := combine (fun a _ => a.sqrt) x x

/-- Equality of numbers: any NaN equals any other, and the two zeros are equal. -/
def same (x y : Double) : Bool :=
  if x.isNaN || y.isNaN then x.isNaN && y.isNaN
  else x.bits == y.bits || (x.magnitude == 0 && y.magnitude == 0)

theorem withOneNaN_withOneNaN (x : Double) : x.withOneNaN.withOneNaN = x.withOneNaN := by
  unfold withOneNaN
  by_cases h : x.isNaN = true
  · rw [if_pos h]
    exact if_pos (by decide)
  · rw [if_neg h, if_neg h]

theorem same_refl (x : Double) : x.same x = true := by
  simp [same]

/-- Two numbers are the same if both are NaNs, or neither is and they have the same bits or are
zeros. -/
theorem same_eq_true_iff {x y : Double} :
    x.same y = true ↔
      x.isNaN = true ∧ y.isNaN = true ∨
        x.isNaN = false ∧ y.isNaN = false ∧ (x = y ∨ x.magnitude = 0 ∧ y.magnitude = 0) := by
  have bits : x.bits = y.bits ↔ x = y := by
    obtain ⟨_⟩ := x
    obtain ⟨_⟩ := y
    simp
  unfold same
  cases x.isNaN <;> cases y.isNaN <;> simp [bits]

theorem same_symm {x y : Double} (h : x.same y = true) : y.same x = true := by
  rw [same_eq_true_iff] at h ⊢
  rcases h with ⟨hx, hy⟩ | ⟨hx, hy, rfl | ⟨zeroX, zeroY⟩⟩
  · exact .inl ⟨hy, hx⟩
  · exact .inr ⟨hy, hx, .inl rfl⟩
  · exact .inr ⟨hy, hx, .inr ⟨zeroY, zeroX⟩⟩

theorem same_trans {x y z : Double} (h : x.same y = true) (k : y.same z = true) :
    x.same z = true := by
  rw [same_eq_true_iff] at h k ⊢
  rcases h with ⟨hx, hy⟩ | ⟨hx, hy, same⟩
  · rcases k with ⟨-, hz⟩ | ⟨hy', -, -⟩
    · exact .inl ⟨hx, hz⟩
    · rw [hy] at hy'
      cases hy'
  · rcases k with ⟨hy', -⟩ | ⟨-, hz, same'⟩
    · rw [hy] at hy'
      cases hy'
    · refine .inr ⟨hx, hz, ?_⟩
      rcases same with rfl | ⟨zeroX, zeroY⟩
      · exact same'
      · rcases same' with rfl | ⟨-, zeroZ⟩
        · exact .inr ⟨zeroX, zeroY⟩
        · exact .inr ⟨zeroX, zeroZ⟩

end Double

end TextVec
