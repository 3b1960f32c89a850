import TextVec.Binary.Codec

/-!
# Reading back the binary format

Every reader takes off the front of bytes exactly what its writer put there, whatever follows. The
count before a text or a list has 64 bits, so what is written must have a length of 64 bits, as
everything that fits in memory has.
-/

namespace TextVec.Binary

variable {α : Type}

/-! ## Numbers -/

theorem toNat_ofNat_of_le {n : Nat} (h : n ≤ 250) : (UInt8.ofNat n).toNat = n := by
  rw [UInt8.toNat_ofNat']
  omega

/-- How many numbers there are of each width. -/
theorem pow_widths :
    Nat.pow 256 2 = Nat.pow 2 16 ∧ Nat.pow 256 4 = Nat.pow 2 32 ∧ Nat.pow 256 8 = UInt64.size ∧
      Nat.pow 2 16 ≤ Nat.pow 2 32 ∧ Nat.pow 2 32 ≤ UInt64.size := by
  decide

/-- A number is read back by every reader that is wide enough for it. -/
theorem takeNat_putNat {width n : Nat} (allowed : width = 2 ∨ width = 4 ∨ width = 8)
    (h : n < Nat.pow 256 width) (rest : Bytes) :
    takeNat width (putNat n ++ rest) = some (n, rest) := by
  have bounds := pow_widths
  unfold putNat
  split
  · -- one byte, which is the number itself
    have small := toNat_ofNat_of_le (by assumption : n ≤ 250)
    have mark : UInt8.ofNat n ≤ 250 := by
      rw [UInt8.le_iff_toNat_le, small]
      assumption
    simp [takeNat, mark, small]
  · split
    · -- two bytes, which every reader takes
      have fits : n < Nat.pow 256 2 := by omega
      simp [takeNat, takeWord_littleEndian fits]
    · split
      · -- four bytes are written only if two are too few, and then the reader is wider than that
        have wide : 4 ≤ width := by
          rcases allowed with rfl | rfl | rfl <;> omega
        have fits : n < Nat.pow 256 4 := by omega
        simp [takeNat, wide, takeWord_littleEndian fits]
      · -- eight bytes, which only the widest reader needs
        have wide : 8 ≤ width := by
          rcases allowed with rfl | rfl | rfl <;> omega
        have fits : n < Nat.pow 256 8 := by
          rcases allowed with rfl | rfl | rfl <;> omega
        simp [takeNat, wide, takeWord_littleEndian fits]

theorem takeUInt16_putUInt16 (n : UInt16) (rest : Bytes) :
    takeUInt16 (putUInt16 n ++ rest) = some (n, rest) := by
  have fits : n.toNat < Nat.pow 256 2 := n.toNat_lt
  simp [takeUInt16, putUInt16, takeNat_putNat (.inl rfl) fits]

theorem takeUInt64_putUInt64 (n : UInt64) (rest : Bytes) :
    takeUInt64 (putUInt64 n ++ rest) = some (n, rest) := by
  have fits : n.toNat < Nat.pow 256 8 := n.toNat_lt
  simp [takeUInt64, putUInt64, takeNat_putNat (.inr (.inr rfl)) fits]

theorem takeBool_putBool (b : Bool) (rest : Bytes) :
    takeBool (putBool b ++ rest) = some (b, rest) := by
  cases b <;> rfl

theorem takeDouble_putDouble (x : Double) (rest : Bytes) :
    takeDouble (putDouble x ++ rest) = some (x, rest) := by
  have fits : x.bits.toNat < Nat.pow 256 8 := x.bits.toNat_lt
  simp [takeDouble, putDouble, takeWord_littleEndian fits]

/-! ## Texts and bytes -/

theorem length_le_length_putBytes (bytes : Bytes) : bytes.length ≤ (putBytes bytes).length := by
  simp [putBytes]

theorem takeCounted_putBytes {bytes : Bytes} (h : (putBytes bytes).length < UInt64.size)
    (rest : Bytes) : takeCounted (putBytes bytes ++ rest) = some (bytes, rest) := by
  have fits : bytes.length < Nat.pow 256 8 := Nat.lt_of_le_of_lt (length_le_length_putBytes bytes) h
  simp [takeCounted, putBytes, takeNat_putNat (.inr (.inr rfl)) fits, takeBytes_append]

theorem takeText_putText {text : String} (h : (putText text).length < UInt64.size) (rest : Bytes) :
    takeText (putText text ++ rest) = some (text, rest) := by
  simp [takeText, putText, takeCounted_putBytes h, Text.ofUtf8?_toUtf8]

/-! ## Options and lists -/

/-- What may be missing is read back if it is where it is there. -/
theorem takeOption_putOption {put : α → Bytes} {take : Reader α} {value : Option α} {rest : Bytes}
    (h : ∀ x, value = some x → take (put x ++ rest) = some (x, rest)) :
    takeOption take (putOption put value ++ rest) = some (value, rest) := by
  cases value with
  | none => simp [takeOption, putOption, takeBool]
  | some x => simp [takeOption, putOption, takeBool, h x rfl]

/-- Values one after the other are read back if each of them is. -/
theorem takeMany_flatMap {put : α → Bytes} {take : Reader α} {xs : List α}
    (h : ∀ x rest, x ∈ xs → take (put x ++ rest) = some (x, rest)) (rest : Bytes) :
    takeMany take xs.length (xs.flatMap put ++ rest) = some (xs, rest) := by
  induction xs with
  | nil => rfl
  | cons x xs ih =>
    -- The first reader stops where the other values begin, whatever comes after those.
    have first := h x (xs.flatMap put ++ rest) (List.mem_cons_self ..)
    have others := ih fun y rest hy => h y rest (List.mem_cons_of_mem _ hy)
    simp [takeMany, first, others]

/-- Values that take at least a byte each are not more than the bytes they take. -/
theorem length_le_length_flatMap {put : α → Bytes} (xs : List α) (h : ∀ x, 0 < (put x).length) :
    xs.length ≤ (xs.flatMap put).length := by
  induction xs with
  | nil => simp
  | cons x xs ih =>
    have := h x
    simp only [List.flatMap_cons, List.length_append, List.length_cons]
    omega

/-- Lists are read back, if no value takes no bytes. -/
theorem takeList_putList {put : α → Bytes} {take : Reader α} {xs : List α}
    (positive : ∀ x, 0 < (put x).length)
    (h : ∀ x rest, x ∈ xs → take (put x ++ rest) = some (x, rest))
    (bound : (putList put xs).length < UInt64.size) (rest : Bytes) :
    takeList take (putList put xs ++ rest) = some (xs, rest) := by
  -- Only the bytes are known to be few; that the values are not more is what `positive` is for.
  have fits : xs.length < Nat.pow 256 8 := by
    have bounds := pow_widths
    have := length_le_length_flatMap xs positive
    simp only [putList, List.length_append] at bound
    omega
  simp [takeList, putList, takeNat_putNat (.inr (.inr rfl)) fits, takeMany_flatMap h]

end TextVec.Binary
