import TextVec.Binary.Codec

/-!
# Readers and the bytes they take

A reader looks at no bytes but those it takes: whether it finds a value, and which one, is decided
by some front of the bytes, and whatever follows that front is left as it is. Readers that are put
together from such readers are of the same sort. So no part of what a value is read from is a value,
if anything of it is missing at the end.
-/

namespace TextVec.Binary

variable {α β : Type}

/-- A reader that finds a value exactly if some front of the bytes is read as that value to its end,
and then leaves what follows. -/
def TakesFront (take : Reader α) : Prop :=
  ∀ bytes x rest, take bytes = some (x, rest) ↔
    ∃ front, bytes = front ++ rest ∧ take front = some (x, [])

/-- Bytes begin with a value if some front of them is read as that value to its end. -/
def Begins (take : Reader α) (bytes : Bytes) (x : α) : Prop :=
  ∃ front rest, bytes = front ++ rest ∧ take front = some (x, [])

namespace TakesFront

/-! ## How readers are put together -/

theorem done (x : α) : TakesFront fun bytes => some (x, bytes) := by
  intro bytes y rest
  simp only [Option.some.injEq, Prod.mk.injEq]
  constructor
  · rintro ⟨rfl, rfl⟩
    exact ⟨[], rfl, rfl, rfl⟩
  · rintro ⟨front, rfl, rfl, rfl⟩
    exact ⟨rfl, rfl⟩

theorem fail : TakesFront (fun _ => none : Reader α) := by
  intro bytes x rest
  simp

/-- A reader and then another one, which may depend on what the first has found. -/
theorem bind {take : Reader α} {k : α → Reader β} (first : TakesFront take)
    (second : ∀ a, TakesFront (k a)) :
    TakesFront fun bytes => (take bytes).bind fun (a, rest) => k a rest := by
  intro bytes y rest
  simp only [Option.bind_eq_some_iff]
  constructor
  · rintro ⟨⟨a, middle⟩, hFirst, hSecond⟩
    -- What both have taken is a front too.
    obtain ⟨front, rfl, whole⟩ := (first _ _ _).mp hFirst
    obtain ⟨back, rfl, wholeBack⟩ := (second a _ _ _).mp hSecond
    refine ⟨front ++ back, by rw [List.append_assoc], (a, back), ?_, wholeBack⟩
    exact (first _ _ _).mpr ⟨front, rfl, whole⟩
  · rintro ⟨taken, rfl, ⟨a, back⟩, hFirst, hSecond⟩
    obtain ⟨front, rfl, whole⟩ := (first _ _ _).mp hFirst
    refine ⟨(a, back ++ rest), ?_, ?_⟩
    · exact (first _ _ _).mpr ⟨front, by rw [List.append_assoc], whole⟩
    · exact (second a _ _ _).mpr ⟨back, rfl, hSecond⟩

theorem map {take : Reader α} (h : TakesFront take) (f : α → β) :
    TakesFront fun bytes => (take bytes).map fun (a, rest) => (f a, rest) := by
  have same (bytes : Bytes) : ((take bytes).map fun (a, rest) => (f a, rest)) =
      (take bytes).bind fun (a, rest) => some (f a, rest) := by
    cases take bytes <;> rfl
  simp only [same]
  exact h.bind fun a => done (f a)

/-- A value that may be missing, which no byte decides. -/
theorem ofOption (value : Option α) (f : α → β) :
    TakesFront fun bytes => value.bind fun a => some (f a, bytes) := by
  cases value with
  | none => exact fail
  | some a => exact done (f a)

/-- A reader whose first byte decides how it goes on, and which needs one. -/
theorem cons {take : Reader α} (nothing : take [] = none)
    (h : ∀ b, TakesFront fun rest => take (b :: rest)) : TakesFront take := by
  intro bytes x rest
  cases bytes with
  | nil =>
    -- No front of no bytes is a value either.
    simp only [nothing, reduceCtorEq, false_iff]
    rintro ⟨front, empty, whole⟩
    rw [(List.append_eq_nil_iff.mp empty.symm).1, nothing] at whole
    cases whole
  | cons b others =>
    rw [h b others x rest]
    constructor
    · rintro ⟨front, rfl, whole⟩
      exact ⟨b :: front, rfl, whole⟩
    · rintro ⟨front, split, whole⟩
      cases front with
      | nil =>
        rw [nothing] at whole
        cases whole
      | cons c front =>
        cases split
        exact ⟨front, rfl, whole⟩

/-! ## What follows, and what is cut short -/

/-- Bytes begin with what the reader finds in them. -/
theorem begins_iff {take : Reader α} (h : TakesFront take) {bytes : Bytes} {x : α} :
    Begins take bytes x ↔ ∃ rest, take bytes = some (x, rest) := by
  constructor
  · rintro ⟨front, rest, rfl, whole⟩
    exact ⟨rest, (h _ _ _).mpr ⟨front, rfl, whole⟩⟩
  · rintro ⟨rest, taken⟩
    obtain ⟨front, split, whole⟩ := (h _ _ _).mp taken
    exact ⟨front, rest, split, whole⟩

/-- Bytes begin with one value at most. -/
theorem eq_of_begins {take : Reader α} (h : TakesFront take) {bytes : Bytes} {x y : α}
    (hx : Begins take bytes x) (hy : Begins take bytes y) : x = y := by
  obtain ⟨_, takenX⟩ := h.begins_iff.mp hx
  obtain ⟨_, takenY⟩ := h.begins_iff.mp hy
  rw [takenX, Option.some.injEq, Prod.mk.injEq] at takenY
  exact takenY.1

/-- What follows the front of a value does not matter. -/
theorem append {take : Reader α} (h : TakesFront take) {front : Bytes} {x : α}
    (whole : take front = some (x, [])) (rest : Bytes) : take (front ++ rest) = some (x, rest) :=
  (h _ _ _).mpr ⟨front, rfl, whole⟩

/-- The bytes of a value are no value any more if some are missing at the end. -/
theorem eq_none_of_prefix {take : Reader α} (h : TakesFront take) {whole cut : Bytes} {x : α}
    (read : take whole = some (x, [])) (front : cut <+: whole) (short : cut ≠ whole) :
    take cut = none := by
  obtain ⟨missing, rfl⟩ := front
  cases taken : take cut with
  | none => rfl
  | some found =>
    -- Had a value been found, it would be found with the missing bytes behind it, and leave them.
    obtain ⟨y, rest⟩ := found
    obtain ⟨start, rfl, whole⟩ := (h _ _ _).mp taken
    have more := h.append whole (rest ++ missing)
    rw [← List.append_assoc, read, Option.some.injEq, Prod.mk.injEq] at more
    obtain ⟨-, nothing⟩ := more
    rw [(List.append_eq_nil_iff.mp nothing.symm).2, List.append_nil] at short
    exact absurd rfl short

end TakesFront

/-! ## The readers of the format -/

/-- A number of bytes is taken whole, or not at all. -/
theorem takesFront_takeBytes (count : Nat) : TakesFront (takeBytes count) := by
  intro bytes x rest
  constructor
  · intro taken
    unfold takeBytes at taken
    split at taken
    · rename_i enough
      cases taken
      have exact : (bytes.take count).length = count := List.length_take_of_le enough
      have whole := takeBytes_append (bytes.take count) []
      rw [List.append_nil, exact] at whole
      exact ⟨bytes.take count, (List.take_append_drop count bytes).symm, whole⟩
    · cases taken
  · rintro ⟨front, rfl, whole⟩
    unfold takeBytes at whole
    split at whole
    · rename_i enough
      simp only [Option.some.injEq, Prod.mk.injEq, List.drop_eq_nil_iff] at whole
      -- The front has as many bytes as were asked for, neither fewer nor more.
      have length : front.length = count := Nat.le_antisymm whole.2 enough
      rw [← whole.1, ← length, List.take_length]
      exact takeBytes_append front rest
    · cases whole

theorem takesFront_takeWord (width : Nat) : TakesFront (takeWord width) :=
  (takesFront_takeBytes width).map ofLittleEndian

/-- A number has one byte, or a mark and then as many bytes as that says. -/
theorem takesFront_takeNat (width : Nat) : TakesFront (takeNat width) := by
  refine .cons rfl fun mark => ?_
  -- The mark is the number itself, or it says how many bytes the number has.
  simp only [takeNat]
  split
  · exact .done mark.toNat
  · split
    · exact takesFront_takeWord 2
    · split
      · exact takesFront_takeWord 4
      · split
        · exact takesFront_takeWord 8
        · exact .fail

theorem takesFront_takeUInt16 : TakesFront takeUInt16 := (takesFront_takeNat 2).map UInt16.ofNat

theorem takesFront_takeUInt64 : TakesFront takeUInt64 := (takesFront_takeNat 8).map UInt64.ofNat

theorem takesFront_takeDouble : TakesFront takeDouble :=
  (takesFront_takeWord 8).map fun n => Double.mk (UInt64.ofNat n)

theorem takesFront_takeBool : TakesFront takeBool := by
  refine .cons rfl fun mark => ?_
  by_cases no : mark = 0
  · subst no
    exact .done false
  · by_cases yes : mark = 1
    · subst yes
      exact .done true
    · have other (rest : Bytes) : takeBool (mark :: rest) = none := by
        unfold takeBool
        split <;> simp_all
      simp only [other]
      exact .fail

/-- What may be missing has a truth value before it. -/
theorem takesFront_takeOption {take : Reader α} (h : TakesFront take) :
    TakesFront (takeOption take) := by
  -- The truth value decides which of two readers goes on.
  have present (present : Bool) : TakesFront fun bytes =>
      if present then (take bytes).bind fun (x, rest) => some (some x, rest)
      else some (none, bytes) := by
    cases present with
    | false => exact .done none
    | true => exact h.bind fun x => .done (some x)
  exact takesFront_takeBool.bind present

theorem takesFront_takeCounted : TakesFront takeCounted :=
  (takesFront_takeNat 8).bind fun count => takesFront_takeBytes count

theorem takesFront_takeText : TakesFront takeText :=
  takesFront_takeCounted.bind fun content => .ofOption (Text.ofUtf8? content) id

theorem takesFront_takeMany {take : Reader α} (h : TakesFront take) (count : Nat) :
    TakesFront (takeMany take count) := by
  -- On how many are asked for, since each of them is read where the one before it ended.
  induction count with
  | zero => exact .done []
  | succ count ih => exact h.bind fun x => ih.bind fun xs => .done (x :: xs)

theorem takesFront_takeList {take : Reader α} (h : TakesFront take) : TakesFront (takeList take) :=
  (takesFront_takeNat 8).bind fun count => takesFront_takeMany h count

end TextVec.Binary
