import TextVec.Json
import TextVec.Number.Decimal
import TextVec.Proofs.Number.Nearest

/-!
# Numerals in JSON lines

What a finite number is written as in a JSON line is a number of JSON, whatever its digits and its
exponent are, and read again it is nearer to that number than to any other. Digits are laid out in
one of three ways; the grammar of JSON and the reading of numerals are both decided by these alone.
-/

namespace TextVec

/-! ## Numbers of JSON -/

namespace Json

/-- Digits, of which there is at least one. -/
structure IsDigits (cs : List Char) : Prop where
  /-- There is one at least. -/
  notNil : cs ≠ []
  /-- All of them are digits. -/
  digits : ∀ c ∈ cs, c.isDigit = true

/-- The digits before the point, the first of which is not zero unless it is the only one. -/
inductive IsWhole : List Char → Prop where
  /-- A zero alone. -/
  | zero : IsWhole ['0']
  /-- Digits that do not begin with a zero. -/
  | digits {first : Char} {rest : List Char} (notZero : first ≠ '0')
    (h : IsDigits (first :: rest)) : IsWhole (first :: rest)

/-- A point and the digits after it, if there are any. -/
inductive IsFraction : List Char → Prop where
  /-- No point. -/
  | none : IsFraction []
  /-- A point with a digit at least behind it. -/
  | digits {cs : List Char} (h : IsDigits cs) : IsFraction ('.' :: cs)

/-- An exponent, which may have a sign, if there is one. -/
inductive IsExponent : List Char → Prop where
  /-- No exponent. -/
  | none : IsExponent []
  /-- A mark, perhaps a sign, and a digit at least. -/
  | digits {mark : Char} {sign cs : List Char} (hMark : mark = 'e' ∨ mark = 'E')
    (hSign : sign = [] ∨ sign = ['+'] ∨ sign = ['-']) (h : IsDigits cs) :
    IsExponent (mark :: (sign ++ cs))

/-- A number without a sign. -/
def IsMagnitude (cs : List Char) : Prop :=
  ∃ whole fraction exponent, cs = whole ++ fraction ++ exponent ∧
    IsWhole whole ∧ IsFraction fraction ∧ IsExponent exponent

/-- A number as JSON has it. -/
def IsNumber (text : String) : Prop :=
  IsMagnitude text.toList ∨ ∃ magnitude, text.toList = '-' :: magnitude ∧ IsMagnitude magnitude

end Json

open Json

/-! ## Digits -/

theorem isDigits_toDigits (n : Nat) : IsDigits (Nat.toDigits 10 n) where
  notNil := Nat.toDigits_ne_nil
  digits _ member := Nat.isDigit_of_mem_toDigits (by decide) (by decide) member

/-- The first digit of a number that is not zero is not zero. -/
theorem head?_toDigits_ne {n : Nat} (positive : 0 < n) :
    (Nat.toDigits 10 n).head? ≠ some '0' := by
  induction n using Nat.strongRecOn with
  | ind n ih =>
    rw [Nat.toDigits_eq_if (by decide)]
    split
    · rename_i small
      have digit : ∀ d < 10, 0 < d → Nat.digitChar d ≠ '0' := by decide
      simpa using digit n small positive
    · -- The first digit is that of the number without its last digit.
      have before := ih (n / 10) (by omega) (by omega)
      rwa [List.head?_append, Option.or_of_isSome]
      simp

theorem isDigit_of_mem_zeros {n : Nat} : ∀ c ∈ List.replicate n '0', c.isDigit = true := by
  intro c member
  rw [List.eq_of_mem_replicate member]
  rfl

theorem isDigits_zero : IsDigits ['0'] := ⟨List.cons_ne_nil _ _, @isDigit_of_mem_zeros 1⟩

section Parts

variable {first : Char} {rest : List Char}

/-- The first digits, with zeros if there are too few of them. -/
theorem isWhole_padded (notZero : first ≠ '0') (digits : IsDigits (first :: rest)) (n : Nat) :
    IsWhole ((first :: rest).take (n + 1) ++
      List.replicate (n + 1 - (first :: rest).length) '0') := by
  rw [List.take_succ_cons, List.cons_append]
  refine .digits notZero ⟨List.cons_ne_nil _ _, ?_⟩
  obtain ⟨here, others⟩ := List.forall_mem_cons.mp digits.digits
  exact List.forall_mem_cons.mpr ⟨here, List.forall_mem_append.mpr
    ⟨fun c member => others c (List.mem_of_mem_take member), isDigit_of_mem_zeros⟩⟩

/-- The digits that are left, or a zero if there are none. -/
theorem isDigits_dropped (digits : IsDigits (first :: rest)) (n : Nat) :
    IsDigits (if ((first :: rest).drop n).isEmpty then ['0'] else (first :: rest).drop n) := by
  split
  · exact isDigits_zero
  · rename_i some
    exact ⟨by simpa using some, fun c member => digits.digits c (List.mem_of_mem_drop member)⟩

/-- The digits after the first one, if there are any. -/
theorem isFraction_rest (digits : IsDigits (first :: rest)) :
    IsFraction (if rest.isEmpty then [] else '.' :: rest) := by
  split
  · exact .none
  · rename_i some
    exact .digits ⟨by simpa using some, (List.forall_mem_cons.mp digits.digits).2⟩

/-- The exponent that is written is one of JSON. -/
theorem isExponent_write {layout : NumeralLayout}
    (sign : layout.positive = "" ∨ layout.positive = "+") (place : Int) :
    IsExponent ('e' :: ((if place < 0 then ['-'] else layout.positive.toList) ++
      Nat.toDigits 10 place.natAbs)) := by
  refine .digits (.inl rfl) ?_ (isDigits_toDigits _)
  split
  · exact .inr (.inr rfl)
  · rcases sign with none | plus
    · exact .inl (by rw [none]; rfl)
    · exact .inr (.inl (by rw [plus]; rfl))

end Parts

/-! ## Reading digits -/

/-- Digits are read as the library reads them. -/
theorem natOfDigits_eq (cs : List Char) : natOfDigits cs = Nat.ofDigitChars 10 cs 0 := by
  unfold natOfDigits Nat.ofDigitChars
  congr
  funext n c
  rw [Nat.mul_comm]

/-- What was written is read as the number that was written. -/
theorem natOfDigits_toDigits (n : Nat) : natOfDigits (Nat.toDigits 10 n) = n := by
  rw [natOfDigits_eq, Nat.ofDigitChars_ten_toDigits]

/-- The digits in front count for more, by as many places as are behind them. -/
theorem natOfDigits_append (cs ds : List Char) :
    natOfDigits (cs ++ ds) = natOfDigits cs * Nat.pow 10 ds.length + natOfDigits ds := by
  rw [natOfDigits_eq, natOfDigits_eq, natOfDigits_eq, Nat.ofDigitChars_append,
    Nat.ofDigitChars_eq_ofDigitChars_zero, Nat.mul_comm]
  rfl

theorem natOfDigits_zeros (n : Nat) : natOfDigits (List.replicate n '0') = 0 := by
  rw [natOfDigits_eq, Nat.ofDigitChars_replicate_zero, Nat.mul_zero]

/-- What is read in front of something that does not go on with a digit. -/
theorem span_digits {cs rest : List Char} (digits : ∀ c ∈ cs, c.isDigit = true)
    (stop : ∀ c ∈ rest.head?, c.isDigit = false) :
    (cs ++ rest).takeWhile Char.isDigit = cs ∧ (cs ++ rest).dropWhile Char.isDigit = rest := by
  -- Digit by digit, until something else comes.
  induction cs with
  | nil =>
    cases rest with
    | nil => exact ⟨rfl, rfl⟩
    | cons c rest =>
      have other : ¬ c.isDigit = true := by simp [stop c rfl]
      exact ⟨List.takeWhile_cons_of_neg other, List.dropWhile_cons_of_neg other⟩
  | cons c cs ih =>
    obtain ⟨here, others⟩ := List.forall_mem_cons.mp digits
    obtain ⟨taken, dropped⟩ := ih others
    rw [List.cons_append, List.takeWhile_cons_of_pos here, List.dropWhile_cons_of_pos here, taken,
      dropped]
    exact ⟨rfl, rfl⟩

theorem takeSign_of_isDigit {c : Char} (digit : c.isDigit = true) (more : List Char) :
    takeSign (c :: more) = (false, c :: more) := by
  unfold takeSign
  split
  · rename_i same
    cases same
    cases digit
  · rename_i same
    cases same
    cases digit
  · rfl

theorem takeSign_digits {cs : List Char} (digits : IsDigits cs) : takeSign cs = (false, cs) := by
  cases cs with
  | nil => exact absurd rfl digits.notNil
  | cons c more => exact takeSign_of_isDigit (digits.digits c (List.mem_cons_self ..)) more

theorem toLower_of_isDigit {c : Char} (digit : c.isDigit = true) : c.toLower = c := by
  unfold Char.isDigit at digit
  rw [Bool.and_eq_true, decide_eq_true_eq, decide_eq_true_eq] at digit
  unfold Char.toLower
  refine dif_neg fun capital => ?_
  exact absurd (UInt32.le_trans capital.1 digit.2) (by decide)

namespace Decimal

section Unsigned

variable {whole fraction rest : List Char} (hWhole : IsDigits whole) (negative : Bool)

include hWhole

/-- Digits without a point are read as the number that they write. -/
theorem readUnsigned?_whole (stop : ∀ c ∈ rest.head?, c.isDigit = false ∧ c ≠ '.') :
    readUnsigned? negative (whole ++ rest) = (readExponent? rest).map fun exponent =>
      ⟨negative, natOfDigits whole, exponent⟩ := by
  obtain ⟨taken, dropped⟩ := span_digits hWhole.digits fun c h => (stop c h).1
  have some : whole.isEmpty = false := by simpa using hWhole.notNil
  unfold readUnsigned?
  simp only [taken, dropped]
  cases rest with
  | nil => simp [some]
  | cons c rest =>
    have notPoint := (stop c rfl).2
    simp [some, notPoint]

/-- Every digit behind a point makes the number that all digits write ten times smaller. -/
theorem readUnsigned?_point (hFraction : ∀ c ∈ fraction, c.isDigit = true)
    (stop : ∀ c ∈ rest.head?, c.isDigit = false) :
    readUnsigned? negative (whole ++ '.' :: (fraction ++ rest)) =
      (readExponent? rest).map fun exponent =>
        ⟨negative, natOfDigits (whole ++ fraction), exponent - fraction.length⟩ := by
  have point : ∀ c ∈ ('.' :: (fraction ++ rest)).head?, c.isDigit = false := by simp
  obtain ⟨taken, dropped⟩ := span_digits hWhole.digits point
  obtain ⟨takenBehind, droppedBehind⟩ := span_digits hFraction stop
  have some : whole.isEmpty = false := by simpa using hWhole.notNil
  unfold readUnsigned?
  simp only [taken, dropped, takenBehind, droppedBehind, some, Bool.false_and, Bool.false_eq_true,
    if_false]

/-- With nothing behind the digits, the exponent is the one of the fraction. -/
theorem readUnsigned?_plain (hFraction : ∀ c ∈ fraction, c.isDigit = true) :
    readUnsigned? negative (whole ++ '.' :: fraction) =
      some ⟨negative, natOfDigits (whole ++ fraction), -fraction.length⟩ := by
  have noExponent : readExponent? [] = some 0 := rfl
  have nothing : ∀ c ∈ ([] : List Char).head?, c.isDigit = false := by simp
  have read := readUnsigned?_point hWhole negative hFraction nothing
  rwa [List.append_nil, noExponent, Option.map_some, Int.zero_sub] at read

end Unsigned

end Decimal

namespace NumeralLayout

/-- An exponent that is written is read again. -/
theorem readExponent?_write {layout : NumeralLayout}
    (sign : layout.positive = "" ∨ layout.positive = "+") (place : Int) :
    Decimal.readExponent? ('e' :: ((if place < 0 then ['-'] else layout.positive.toList) ++
      Nat.toDigits 10 place.natAbs)) = some place := by
  have digits := isDigits_toDigits place.natAbs
  have some : (Nat.toDigits 10 place.natAbs).isEmpty = false := by simp
  have all : (Nat.toDigits 10 place.natAbs).all Char.isDigit = true :=
    List.all_eq_true.mpr digits.digits
  -- A negative exponent has its sign, and others have the one of the layout or none.
  have taken : takeSign ((if place < 0 then ['-'] else layout.positive.toList) ++
      Nat.toDigits 10 place.natAbs) = (decide (place < 0), Nat.toDigits 10 place.natAbs) := by
    by_cases negative : place < 0
    · rw [if_pos negative, decide_eq_true negative]
      rfl
    · rw [if_neg negative, decide_eq_false negative]
      rcases sign with none | plus
      · rw [none]
        exact takeSign_digits digits
      · rw [plus]
        rfl
  unfold Decimal.readExponent?
  simp only [taken, some, all, natOfDigits_toDigits]
  by_cases negative : place < 0
  · rw [decide_eq_true negative]
    exact congrArg Option.some (show -(place.natAbs : Int) = place by omega)
  · rw [decide_eq_false negative]
    exact congrArg Option.some (show (place.natAbs : Int) = place by omega)

/-! ## Layouts -/

/-- The three ways in which digits are laid out, the first of which has the given place. -/
inductive Written (layout : NumeralLayout) (first : Char) (rest : List Char) (place : Int) :
    List Char → Prop where
  /-- A zero and all digits behind the point. -/
  | small (negative : place < 0) : Written layout first rest place
      (['0'] ++ '.' :: (List.replicate (-place - 1).toNat '0' ++ first :: rest))
  /-- As many digits before the point as the place says. -/
  | positional (notNegative : 0 ≤ place) : Written layout first rest place
      ((first :: rest).take (place.toNat + 1) ++
        List.replicate (place.toNat + 1 - (first :: rest).length) '0' ++
        '.' :: (if ((first :: rest).drop (place.toNat + 1)).isEmpty then ['0']
          else (first :: rest).drop (place.toNat + 1)))
  /-- One digit before the point, which is left out if no digit stands behind it. -/
  | scientific : Written layout first rest place
      ([first] ++ (if rest.isEmpty then [] else '.' :: rest) ++
        'e' :: ((if place < 0 then ['-'] else layout.positive.toList) ++
          Nat.toDigits 10 place.natAbs))

/-- Only zeros are dropped. -/
theorem exists_zeros_dropZeros (cs : List Char) :
    ∃ n, List.replicate n '0' ++ dropZeros cs = cs := by
  induction cs using dropZeros.induct with
  | case1 c rest ih =>
    obtain ⟨n, kept⟩ := ih
    exact ⟨n + 1, by rw [dropZeros, List.replicate_succ, List.cons_append, kept]⟩
  | case2 cs other =>
    have kept : dropZeros cs = cs := dropZeros.eq_2 cs other
    exact ⟨0, kept⟩

theorem dropZeros_ne_nil {cs : List Char} (h : cs ≠ []) : dropZeros cs ≠ [] := by
  induction cs using dropZeros.induct with
  | case1 c rest ih =>
    rw [dropZeros]
    exact ih (List.cons_ne_nil c rest)
  | case2 cs other =>
    have kept : dropZeros cs = cs := dropZeros.eq_2 cs other
    rwa [kept]

/-- The digits that are shown of a number which is not zero, and the zeros that are not: there is
one of the former, and the first is not zero. -/
theorem exists_shown_eq {n : Nat} (positive : 0 < n) :
    ∃ first rest zeros, (dropZeros (Nat.toDigits 10 n).reverse).reverse = first :: rest ∧
      Nat.toDigits 10 n = first :: rest ++ List.replicate zeros '0' ∧
      first ≠ '0' ∧ IsDigits (first :: rest) := by
  obtain ⟨zeros, whole⟩ := exists_zeros_dropZeros (Nat.toDigits 10 n).reverse
  have all : Nat.toDigits 10 n =
      (dropZeros (Nat.toDigits 10 n).reverse).reverse ++ List.replicate zeros '0' := by
    rw [← List.reverse_replicate, ← List.reverse_append, whole, List.reverse_reverse]
  cases h : (dropZeros (Nat.toDigits 10 n).reverse).reverse with
  | nil =>
    have none := List.reverse_eq_nil_iff.mp h
    exact absurd none (dropZeros_ne_nil (by simp))
  | cons first rest =>
    rw [h] at all
    refine ⟨first, rest, zeros, rfl, all, ?_, List.cons_ne_nil _ _, fun c member => ?_⟩
    -- If the first digit shown were a zero, the number would begin with one.
    · rintro rfl
      exact head?_toDigits_ne positive (by rw [all]; rfl)
    · exact (isDigits_toDigits n).digits c (all ▸ List.mem_append_left _ member)

/-- What is written is one of the three layouts of the digits, but for the zeros at their end. -/
theorem written_write (layout : NumeralLayout) {digits : Nat} (positive : 0 < digits)
    (exponent : Int) :
    ∃ (first : Char) (rest : List Char) (zeros : Nat) (place : Int),
      layout.Written first rest place (layout.write digits exponent).toList ∧
      first ≠ '0' ∧ IsDigits (first :: rest) ∧
      natOfDigits (first :: rest) * Nat.pow 10 zeros = digits ∧
      place - rest.length = exponent + zeros := by
  obtain ⟨first, rest, zeros, shown, all, notZero, isDigits⟩ := exists_shown_eq positive
  have value : natOfDigits (first :: rest) * Nat.pow 10 zeros = digits := by
    have read := natOfDigits_toDigits digits
    rwa [all, natOfDigits_append, natOfDigits_zeros, List.length_replicate, Nat.add_zero] at read
  have length : (Nat.toDigits 10 digits).length = rest.length + 1 + zeros := by
    rw [all, List.length_append, List.length_cons, List.length_replicate]
  have place : exponent + ((Nat.toDigits 10 digits).length - 1 : Nat) - rest.length =
      exponent + zeros := by
    rw [length]
    omega
  refine ⟨first, rest, zeros, _, ?_, notZero, isDigits, value, place⟩
  unfold write
  simp only [shown, String.toList_ofList]
  split
  · split
    · rename_i negative
      exact .small negative
    · rename_i notNegative
      exact .positional (Int.not_lt.mp notNegative)
  · exact .scientific

section Read

variable {first : Char} {rest : List Char} {place : Int} (digits : IsDigits (first :: rest))
  (negative : Bool)

include digits

/-- The zeros in front do not count, and every digit is behind the point. -/
theorem readUnsigned?_small (small : place < 0) :
    Decimal.readUnsigned? negative
        (['0'] ++ '.' :: (List.replicate (-place - 1).toNat '0' ++ first :: rest)) =
      some ⟨negative, natOfDigits (first :: rest), place - rest.length⟩ := by
  have zero : natOfDigits ['0'] = 0 := rfl
  have fraction : ∀ c ∈ List.replicate (-place - 1).toNat '0' ++ first :: rest,
      c.isDigit = true :=
    List.forall_mem_append.mpr ⟨isDigit_of_mem_zeros, digits.digits⟩
  have value : natOfDigits (['0'] ++ (List.replicate (-place - 1).toNat '0' ++ first :: rest)) =
      natOfDigits (first :: rest) := by
    rw [natOfDigits_append, natOfDigits_append, natOfDigits_zeros, zero, Nat.zero_mul,
      Nat.zero_mul, Nat.zero_add, Nat.zero_add]
  rw [Decimal.readUnsigned?_plain isDigits_zero negative fraction, value, List.length_append,
    List.length_replicate, List.length_cons]
  congr 2
  omega

/-- All digits stand before the point, with zeros behind them. -/
theorem readUnsigned?_padded (zeros : Nat) :
    Decimal.readUnsigned? negative
        (first :: rest ++ List.replicate zeros '0' ++ '.' :: ['0']) =
      some ⟨negative, natOfDigits (first :: rest) * Nat.pow 10 (zeros + 1), -1⟩ := by
  have zero : natOfDigits ['0'] = 0 := rfl
  have whole : IsDigits (first :: rest ++ List.replicate zeros '0') :=
    ⟨by simp, List.forall_mem_append.mpr ⟨digits.digits, isDigit_of_mem_zeros⟩⟩
  rw [Decimal.readUnsigned?_plain whole negative isDigits_zero.digits, natOfDigits_append,
    natOfDigits_append, natOfDigits_zeros, zero, List.length_replicate, List.length_singleton]
  exact congrArg (fun value => some (Decimal.mk negative value (-1))) (Nat.mul_assoc ..)

/-- Some digits stand before the point and some behind it; together they are all digits. -/
theorem readUnsigned?_divided {before : Nat} (some_before : 0 < before) :
    Decimal.readUnsigned? negative
        ((first :: rest).take before ++ '.' :: (first :: rest).drop before) =
      some ⟨negative, natOfDigits (first :: rest), -((first :: rest).length - before : Nat)⟩ := by
  have whole : IsDigits ((first :: rest).take before) :=
    ⟨by simp; omega, fun c member => digits.digits c (List.mem_of_mem_take member)⟩
  have fraction : ∀ c ∈ (first :: rest).drop before, c.isDigit = true :=
    fun c member => digits.digits c (List.mem_of_mem_drop member)
  rw [Decimal.readUnsigned?_plain whole negative fraction, List.take_append_drop,
    List.length_drop]

/-- With an exponent there is a point exactly if there is more than one digit. -/
theorem readUnsigned?_scientific {layout : NumeralLayout}
    (sign : layout.positive = "" ∨ layout.positive = "+") :
    Decimal.readUnsigned? negative
        ([first] ++ (if rest.isEmpty then [] else '.' :: rest) ++
          'e' :: ((if place < 0 then ['-'] else layout.positive.toList) ++
            Nat.toDigits 10 place.natAbs)) =
      some ⟨negative, natOfDigits (first :: rest), place - rest.length⟩ := by
  obtain ⟨here, others⟩ := List.forall_mem_cons.mp digits.digits
  have exponent := readExponent?_write sign place
  have one : IsDigits [first] := ⟨List.cons_ne_nil _ _, by simp [here]⟩
  cases rest with
  | nil =>
    rw [List.isEmpty_nil, if_pos rfl, List.append_nil,
      Decimal.readUnsigned?_whole one negative (by simp), exponent]
    simp
  | cons second more =>
    show Decimal.readUnsigned? negative ([first] ++ '.' :: (second :: more ++ 'e' :: _)) = _
    rw [Decimal.readUnsigned?_point one negative others (by simp), exponent]
    simp

end Read

section Written

variable {layout : NumeralLayout} {first : Char} {rest text : List Char} {place : Int}
  (written : layout.Written first rest place text) (digits : IsDigits (first :: rest))
  (sign : layout.positive = "" ∨ layout.positive = "+")

include written digits

/-- Every layout begins with a digit. -/
theorem Written.starts : ∃ c more, text = c :: more ∧ c.isDigit = true := by
  have here := digits.digits first (List.mem_cons_self ..)
  cases written with
  | small negative => exact ⟨_, _, rfl, rfl⟩
  | positional notNegative => exact ⟨first, _, rfl, here⟩
  | scientific => exact ⟨first, _, rfl, here⟩

include sign

/-- Every layout is a number of JSON. -/
theorem Written.isMagnitude (notZero : first ≠ '0') : IsMagnitude text := by
  -- The digits before the point never begin with a zero, unless that is the only one.
  cases written with
  | small negative =>
    have fraction : IsDigits (List.replicate (-place - 1).toNat '0' ++ first :: rest) :=
      ⟨by simp, List.forall_mem_append.mpr ⟨isDigit_of_mem_zeros, digits.digits⟩⟩
    exact ⟨['0'], _, [], (List.append_nil _).symm, .zero, .digits fraction, .none⟩
  | positional notNegative =>
    exact ⟨_, _, [], (List.append_nil _).symm, isWhole_padded notZero digits place.toNat,
      .digits (isDigits_dropped digits (place.toNat + 1)), .none⟩
  | scientific =>
    have whole : IsWhole [first] :=
      .digits notZero ⟨List.cons_ne_nil _ _, by simp [digits.digits first]⟩
    exact ⟨_, _, _, rfl, whole, isFraction_rest digits, isExponent_write sign place⟩

/-- Every layout is read as the digits that are shown, perhaps with zeros behind them. -/
theorem Written.read (negative : Bool) :
    ∃ zeros : Nat, Decimal.readUnsigned? negative text = some ⟨negative,
      natOfDigits (first :: rest) * Nat.pow 10 zeros, place - rest.length - zeros⟩ := by
  have shown (exponent : Int) : (⟨negative, natOfDigits (first :: rest), exponent⟩ : Decimal) =
      ⟨negative, natOfDigits (first :: rest) * Nat.pow 10 0, exponent - (0 : Nat)⟩ := by
    simp
  cases written with
  | small isNegative =>
    exact ⟨0, (readUnsigned?_small digits negative isNegative).trans (congrArg some (shown _))⟩
  | positional notNegative =>
    by_cases short : (first :: rest).length ≤ place.toNat + 1
    · rw [List.drop_eq_nil_of_le short, List.take_of_length_le short, List.isEmpty_nil, if_pos rfl,
        readUnsigned?_padded digits negative]
      rw [List.length_cons] at short ⊢
      refine ⟨_, congrArg some (congrArg (Decimal.mk negative _) ?_)⟩
      omega
    · have some : ((first :: rest).drop (place.toNat + 1)).isEmpty = false := by
        simpa using short
      have none : place.toNat + 1 - (first :: rest).length = 0 := by omega
      rw [some, none, List.replicate_zero, List.append_nil, if_neg (by decide),
        readUnsigned?_divided digits negative (Nat.succ_pos _), shown]
      rw [List.length_cons] at short ⊢
      refine ⟨0, congrArg Option.some (congrArg (Decimal.mk negative _) ?_)⟩
      omega
  | scientific =>
    exact ⟨0, (readUnsigned?_scientific digits negative sign).trans (congrArg some (shown _))⟩

end Written

/-- Zeros behind the digits make up for a smaller exponent. -/
theorem mul_zpow_eq (n j k : Nat) {e f : Int} (same : e + j = f + k) :
    ((n * Nat.pow 10 j : Nat) : ℚ) * 10 ^ e = (n * Nat.pow 10 k : Nat) * 10 ^ f := by
  have whole (i : Nat) (g : Int) :
      ((n * Nat.pow 10 i : Nat) : ℚ) * 10 ^ g = n * 10 ^ (g + i) := by
    rw [Nat.pow_eq, Nat.cast_mul, Nat.cast_pow, zpow_add₀ (by decide), zpow_natCast]
    push_cast
    ring
  rw [whole, whole, same]

/-- What is written without a sign is a number of JSON, and read again it lies in the interval of
the number that was written. -/
theorem exists_body {layout : NumeralLayout}
    (sign : layout.positive = "" ∨ layout.positive = "+") {b : BinaryNumber}
    (few : b.mantissa < 16777216) :
    ∃ body : String,
      (∀ negative, layout.writeSigned negative b = if negative then "-" ++ body else body) ∧
      IsMagnitude body.toList ∧ (∃ c more, body.toList = c :: more ∧ c.isDigit = true) ∧
      ∀ negative, ∃ (digits : Nat) (exponent : Int),
        Decimal.readUnsigned? negative body.toList = some ⟨negative, digits, exponent⟩ ∧
        b.low ≤ digits * 10 ^ exponent ∧ digits * 10 ^ exponent ≤ b.high := by
  refine ⟨_, fun _ => rfl, ?_⟩
  -- Zero is written with a digit behind the point, and everything else in one of the layouts.
  by_cases zero : b.mantissa = 0
  · obtain ⟨low, high⟩ := b.low_lt_value_lt_high
    have value : b.value = 0 := by rw [BinaryNumber.value, zero, Nat.cast_zero, zero_mul]
    rw [value] at low high
    rw [if_pos zero]
    refine ⟨⟨['0'], ['.', '0'], [], rfl, .zero, .digits isDigits_zero, .none⟩, ⟨_, _, rfl, rfl⟩,
      fun negative => ⟨0, -1, rfl, ?_⟩⟩
    rw [Nat.cast_zero, zero_mul]
    exact ⟨low.le, high.le⟩
  · obtain ⟨first, rest, shown, place, written, notZero, digits, value, same⟩ :=
      written_write layout (BinaryNumber.shortest_pos zero few) b.shortest.2
    rw [if_neg zero]
    refine ⟨written.isMagnitude digits sign notZero, written.starts digits, fun negative => ?_⟩
    obtain ⟨zeros, read⟩ := written.read digits sign negative
    have between := BinaryNumber.between_of_shortest zero few
    rw [← value, ← mul_zpow_eq (natOfDigits (first :: rest)) zeros shown
      (e := place - rest.length - zeros) (by omega)] at between
    exact ⟨_, _, read, between⟩

end NumeralLayout

/-- A text that begins with a digit is read without regard to words. -/
theorem Numeral.read?_of_readUnsigned? {negative : Bool} {text : List Char} {d : Decimal}
    (starts : ∃ c more, text = c :: more ∧ c.isDigit = true)
    (read : Decimal.readUnsigned? negative text = some d) :
    Numeral.read? (if negative then '-' :: text else text) = some (.finite d) := by
  obtain ⟨c, more, rfl, digit⟩ := starts
  have taken : takeSign (if negative then '-' :: c :: more else c :: more) =
      (negative, c :: more) := by
    cases negative with
    | true => rfl
    | false => exact takeSign_of_isDigit digit more
  -- The words for infinity and for no number begin with letters.
  have noWord (word : List Char) (other : word.head?.any Char.isDigit = false) :
      (c :: more).map Char.toLower ≠ word := by
    rw [List.map_cons, toLower_of_isDigit digit]
    rintro rfl
    rw [List.head?_cons, Option.any_some, digit] at other
    cases other
  unfold Numeral.read?
  simp only [taken]
  have inf := noWord "inf".toList rfl
  have infinity := noWord "infinity".toList rfl
  have nan := noWord "nan".toList rfl
  simp only [inf, infinity, nan]
  rw [read]
  rfl

/-! ## Numbers and vectors -/

namespace Decimal

/-- The number that a decimal is. -/
def value (d : Decimal) : ℚ := (if d.negative = true then -1 else 1) * (d.digits * 10 ^ d.exponent)

/-- A decimal stands for a finite number if it has the same sign, also if it is zero, and is not
nearer to any other finite number. -/
structure StandsFor (d : Decimal) (x : Float32) : Prop where
  /-- It has a sign if the first bit is set. -/
  sign : d.negative = decide (Nat.pow 2 31 ≤ x.toBits.toNat)
  /-- No other number is nearer. -/
  nearest : ∀ y : Float32, y.isFinite = true →
    |d.value - Single.value x| ≤ |d.value - Single.value y|

end Decimal

/-- **The numeral of a number** is a number of JSON, and read again it stands for that number. -/
theorem NumeralLayout.writeSingle_standsFor {layout : NumeralLayout}
    (sign : layout.positive = "" ∨ layout.positive = "+") {x : Float32}
    (finite : x.isFinite = true) :
    IsNumber (layout.writeSingle x) ∧ ∃ d : Decimal,
      Numeral.read? (layout.writeSingle x).toList = some (.finite d) ∧ d.StandsFor x := by
  obtain ⟨body, written, isMagnitude, starts, reads⟩ := exists_body sign
    (BinaryNumber.isSingle_ofMagnitude (x.toBits.toNat % Nat.pow 2 31)).few
  obtain ⟨digits, exponent, read, low, high⟩ := reads (decide (Nat.pow 2 31 ≤ x.toBits.toNat))
  have text : layout.writeSingle x =
      if decide (Nat.pow 2 31 ≤ x.toBits.toNat) then "-" ++ body else body := written _
  have list : (layout.writeSingle x).toList =
      if decide (Nat.pow 2 31 ≤ x.toBits.toNat) then '-' :: body.toList else body.toList := by
    rw [text]
    split
    · rw [String.toList_append]
      rfl
    · rfl
  refine ⟨?_, ⟨decide (Nat.pow 2 31 ≤ x.toBits.toNat), digits, exponent⟩, ?_, rfl,
    fun y hy => ?_⟩
  · unfold IsNumber
    rw [list]
    split
    · exact .inr ⟨_, rfl, isMagnitude⟩
    · exact .inl isMagnitude
  · rw [list]
    exact Numeral.read?_of_readUnsigned? starts read
  · have notNegative : (0 : ℚ) ≤ digits * 10 ^ exponent := by positivity
    have near := Single.abs_sub_value_le finite hy notNegative low high
    unfold Decimal.value
    simp only [decide_eq_true_eq]
    exact near

namespace Json

theorem writeSingle_of_not_finite {x : Float32} (h : x.isFinite = false) :
    writeSingle x = "null" := by
  rw [writeSingle, if_neg (by rw [h]; decide)]

/-- The items of an array for a vector: at each place that is finite a number, which stands for what
is there, and null at all others. -/
structure AreItemsOf (vector : List Float32) (items : List String) : Prop where
  /-- There is an item for each number. -/
  length : items.length = vector.length
  /-- What is finite is written as a number of JSON that stands for it. -/
  number : ∀ (place : Nat) (x : Float32) (item : String), vector[place]? = some x →
    items[place]? = some item → x.isFinite = true →
    IsNumber item ∧ ∃ d : Decimal, Numeral.read? item.toList = some (.finite d) ∧ d.StandsFor x
  /-- What is not finite has no number in JSON. -/
  null : ∀ (place : Nat) (x : Float32) (item : String), vector[place]? = some x →
    items[place]? = some item → x.isFinite = false → item = "null"

/-- A line is an array of such items. -/
theorem exists_items (vector : List Float32) :
    ∃ items, writeVector vector = "[" ++ ",".intercalate items ++ "]" ∧
      AreItemsOf vector items := by
  have item {place : Nat} {x : Float32} {item : String} (hx : vector[place]? = some x)
      (hItem : (vector.map writeSingle)[place]? = some item) : item = writeSingle x := by
    rw [List.getElem?_map, hx] at hItem
    exact (Option.some.inj hItem).symm
  refine ⟨vector.map writeSingle, rfl, List.length_map _, ?_, ?_⟩
  · intro place x text hx hText finite
    rw [item hx hText, writeSingle, if_pos finite]
    exact NumeralLayout.writeSingle_standsFor (.inr rfl) finite
  · intro place x text hx hText notFinite
    rw [item hx hText]
    exact writeSingle_of_not_finite notFinite

end Json

end TextVec
