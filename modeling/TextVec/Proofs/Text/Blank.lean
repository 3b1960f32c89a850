import TextVec.Proofs.Text.Lowercase
import TextVec.Proofs.Text.Normalization
import TextVec.Text.Whitespace
import TextVec.Text.WordBreak

/-!
# White space in normal forms

White space is taken apart into white space, composes with nothing and has no case. Main statement:
a text of white space stays one when it is composed or when its lower-case form is taken.
-/

namespace TextVec.Text

/-- The runs of white space. -/
def blankRuns : List (Nat × Nat) :=
  [(0x09, 0x0D), (0x20, 0x20), (0x85, 0x85), (0xA0, 0xA0), (0x1680, 0x1680), (0x2000, 0x200A),
    (0x2028, 0x2029), (0x202F, 0x202F), (0x205F, 0x205F), (0x3000, 0x3000)]

/-- White space is what is in one of the runs. -/
theorem isWhitespace_iff {c : Char} :
    isWhitespace c = true ↔ ∃ run ∈ blankRuns, run.1 ≤ c.toNat ∧ c.toNat ≤ run.2 := by
  simp only [isWhitespace, Bool.or_eq_true, Bool.and_eq_true, decide_eq_true_eq, beq_iff_eq,
    blankRuns, List.mem_cons, List.not_mem_nil, or_false, exists_eq_or_imp, exists_eq_left]
  omega

/-- Whether `P` holds of each white space character. -/
def forAllBlank (P : Char → Bool) : Bool :=
  blankRuns.all fun run => (List.range (run.2 + 1 - run.1)).all fun k => P (Char.ofNat (run.1 + k))

/-- What was checked for all white space holds of white space. -/
theorem of_forAllBlank {P : Char → Bool} (h : forAllBlank P = true) {c : Char}
    (blank : isWhitespace c = true) : P c = true := by
  obtain ⟨run, member, low, high⟩ := isWhitespace_iff.mp blank
  have here := List.all_eq_true.mp (List.all_eq_true.mp h run member) (c.toNat - run.1)
    (List.mem_range.mpr (by omega))
  rwa [Nat.add_sub_cancel' low, Char.ofNat_toNat] at here

/-- What the tables say of white space. -/
structure BlankLaws : Prop where
  /-- It is taken apart into white space. -/
  taken_apart : forAllBlank (fun c => (decomposeChar c).all isWhitespace) = true
  /-- It is no letter and no digit. -/
  alphanumeric : forAllBlank (fun c => !isAlphanumeric c) = true
  /-- It is no capital letter. -/
  capital : forAllBlank (fun c => !capitals.testBit c.toNat) = true
  /-- It is no small letter. -/
  small : forAllBlank (fun c => !smallLetters.testBit c.toNat) = true
  /-- It is neither the first part of a composition nor a composition. -/
  composed : ((allRuns Table.composition).all fun (first, _, composite) =>
    !isWhitespace (Char.ofNat first) && !isWhitespace (Char.ofNat composite)) = true

theorem blankLaws : BlankLaws := by
  constructor <;> decide +kernel

theorem isWhitespace_of_mem_decomposeChar {c d : Char} (blank : isWhitespace c = true)
    (h : d ∈ decomposeChar c) : isWhitespace d = true :=
  List.all_eq_true.mp (of_forAllBlank (BlankLaws.taken_apart blankLaws) blank) d h

theorem isAlphanumeric_of_blank {c : Char} (blank : isWhitespace c = true) :
    isAlphanumeric c = false := by
  simpa using of_forAllBlank (BlankLaws.alphanumeric blankLaws) blank

theorem not_isCapital_of_blank {c : Char} (blank : isWhitespace c = true) : ¬ IsCapital c := by
  simpa [IsCapital] using of_forAllBlank (BlankLaws.capital blankLaws) blank

/-- White space neither composes with what follows it nor is composed. -/
theorem solid_of_composes {a b c : Char} (h : Composes a b c) :
    isWhitespace a = false ∧ isWhitespace c = false := by
  -- Hangul lies outside of the runs of white space, which are below it but for one block.
  have solid {c : Char} (low : 0x1100 ≤ c.toNat) (high : c.toNat < 0x1113 ∨ 0xAC00 ≤ c.toNat) :
      isWhitespace c = false := by
    refine Bool.eq_false_iff.mpr fun blank => ?_
    have apart := @of_forAllBlank (fun c => decide (c.toNat < 0x1100) ||
      decide (0x1680 ≤ c.toNat) && decide (c.toNat ≤ 0x3000)) (by decide) c blank
    simp only [Bool.or_eq_true, Bool.and_eq_true, decide_eq_true_eq] at apart
    omega
  cases h with
  | syllable hl hv first second composite =>
    exact ⟨solid (by omega) (by omega), solid (by omega) (by omega)⟩
  | trailing hl hv positive ht first second composite =>
    exact ⟨solid (by omega) (by omega), solid (by omega) (by omega)⟩
  | table member =>
    have law := List.all_eq_true.mp (BlankLaws.composed blankLaws) _ member
    simpa only [Char.ofNat_toNat, Bool.and_eq_true, Bool.not_eq_true'] using law

/-! ## Texts of white space -/

/-- **The normal form of white space** is white space. -/
theorem forall_blank_normalize {text : List Char} (h : ∀ c ∈ text, isWhitespace c = true) :
    ∀ c ∈ normalize text, isWhitespace c = true := by
  -- No composition is made, as its first part would be white space.
  refine forall_mem_compose (fun _ _ _ blank composes => ?_) fun d member => ?_
  · rw [(solid_of_composes composes).1] at blank
    cases blank
  · obtain ⟨c, here, part⟩ := List.mem_flatMap.mp (mem_orderMarks.mp member)
    exact isWhitespace_of_mem_decomposeChar (h c here) part

/-- White space is its own lower-case form. -/
theorem lowercase_of_blank {text : List Char} (h : ∀ c ∈ text, isWhitespace c = true) :
    lowercase text = text :=
  lowercase_of_not_capital fun c member => not_isCapital_of_blank (h c member)

/-! ## Texts with white space -/

/-- White space of a lower-case form was there before. -/
theorem mem_of_blank_of_mem_lowercase {text : List Char} {d : Char} (blank : isWhitespace d = true)
    (h : d ∈ lowercase text) : d ∈ text := by
  obtain ⟨before, c, member, after, form⟩ := exists_of_mem_lowerFrom h
  -- Capital letters become small letters only, and everything else stays.
  by_cases capital : IsCapital c
  · have small := testBit_smallLetters_of_mem_lowerAt capital form
    have apart := of_forAllBlank (BlankLaws.small blankLaws) blank
    rw [small] at apart
    cases apart
  · rw [lowerAt_of_not_capital capital] at form
    rwa [List.mem_singleton.mp form]

/-- White space for which other white space stands is in no normal form. -/
theorem not_mem_normalize_of_blank {c : Char} (blank : isWhitespace c = true)
    (apart : ¬ IsElementary c) (text : List Char) : c ∉ normalize text := by
  intro member
  refine forall_mem_compose (P := (· ≠ c)) ?_ ?_ c member rfl
  · rintro a b d - composes rfl
    rw [(solid_of_composes composes).2] at blank
    cases blank
  · rintro d part rfl
    exact apart (isElementary_of_mem_decompose part)

end TextVec.Text
