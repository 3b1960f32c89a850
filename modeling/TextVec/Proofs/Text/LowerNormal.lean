import Mathlib.Data.List.Chain
import Mathlib.Data.List.Forall2
import TextVec.Proofs.Text.Lowercase
import TextVec.Proofs.Text.Normalization

/-!
# Normal forms in lower case

A small letter may compose with a mark although the capital letter does not, so that the lower-case
form of a normal form need not be one. It can only happen right behind a capital letter, though.
Main statement: if no capital letter of a normal form has a mark right behind it, then the
lower-case form of the normal form is in normal form.
-/

namespace TextVec.Text

/-! ## The tables -/

/-- The code points of marks. -/
def marked : Nat := codeSet (ends (allRuns Table.combiningClass))

/-- The code points of what capital letters other than the dotted I become. -/
def smallForms : Nat := codeSetOf (0x3C2 :: lowerPairs.map Prod.snd)

/-- Whether the small letter of a capital one that is not taken apart is not taken apart either. -/
def keepsElementary : Bool :=
  !decomposable.testBit 0x3C2 && lowerPairs.all fun (code, image) =>
    decomposable.testBit code || !decomposable.testBit image

/-- Whether small letters compose to the small letter of what the capital letters compose to, but
for the dotted I. -/
def lowersCompositions : Bool :=
  match SearchTree.ofPrefix 10 (allRuns Table.composition) with
  | (tree, _) =>
    (allRuns Table.composition).all fun (first, second, composite) =>
      !capitals.testBit first ||
        (first == 0x49 && second == 0x307 && composite == 0x130) ||
        (first != 0x130 && composite != 0x130 && composite != 0x3A3 &&
          (tree.find? (fun triple => pairKey triple.1 triple.2.1)
              (pairKey (lowerChar (Char.ofNat first)).toNat second)).any fun triple =>
            triple.2.2 == (lowerChar (Char.ofNat composite)).toNat)

/-- What the tables keep to of marks and of small letters: marks have classes above 0 and no case,
small letters compose with marks only and with nothing before them, and they take the place of
capital letters in a decomposition and in a composition. -/
structure SmallFormLaws : Prop where
  /-- The runs of classes of marks ascend. -/
  ascending : Ascending (ends (allRuns Table.combiningClass))
  /-- No class in the table is 0, the class of what is no mark. -/
  positive : ((allRuns Table.combiningClass).all fun run => run.2.2 != 0) = true
  /-- Letters that have a case are no marks. -/
  no_mark : (capitals ||| smallForms) &&& marked = 0
  /-- Small forms are code points of characters. -/
  within : smallForms ||| characters = characters
  /-- Small forms are no second part of a composition, and nothing of a syllable. -/
  apart : smallForms &&& (seconds ||| (jamo ||| syllables)) = 0
  /-- What a small form composes with is a mark. -/
  take_marks : ((allRuns Table.composition).all fun (first, second, _) =>
    !smallForms.testBit first || marked.testBit second) = true
  /-- A capital letter that is not taken apart has a small letter that is not. -/
  elementary : keepsElementary = true
  /-- A composition may be lowered before or after it is made. -/
  composed : lowersCompositions = true

theorem smallFormLaws : SmallFormLaws where
  ascending := ascending_of_ascends (show ascends 0 _ = true by decide +kernel)
  positive := by decide +kernel
  no_mark := by decide +kernel
  within := by decide +kernel
  apart := by decide +kernel
  take_marks := by decide +kernel
  elementary := by decide +kernel
  composed := by decide +kernel

/-- What the tables say of the letters that have rules of their own: a capital I and a dot compose,
a small i and a dot do not. -/
structure SpecialLetters : Prop where
  /-- The small sigma of the table is the one inside of words. -/
  sigma : lowerChar 'Σ' = 'σ'
  /-- A capital I becomes a small one. -/
  i : lowerChar 'I' = 'i'
  /-- The dot above is a mark. -/
  dot : combiningClass '\u0307' ≠ 0
  /-- A capital I and a dot compose to the dotted capital I. -/
  composed : composePair? 'I' '\u0307' = some 'İ'
  /-- A small i, which has its dot, does not compose with another. -/
  apart : composePair? 'i' '\u0307' = none
  /-- The dotted capital I is taken apart, so no decomposed text has it. -/
  decomposable : decomposable.testBit 'İ'.toNat = true

theorem specialLetters : SpecialLetters := by
  constructor <;> decide +kernel

/-- The marks are the code points in the runs of the table of classes. -/
theorem combiningClass_ne_zero_iff {c : Char} :
    combiningClass c ≠ 0 ↔ marked.testBit c.toNat = true := by
  unfold combiningClass
  split
  · rename_i first last value found
    obtain ⟨member, holds⟩ :=
      (findSome?_findRun_eq_some_iff (SmallFormLaws.ascending smallFormLaws)).mp found
    have positive := List.all_eq_true.mp (SmallFormLaws.positive smallFormLaws) _ member
    exact iff_of_true (by simpa using positive) (testBit_of_mem_ends member holds)
  · rename_i none
    rw [findSome?_findRun_eq_none_iff (SmallFormLaws.ascending smallFormLaws)] at none
    refine iff_of_false (by simp) ?_
    rw [marked, none]
    exact Bool.false_ne_true

/-- A letter that has a case is no mark. -/
theorem combiningClass_of_letter {c : Char} (h : (capitals ||| smallForms).testBit c.toNat = true) :
    combiningClass c = 0 := by
  by_contra mark
  have apart := not_testBit_of_apart (SmallFormLaws.no_mark smallFormLaws) h
  rw [combiningClass_ne_zero_iff.mp mark] at apart
  cases apart

theorem combiningClass_of_capital {c : Char} (h : IsCapital c) : combiningClass c = 0 :=
  combiningClass_of_letter (by rw [Nat.testBit_or, h, Bool.true_or])

/-! ## Small forms -/

/-- A capital letter and its small letter, of which a sigma has two, or any other character
twice. -/
inductive SmallForm : Char → Char → Prop where
  /-- As the table has it, also for what is no capital letter. -/
  | simple (c : Char) : SmallForm c (lowerChar c)
  /-- The sigma at the end of a word, which the table does not have. -/
  | final : SmallForm 'Σ' 'ς'

/-- What is no capital letter has itself as its only small form. -/
theorem SmallForm.eq_of_not_capital {c d : Char} (h : SmallForm c d) (notCapital : ¬ IsCapital c) :
    d = c := by
  cases h with
  | simple => exact lowerChar_of_not_capital notCapital
  | final => exact absurd isCapital_sigma notCapital

theorem SmallForm.self {c : Char} (notCapital : ¬ IsCapital c) : SmallForm c c := by
  have form := SmallForm.simple c
  rwa [lowerChar_of_not_capital notCapital] at form

theorem testBit_smallForms_of_mem {code image : Nat} (h : (code, image) ∈ lowerPairs) :
    smallForms.testBit image = true :=
  testBit_codeSetOf.mpr (List.mem_cons_of_mem _ (List.mem_map_of_mem (f := Prod.snd) h))

theorem toNat_ofNat_of_image {code image : Nat} (h : (code, image) ∈ lowerPairs) :
    (Char.ofNat image).toNat = image :=
  toNat_ofNat (testBit_characters.mp
    (testBit_of_within (SmallFormLaws.within smallFormLaws) (testBit_smallForms_of_mem h)))

/-- The small form of a capital letter is in the set of small forms. -/
theorem SmallForm.testBit {c d : Char} (h : SmallForm c d) (capital : IsCapital c)
    (notDotted : c ≠ 'İ') : smallForms.testBit d.toNat = true := by
  cases h with
  | simple =>
    obtain ⟨image, pair, same⟩ := lowerChar_of_capital capital notDotted
    rw [same, toNat_ofNat_of_image pair, testBit_smallForms_of_mem pair]
  | final => exact testBit_codeSetOf.mpr (List.mem_cons_self ..)

/-- A small form has the class of its letter, since neither of them is a mark. -/
theorem SmallForm.combiningClass_eq {c d : Char} (h : SmallForm c d) (notDotted : c ≠ 'İ') :
    combiningClass d = combiningClass c := by
  by_cases capital : IsCapital c
  · rw [combiningClass_of_capital capital]
    exact combiningClass_of_letter (by rw [Nat.testBit_or, h.testBit capital notDotted, Bool.or_true])
  · rw [h.eq_of_not_capital capital]

/-- Wherever it stands, a character other than the dotted capital I becomes one small form of it. -/
theorem exists_lowerAt {c : Char} (notDotted : c ≠ 'İ') (before after : List Char) :
    ∃ d, SmallForm c d ∧ lowerAt before c after = [d] := by
  rw [lowerAt, if_neg notDotted]
  split
  · rename_i sigma
    subst sigma
    split
    · exact ⟨_, .final, rfl⟩
    · exact ⟨_, .simple 'Σ', by rw [SpecialLetters.sigma specialLetters]⟩
  · exact ⟨_, .simple c, rfl⟩

/-- The small form of what is not taken apart is not taken apart. -/
theorem SmallForm.isElementary {c d : Char} (h : SmallForm c d) (elementary : IsElementary c) :
    IsElementary d := by
  obtain ⟨final, simple⟩ := Bool.and_eq_true_iff.mp (SmallFormLaws.elementary smallFormLaws)
  cases h with
  | simple =>
    rcases lowerChar_cases c with ⟨image, pair, same⟩ | ⟨-, same⟩
    · have law := List.all_eq_true.mp simple _ pair
      simp only [isElementary_iff.mp elementary, Bool.false_or, Bool.not_eq_true'] at law
      rw [isElementary_iff, same, toNat_ofNat_of_image pair, law]
    · simpa only [same] using elementary
  | final => exact isElementary_iff.mpr (by simpa using final)

/-- A small form composes with nothing before it. -/
theorem SmallForm.composePair?_eq_none {c d : Char} (h : SmallForm c d) (capital : IsCapital c)
    (notDotted : c ≠ 'İ') (a : Char) : composePair? a d = none := by
  cases composed : composePair? a d with
  | none => rfl
  | some composite =>
    have small := h.testBit capital notDotted
    have apart := not_testBit_of_apart (SmallFormLaws.apart smallFormLaws) small
    simp only [Nat.testBit_or, Bool.or_eq_false_iff] at apart
    -- As a second part it would be a letter of a syllable, or in the table of second parts.
    cases composes_of_composePair? composed with
    | syllable hl hv first second =>
      rw [testBit_jamo.mpr (by omega)] at apart
      cases apart.2.1
    | trailing hl hv positive ht first second =>
      rw [testBit_jamo.mpr (by omega)] at apart
      cases apart.2.1
    | table member =>
      have second : seconds.testBit d.toNat = true := testBit_codeSetOf.mpr
        (List.mem_map_of_mem (f := fun triple => triple.2.1) member)
      rw [apart.1] at second
      cases second

/-- A small form composes with marks only. -/
theorem SmallForm.mark_of_composes {c d b composite : Char} (h : SmallForm c d)
    (capital : IsCapital c) (notDotted : c ≠ 'İ') (composes : Composes d b composite) :
    combiningClass b ≠ 0 := by
  have small := h.testBit capital notDotted
  have apart := not_testBit_of_apart (SmallFormLaws.apart smallFormLaws) small
  simp only [Nat.testBit_or, Bool.or_eq_false_iff] at apart
  cases composes with
  | syllable hl hv first =>
    rw [testBit_jamo.mpr (by omega)] at apart
    cases apart.2.1
  | trailing hl hv positive ht first =>
    rw [testBit_syllables.mpr (by omega)] at apart
    cases apart.2.2
  | table member =>
    have law := List.all_eq_true.mp (SmallFormLaws.take_marks smallFormLaws) _ member
    simp only [small, Bool.not_true, Bool.false_or] at law
    exact combiningClass_ne_zero_iff.mpr law

theorem composePair?_of_find? {a b : Char} {triple : Nat × Nat × Nat}
    (h : (SearchTree.ofPrefix 10 (allRuns Table.composition)).1.find?
      (fun triple => pairKey triple.1 triple.2.1) (pairKey a.toNat b.toNat) = some triple)
    {c : Char} (same : triple.2.2 = c.toNat) : composePair? a b = some c := by
  obtain ⟨member, key⟩ := SearchTree.mem_of_find?_ofPrefix h
  obtain ⟨x, y, z⟩ := triple
  obtain ⟨rfl, rfl⟩ := eq_of_pairKey (valid_of_mem_composition member).1 b.valid key
  obtain rfl : z = c.toNat := same
  exact composePair?_of_table member

theorem eq_ofNat {c : Char} {code : Nat} (h : c.toNat = code) : c = Char.ofNat code := by
  rw [← h, Char.ofNat_toNat]

/-- What a capital letter composes to, its small letter composes to the small letter of, but for
the dotted I. -/
theorem lower_of_composes {a b c : Char} (h : Composes a b c) (capital : IsCapital a) :
    (a = 'I' ∧ b = '\u0307' ∧ c = 'İ') ∨
      (a ≠ 'İ' ∧ c ≠ 'İ' ∧ c ≠ 'Σ' ∧ composePair? (lowerChar a) b = some (lowerChar c)) := by
  cases h with
  | syllable hl hv first =>
    exact absurd capital (not_isCapital_of_jamo (testBit_jamo.mpr (by omega)))
  | trailing hl hv positive ht first =>
    exact absurd capital (not_isCapital_of_syllable (testBit_syllables.mpr (by omega)))
  | table member =>
    -- The law of the table has both cases: the capital I with its dot, and all other letters.
    have law := List.all_eq_true.mp (SmallFormLaws.composed smallFormLaws) _ member
    rw [IsCapital] at capital
    simp only [Char.ofNat_toNat, capital, Bool.not_true, Bool.false_or, Bool.or_eq_true,
      Bool.and_eq_true, beq_iff_eq, bne_iff_ne, Option.any_eq_true] at law
    rcases law with ⟨⟨first, second⟩, third⟩ | ⟨⟨⟨first, third⟩, notSigma⟩, triple, found, same⟩
    · exact .inl ⟨eq_ofNat first, eq_ofNat second, eq_ofNat third⟩
    · refine .inr ⟨?_, ?_, ?_, composePair?_of_find? found same⟩
      · rintro rfl
        exact first rfl
      · rintro rfl
        exact third rfl
      · rintro rfl
        exact notSigma rfl

/-! ## Composing small forms -/

section Forward

variable {starter c : Char} {held : List Char} {last : Option Nat} (rest : List Char)

/-- A character that composes with the starter takes its place. -/
theorem composeAfter_of_composes {composite : Char} (free : Free last c)
    (found : composePair? starter c = some composite) :
    composeAfter starter held last (c :: rest) = composeAfter composite held last rest := by
  have step := step_composeAfter starter held last c rest
  generalize composeAfter starter held last (c :: rest) = composed at step
  cases step with
  | composes _ other => rw [Option.some.inj (found.symm.trans other)]
  | starts kept => cases found.symm.trans (kept free)
  | holds kept => cases found.symm.trans (kept free)

/-- A starter that does not compose ends what is held, and is the next starter. -/
theorem composeAfter_of_starts (kept : Free last c → composePair? starter c = none)
    (class' : combiningClass c = 0) :
    composeAfter starter held last (c :: rest) =
      starter :: (held.reverse ++ composeAfter c [] none rest) := by
  have step := step_composeAfter starter held last c rest
  generalize composeAfter starter held last (c :: rest) = composed at step
  cases step with
  | composes free found => cases found.symm.trans (kept free)
  | starts => rfl
  | holds _ mark => exact absurd class' mark

/-- A mark that does not compose is held. -/
theorem composeAfter_of_holds (kept : Free last c → composePair? starter c = none)
    (mark : combiningClass c ≠ 0) :
    composeAfter starter held last (c :: rest) =
      composeAfter starter (c :: held) (some (combiningClass c)) rest := by
  have step := step_composeAfter starter held last c rest
  generalize composeAfter starter held last (c :: rest) = composed at step
  cases step with
  | composes free found => cases found.symm.trans (kept free)
  | starts _ class' => exact absurd class' mark
  | holds => rfl

end Forward

/-- What is composed begins with the starter or a composition of it, and what is held follows. -/
theorem exists_composeAfter_eq (starter : Char) (held : List Char) (last : Option Nat)
    (rest : List Char) : ∃ front behind,
      composeAfter starter held last rest = front :: (held.reverse ++ behind) ∧
        (IsCapital starter → IsCapital front) := by
  induction rest generalizing starter held last with
  | nil => exact ⟨starter, [], by rw [composeAfter_nil, List.append_nil], id⟩
  | cons c rest ih =>
    have step := step_composeAfter starter held last c rest
    generalize composeAfter starter held last (c :: rest) = composed at step
    cases step with
    | composes free found =>
      -- A composition is a capital letter if its first part is one.
      obtain ⟨front, behind, same, capital⟩ := ih _ held last
      exact ⟨front, behind, same, fun h => capital
        ((isCapital_of_composes (composes_of_composePair? found)).1.mp h)⟩
    | starts => exact ⟨starter, _, rfl, id⟩
    | holds =>
      obtain ⟨front, behind, same, capital⟩ := ih starter (c :: held) (some (combiningClass c))
      refine ⟨front, c :: behind, ?_, capital⟩
      rw [same, List.reverse_cons, List.append_assoc, List.singleton_append]

/-- No capital letter of the text has a mark right behind it. -/
def Bare (text : List Char) : Prop :=
  text.IsChain fun c d => IsCapital c → combiningClass d = 0

instance (c : Char) : Decidable (IsCapital c) :=
  inferInstanceAs (Decidable (capitals.testBit c.toNat = true))

instance (text : List Char) : Decidable (Bare text) :=
  inferInstanceAs (Decidable (text.IsChain fun c d => IsCapital c → combiningClass d = 0))

/-- If something is held behind a starter, it is the first thing behind it, and a mark: so the
starter is no capital letter. -/
theorem Bare.not_holds {starter m : Char} {held : List Char} {last : Option Nat}
    {rest : List Char} (bare : Bare (composeAfter starter (m :: held) last rest))
    (marks : ∀ d ∈ m :: held, combiningClass d ≠ 0) : ¬ IsCapital starter := by
  intro capital
  obtain ⟨front, behind, same, isCapital⟩ := exists_composeAfter_eq starter (m :: held) last rest
  rw [same] at bare
  -- What is held was collected from the last one to the first.
  cases reversed : (m :: held).reverse with
  | nil => simp at reversed
  | cons first others =>
    rw [reversed] at bare
    have member : first ∈ m :: held := by
      rw [← List.mem_reverse, reversed]
      exact List.mem_cons_self ..
    exact marks first member ((List.isChain_cons_cons.mp bare).1 (isCapital capital))

/-- What has no capital letter stays as it is at the beginning of a text. -/
theorem lowerFrom_append_of_not_capital {before text : List Char} (rest : List Char)
    (h : ∀ c ∈ text, ¬ IsCapital c) :
    ∃ front, lowerFrom before (text ++ rest) = text ++ lowerFrom front rest := by
  induction text generalizing before with
  | nil => exact ⟨before, rfl⟩
  | cons c text ih =>
    obtain ⟨here, later⟩ := List.forall_mem_cons.mp h
    obtain ⟨front, same⟩ := @ih (c :: before) later
    exact ⟨front, by rw [List.cons_append, lowerFrom, lowerAt_of_not_capital here, same]; rfl⟩

/-- Small forms of a starter and of what follows it can be chosen so that they compose to the
lower-case form of what the starter and what follows it compose to. -/
def Lowers (starter : Char) (held : List Char) (last : Option Nat) (rest : List Char) : Prop :=
  ∀ before, ∃ starter' rest', SmallForm starter starter' ∧ List.Forall₂ SmallForm rest rest' ∧
    composeAfter starter' held last rest' =
      lowerFrom before (composeAfter starter held last rest)

/-- The same of a dotted capital I, for which a small I stands and the dot that does not compose
with it. -/
def LowersDotted (rest : List Char) : Prop :=
  ∀ before, ∃ rest', List.Forall₂ SmallForm rest rest' ∧
    composeAfter 'i' ['\u0307'] (some (combiningClass '\u0307')) rest' =
      lowerFrom before (composeAfter 'İ' [] none rest)

/-- A mark is no capital letter. -/
theorem not_isCapital_of_mark {c : Char} (mark : combiningClass c ≠ 0) : ¬ IsCapital c :=
  fun capital => mark (combiningClass_of_capital capital)

/-- The lower-case form of a starter and what is held is a small form of the starter and the same
marks. -/
theorem exists_lowerFrom_cons {starter : Char} {held : List Char} (notDotted : starter ≠ 'İ')
    (marks : ∀ m ∈ held, combiningClass m ≠ 0) (before rest : List Char) :
    ∃ starter' front, SmallForm starter starter' ∧
      lowerFrom before (starter :: (held.reverse ++ rest)) =
        starter' :: (held.reverse ++ lowerFrom front rest) := by
  obtain ⟨starter', form, lowered⟩ := exists_lowerAt notDotted before (held.reverse ++ rest)
  obtain ⟨front, same⟩ := @lowerFrom_append_of_not_capital (starter :: before) held.reverse rest
    fun m member => not_isCapital_of_mark (marks m (List.mem_reverse.mp member))
  exact ⟨starter', front, form, by rw [lowerFrom, lowered, same]; rfl⟩

/-- What does not compose with a starter does not compose with its small form either, if it is a
starter itself. -/
theorem SmallForm.kept {a a' c c' : Char} (first : SmallForm a a') (second : SmallForm c c')
    (notDotted : a ≠ 'İ') (notDotted' : c ≠ 'İ') (starter : combiningClass c = 0)
    (kept : composePair? a c = none) : composePair? a' c' = none := by
  -- A small form of a capital letter composes with nothing before it, and with marks only behind
  -- it.
  by_cases capital : IsCapital c
  · exact second.composePair?_eq_none capital notDotted' a'
  · obtain rfl := second.eq_of_not_capital capital
    by_cases capital' : IsCapital a
    · cases composed : composePair? a' c' with
      | none => rfl
      | some composite =>
        exact absurd starter (first.mark_of_composes capital' notDotted
          (composes_of_composePair? composed))
    · rwa [first.eq_of_not_capital capital']

/-- Small forms can be chosen for a composition: that of the starter is the one that composes to the
small form of the composition. -/
theorem Lowers.composes {starter c composite : Char} {held rest : List Char} {last : Option Nat}
    (free : Free last c) (found : composePair? starter c = some composite)
    (notDotted : composite ≠ 'İ') (next : Lowers composite held last rest) :
    Lowers starter held last (c :: rest) := by
  intro before
  have composes := composes_of_composePair? found
  obtain ⟨same, notCapital⟩ := isCapital_of_composes composes
  rw [composeAfter_of_composes rest free found]
  obtain ⟨composite', rest', form, forms, composed⟩ := next before
  rw [← composed]
  by_cases capital : IsCapital starter
  -- The starter is a capital letter: its small letter composes with the same mark.
  · rcases lower_of_composes composes capital with ⟨-, -, dotted⟩ | ⟨-, -, notSigma, lowered⟩
    · exact absurd dotted notDotted
    · have simple : composite' = lowerChar composite := by
        cases form with
        | simple => rfl
        | final => exact absurd rfl notSigma
      rw [simple]
      exact ⟨_, c :: rest', .simple starter, .cons (.self notCapital) forms,
        composeAfter_of_composes rest' free lowered⟩
  -- It is none, and so is the composition: all characters are their own small forms.
  · obtain rfl := form.eq_of_not_capital (mt same.mpr capital)
    exact ⟨starter, c :: rest', .self capital, .cons (.self notCapital) forms,
      composeAfter_of_composes rest' free found⟩

/-- What is emitted when the next starter comes. -/
theorem Lowers.starts {starter c : Char} {held rest : List Char} {last : Option Nat}
    (notDotted : starter ≠ 'İ') (notDotted' : c ≠ 'İ')
    (marks : ∀ m ∈ held, combiningClass m ≠ 0)
    (kept : Free last c → composePair? starter c = none) (class' : combiningClass c = 0)
    (next : Lowers c [] none rest) : Lowers starter held last (c :: rest) := by
  intro before
  rw [composeAfter_of_starts rest kept class']
  obtain ⟨starter', front, form, lowered⟩ :=
    exists_lowerFrom_cons notDotted marks before (composeAfter c [] none rest)
  obtain ⟨c', rest', form', forms, same⟩ := next front
  have here := form'.combiningClass_eq notDotted'
  refine ⟨starter', c' :: rest', form, .cons form' forms, ?_⟩
  rw [lowered, ← same]
  refine composeAfter_of_starts rest' (fun free => ?_) (here.trans class')
  refine form.kept form' notDotted notDotted' class' (kept fun l same => ?_)
  rw [← here]
  exact free l same

/-- A mark behind a starter that is no capital letter is held in the small form as well. -/
theorem Lowers.holds {starter c : Char} {held rest : List Char} {last : Option Nat}
    (notCapital : ¬ IsCapital starter) (kept : Free last c → composePair? starter c = none)
    (mark : combiningClass c ≠ 0)
    (next : Lowers starter (c :: held) (some (combiningClass c)) rest) :
    Lowers starter held last (c :: rest) := by
  intro before
  rw [composeAfter_of_holds rest kept mark]
  obtain ⟨starter', rest', form, forms, same⟩ := next before
  obtain rfl := form.eq_of_not_capital notCapital
  rw [← same]
  exact ⟨_, c :: rest', form, .cons (.self (not_isCapital_of_mark mark)) forms,
    composeAfter_of_holds rest' kept mark⟩

/-- A small i is the small form of a capital one. -/
theorem smallForm_i : SmallForm 'I' 'i' := by
  have form := SmallForm.simple 'I'
  rwa [SpecialLetters.i specialLetters] at form

/-- A capital I and a dot become a small i and a dot, which is held since it does not compose. -/
theorem LowersDotted.composes {rest : List Char} (next : LowersDotted rest) :
    Lowers 'I' [] none ('\u0307' :: rest) := by
  intro before
  obtain ⟨-, -, mark, found, kept, -⟩ := specialLetters
  rw [composeAfter_of_composes rest (fun _ none => by cases none) found]
  obtain ⟨rest', forms, same⟩ := next before
  rw [← same]
  exact ⟨'i', '\u0307' :: rest', smallForm_i,
    .cons (.self (not_isCapital_of_mark mark)) forms,
    composeAfter_of_holds rest' (fun _ => kept) mark⟩

/-- The next starter ends what is held behind the small i: the dot. -/
theorem LowersDotted.starts {c : Char} {rest : List Char} (notDotted : c ≠ 'İ')
    (kept : composePair? 'İ' c = none) (class' : combiningClass c = 0)
    (next : Lowers c [] none rest) : LowersDotted (c :: rest) := by
  intro before
  rw [composeAfter_of_starts rest (fun _ => kept) class']
  obtain ⟨c', rest', form, forms, same⟩ := next ('İ' :: before)
  refine ⟨c' :: rest', .cons form forms, ?_⟩
  rw [composeAfter_of_starts rest' (fun free => ?_)
    ((form.combiningClass_eq notDotted).trans class'), same]
  · rfl
  · have less := free _ rfl
    rw [form.combiningClass_eq notDotted, class'] at less
    exact absurd less (Nat.not_lt_zero _)

/-- A text for which small forms can be chosen whatever starter comes before it, if composing leaves
no mark behind a capital letter. Nothing may be held yet behind a starter that is one. -/
structure LowersAfter (rest : List Char) : Prop where
  /-- Behind any starter but the dotted capital I, whatever is held. -/
  plain : ∀ {starter : Char} {held : List Char} {last : Option Nat}, starter ≠ 'İ' →
    (∀ m ∈ held, combiningClass m ≠ 0) → (IsCapital starter → held = [] ∧ last = none) →
    Bare (composeAfter starter held last rest) → Lowers starter held last rest
  /-- Behind a dotted capital I. -/
  dotted : Bare (composeAfter 'İ' [] none rest) → LowersDotted rest

/-- At the end of a text nothing is left to be chosen. -/
theorem lowersAfter_nil : LowersAfter [] where
  plain notDotted marks _ _ before := by
    obtain ⟨starter', front, form, lowered⟩ := exists_lowerFrom_cons notDotted marks before []
    rw [List.append_nil] at lowered
    refine ⟨starter', [], form, .nil, ?_⟩
    rw [composeAfter_nil, composeAfter_nil, lowered, lowerFrom, List.append_nil]
  dotted _ before := by
    refine ⟨[], .nil, ?_⟩
    rw [composeAfter_nil, composeAfter_nil]
    rfl

section

variable {starter c : Char} {held rest : List Char} {last : Option Nat}

/-- The next starter has nothing held behind it. -/
theorem LowersAfter.plain_fresh (after : LowersAfter rest) (notDotted : c ≠ 'İ')
    (bare : Bare (composeAfter c [] none rest)) : Lowers c [] none rest :=
  after.plain notDotted (by simp) (fun _ => ⟨rfl, rfl⟩) bare

/-- A composition takes the place of the starter, and only the dotted capital I is one of which the
small form does not compose. -/
theorem LowersAfter.composition (after : LowersAfter rest) {composite : Char}
    (marks : ∀ m ∈ held, combiningClass m ≠ 0)
    (fresh : IsCapital starter → held = [] ∧ last = none) (free : Free last c)
    (found : composePair? starter c = some composite)
    (bare : Bare (composeAfter composite held last rest)) :
    Lowers starter held last (c :: rest) := by
  have composes := composes_of_composePair? found
  obtain ⟨same, -⟩ := isCapital_of_composes composes
  by_cases isDotted : composite = 'İ'
  · subst isDotted
    have capital := same.mpr isCapital_dotted
    obtain ⟨rfl, rfl⟩ := fresh capital
    obtain ⟨rfl, rfl, -⟩ | ⟨-, notDotted, -⟩ := lower_of_composes composes capital
    · exact (after.dotted bare).composes
    · exact absurd rfl notDotted
  · refine .composes free found isDotted (after.plain isDotted marks (fun capital => ?_) bare)
    exact fresh (same.mpr capital)

/-- One more character behind a starter: whatever is done with it, small forms can be chosen for the
rest. -/
theorem LowersAfter.plain_cons (after : LowersAfter rest) (here : c ≠ 'İ')
    (notDotted : starter ≠ 'İ') (marks : ∀ m ∈ held, combiningClass m ≠ 0)
    (fresh : IsCapital starter → held = [] ∧ last = none)
    (bare : Bare (composeAfter starter held last (c :: rest))) :
    Lowers starter held last (c :: rest) := by
  have step := step_composeAfter starter held last c rest
  generalize composeAfter starter held last (c :: rest) = composed at step bare
  cases step with
  | composes free found => exact after.composition marks fresh free found bare
  | starts kept class' =>
    rw [← List.cons_append] at bare
    exact .starts notDotted here marks kept class' (after.plain_fresh here bare.right_of_append)
  | holds kept mark =>
    -- What is held then is a mark behind the starter, so the starter is no capital letter.
    have marks : ∀ m ∈ c :: held, combiningClass m ≠ 0 := List.forall_mem_cons.mpr ⟨mark, marks⟩
    have notCapital := Bare.not_holds bare marks
    exact .holds notCapital kept mark
      (after.plain notDotted marks (fun capital => absurd capital notCapital) bare)

/-- One more character behind a dotted capital I is the next starter, since no mark may be held
there. -/
theorem LowersAfter.dotted_cons (after : LowersAfter rest) (here : c ≠ 'İ')
    (bare : Bare (composeAfter 'İ' [] none (c :: rest))) : LowersDotted (c :: rest) := by
  have step := step_composeAfter 'İ' [] none c rest
  generalize composeAfter 'İ' [] none (c :: rest) = composed at step bare
  cases step with
  | composes free found =>
    -- Nothing composes with a dotted capital I.
    obtain ⟨isI, -⟩ | ⟨notDotted, -⟩ :=
      lower_of_composes (composes_of_composePair? found) isCapital_dotted
    · exact absurd isI (by simp)
    · exact absurd rfl notDotted
  | starts kept class' =>
    exact .starts here (kept fun _ none => by cases none) class'
      (after.plain_fresh here (List.IsChain.tail bare))
  | holds kept mark =>
    exact absurd isCapital_dotted (Bare.not_holds bare (by simpa using mark))

end

/-- Composing small forms gives the lower-case form of what is composed, if that leaves no mark
behind a capital letter. -/
theorem lowersAfter {rest : List Char} (notDotted : ∀ c ∈ rest, c ≠ 'İ') : LowersAfter rest := by
  -- On the text that is still to be composed; each way to go on asks for one shorter text.
  induction rest with
  | nil => exact lowersAfter_nil
  | cons c rest ih =>
    obtain ⟨here, later⟩ := List.forall_mem_cons.mp notDotted
    have after := ih later
    exact ⟨after.plain_cons here, after.dotted_cons here⟩

/-- Small forms of the characters of a text can be chosen that compose to the lower-case form of
what the text composes to. -/
theorem exists_compose_eq_lowerFrom {text : List Char} (notDotted : ∀ c ∈ text, c ≠ 'İ')
    (bare : Bare (compose text)) (before : List Char) :
    ∃ forms, List.Forall₂ SmallForm text forms ∧
      compose forms = lowerFrom before (compose text) := by
  -- Before the first starter marks are just passed on.
  induction text generalizing before with
  | nil => exact ⟨[], .nil, rfl⟩
  | cons c rest ih =>
    obtain ⟨here, later⟩ := List.forall_mem_cons.mp notDotted
    rw [compose] at bare ⊢
    split
    · rename_i class'
      rw [if_pos class'] at bare
      obtain ⟨c', rest', form, forms, same⟩ := (lowersAfter later).plain_fresh here bare before
      refine ⟨c' :: rest', .cons form forms, ?_⟩
      rw [compose, if_pos ((form.combiningClass_eq here).trans class'), same]
    · rename_i mark
      rw [if_neg mark] at bare
      have notCapital := not_isCapital_of_mark mark
      obtain ⟨rest', forms, same⟩ := ih later bare.tail (c :: before)
      refine ⟨c :: rest', .cons (.self notCapital) forms, ?_⟩
      rw [compose, if_neg mark, same, lowerFrom, lowerAt_of_not_capital notCapital,
        List.singleton_append]

/-! ## Normal forms -/

/-- A mark of a class that is not above what follows is inserted at the front. -/
theorem insertMark_of_inOrder {c : Char} {last : Nat} {text : List Char} (h : InOrder last text)
    (le : combiningClass c ≤ last) : insertMark c text = c :: text := by
  cases h with
  | nil => rfl
  | cons place =>
    rw [insertMark, if_pos]
    rw [Bool.or_eq_true, decide_eq_true_eq, decide_eq_true_eq]
    exact place.imp_right le.trans

/-- A text whose marks are in order is left as it is. -/
theorem orderMarks_of_inOrder {last : Nat} {text : List Char} (h : InOrder last text) :
    orderMarks text = text := by
  induction h with
  | nil => rfl
  | @cons last c rest place others ih =>
    by_cases starter : combiningClass c = 0
    · rw [orderMarks_cons_of_starter starter, ih]
    · rw [orderMarks_cons_of_mark starter, ih, insertMark_of_inOrder others (Nat.le_refl _)]

/-- Small forms are in order as their letters are, for they have the same classes. -/
theorem InOrder.forall₂ {last : Nat} {text forms : List Char} (h : InOrder last text)
    (notDotted : ∀ c ∈ text, c ≠ 'İ') (same : List.Forall₂ SmallForm text forms) :
    InOrder last forms := by
  induction same generalizing last with
  | nil => exact .nil
  | cons form _ ih =>
    obtain ⟨here, later⟩ := List.forall_mem_cons.mp notDotted
    cases h with
    | cons place others =>
      have same := form.combiningClass_eq here
      exact .cons (by rwa [same]) (by rw [same]; exact ih others later)

/-- Small forms of elementary characters are elementary. -/
theorem forall_isElementary_of_forall₂ {text forms : List Char}
    (same : List.Forall₂ SmallForm text forms) (h : ∀ c ∈ text, IsElementary c) :
    ∀ c ∈ forms, IsElementary c := by
  induction same with
  | nil => exact h
  | cons form _ ih =>
    obtain ⟨here, later⟩ := List.forall_mem_cons.mp h
    exact List.forall_mem_cons.mpr ⟨form.isElementary here, ih later⟩

/-- **The lower-case form of a normal form is in normal form** if no capital letter of the normal
form has a mark right behind it. -/
theorem normalize_lowercase_normalize_of_bare {text : List Char} (bare : Bare (normalize text)) :
    normalize (lowercase (normalize text)) = lowercase (normalize text) := by
  have elementary : ∀ c ∈ decompose text, IsElementary c :=
    fun c member => isElementary_of_mem_decompose member
  have notDotted : ∀ c ∈ decompose text, c ≠ 'İ' := by
    rintro c member rfl
    have whole := isElementary_iff.mp (elementary _ member)
    rw [SpecialLetters.decomposable specialLetters] at whole
    cases whole
  -- The lower-case form is composed of small forms of what the text is taken apart into.
  obtain ⟨forms, same, composed⟩ :=
    exists_compose_eq_lowerFrom notDotted bare []
  have ordered : InOrder 0 forms := (inOrder_orderMarks _).forall₂ notDotted same
  -- These are in order and elementary, so they are what the lower-case form is taken apart into.
  have apart : decompose (compose forms) = forms := by
    have whole := forall_isElementary_of_forall₂ same elementary
    rw [decompose, orderMarks_flatMap_compose ordered whole, orderMarks_of_inOrder ordered]
  have lowered : lowercase (normalize text) = compose forms := composed.symm
  rw [lowered, normalize, apart]

end TextVec.Text
