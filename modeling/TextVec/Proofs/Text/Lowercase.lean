import TextVec.Proofs.Text.Decomposition
import TextVec.Text.Lowercase

/-!
# Small letters

A text of small letters, and of characters without a case, is its own lower-case form. Main
statements: no lower-case form has a capital letter left, none of its characters is taken apart into
a capital letter, and a composition is a capital letter exactly if its first part is one.
-/

namespace TextVec.Text

/-! ## The table -/

/-- The code points in the runs of the lower-case mapping, each with its image. -/
def lowerPairs : List (Nat × Nat) :=
  Table.lowercase.toList.flatMap fun (first, last, step, image) =>
    (List.range ((last - first) / step + 1)).map fun k => (first + k * step, image + k * step)

/-- The code points of capital letters, the dotted capital I among them. -/
def capitals : Nat := codeSetOf (0x130 :: lowerPairs.map Prod.fst)

/-- A capital letter, or the dotted capital I. -/
def IsCapital (c : Char) : Prop := capitals.testBit c.toNat = true

/-- The code points of what capital letters become, the dot that is put on a small I and the two
forms of a small sigma among them. -/
def smallLetters : Nat := codeSetOf (0x69 :: 0x307 :: 0x3C2 :: lowerPairs.map Prod.snd)

/-- Whether what stands for a small letter in the tables of decompositions has no capital letter,
for each small letter. -/
def takesSmallLettersApart : Bool :=
  ((allRuns Table.singleDecomposition).all fun run =>
    (List.range (run.2.1 + 1 - run.1)).all fun k =>
      !smallLetters.testBit (run.1 + k) || !capitals.testBit (run.2.2 + k)) &&
  (allRuns Table.multipleDecomposition).all fun run =>
    (List.range (run.2.1 + 1 - run.1)).all fun k =>
      !smallLetters.testBit (run.1 + k) || run.2.2.all fun part => !capitals.testBit part

/-- Whether no second part of a composition is a capital letter, and a composition is one exactly if
its first part is. -/
def composesCapitals : Bool :=
  (allRuns Table.composition).all fun (first, second, composite) =>
    capitals.testBit first == capitals.testBit composite && !capitals.testBit second

/-- What the table of the lower-case mapping keeps to: its runs ascend, what capital letters
become are characters and no capital letters themselves, and composing and taking apart make none
either. -/
structure CaseLaws : Prop where
  /-- The runs of the mapping ascend. -/
  ascending : Ascending (ends Table.lowercase.toList)
  /-- The capital sigma, which has a rule of its own, is in the table as well. -/
  sigma : capitals.testBit 'Σ'.toNat = true
  /-- What the rules make that are not in the table are small letters. -/
  special : (['ς', 'σ', 'i', '\u0307'].all fun c => smallLetters.testBit c.toNat) = true
  /-- Small letters are code points of characters. -/
  small_within : smallLetters ||| characters = characters
  /-- No small letter is a capital letter. -/
  small_apart : smallLetters &&& capitals = 0
  /-- Hangul has no capital letters. -/
  hangul_apart : (jamo ||| syllables) &&& capitals = 0
  /-- No small letter is taken apart into capital letters. -/
  taken_apart : takesSmallLettersApart = true
  /-- A composition has the case of its first part. -/
  composed : composesCapitals = true

theorem caseLaws : CaseLaws where
  ascending := ascending_of_ascends (show ascends 0 _ = true by decide +kernel)
  sigma := by decide +kernel
  special := by decide +kernel
  small_within := by decide +kernel
  small_apart := by decide +kernel
  hangul_apart := by decide +kernel
  taken_apart := by decide +kernel
  composed := by decide +kernel

/-! ## Single characters -/

theorem isCapital_sigma : IsCapital 'Σ' := CaseLaws.sigma caseLaws

/-- A capital letter of the table is in a run of it, at one of the steps of the run. -/
theorem exists_run_of_mem_lowerPairs {code : Nat} (h : code ∈ lowerPairs.map Prod.fst) :
    ∃ first last step image,
      findRun Table.lowercase code = some (first, last, step, image) ∧
        (code - first) % step = 0 := by
  obtain ⟨pair, there, same⟩ := List.mem_map.mp h
  obtain ⟨⟨first, last, step, image⟩, run, inRun⟩ := List.mem_flatMap.mp there
  obtain ⟨k, inside, rfl⟩ := List.mem_map.mp inRun
  have inside := List.mem_range.mp inside
  have proper := (CaseLaws.ascending caseLaws).proper _ (List.mem_map_of_mem run)
  simp only at same proper
  -- The step is inside of the run, so bisection finds the run.
  have most : k * step ≤ last - first :=
    Nat.le_trans (Nat.mul_le_mul_right _ (Nat.le_of_lt_succ inside)) (Nat.div_mul_le_self _ _)
  have found := (@findRun_eq_some_iff _ _ (CaseLaws.ascending caseLaws) code _).mpr
    ⟨run, by simp only; omega, by simp only; omega⟩
  refine ⟨first, last, step, image, found, ?_⟩
  rw [← same, Nat.add_sub_cancel_left, Nat.mul_mod_left]

/-- What is at a step of a run is mapped as far from its image as the run itself is. -/
theorem mem_lowerPairs_of_run {code first last step image : Nat}
    (found : findRun Table.lowercase code = some (first, last, step, image))
    (even : (code - first) % step = 0) : (code, image + (code - first)) ∈ lowerPairs := by
  obtain ⟨run, low, high⟩ := (findRun_eq_some_iff (CaseLaws.ascending caseLaws)).mp found
  simp only at low high
  have whole : (code - first) / step * step = code - first :=
    Nat.div_mul_cancel (Nat.dvd_of_mod_eq_zero even)
  refine List.mem_flatMap.mpr ⟨_, run, List.mem_map.mpr ⟨(code - first) / step, ?_, ?_⟩⟩
  · exact List.mem_range.mpr (Nat.lt_succ_of_le (Nat.div_le_div_right (by omega)))
  · rw [whole, Nat.add_sub_cancel' low]

/-- A character is mapped to a small letter, or it is none of the capital letters of the table and
stays as it is. -/
theorem lowerChar_cases (c : Char) :
    (∃ image, (c.toNat, image) ∈ lowerPairs ∧ lowerChar c = Char.ofNat image) ∨
      (c.toNat ∉ lowerPairs.map Prod.fst ∧ lowerChar c = c) := by
  unfold lowerChar
  split
  · rename_i first last step image found
    simp only
    split
    · rename_i even
      exact .inl ⟨_, mem_lowerPairs_of_run found even, rfl⟩
    · rename_i odd
      refine .inr ⟨fun member => ?_, rfl⟩
      obtain ⟨_, _, _, _, other, even⟩ := exists_run_of_mem_lowerPairs member
      cases found.symm.trans other
      exact odd even
  · rename_i none
    refine .inr ⟨fun member => ?_, rfl⟩
    obtain ⟨_, _, _, _, found, -⟩ := exists_run_of_mem_lowerPairs member
    rw [none] at found
    cases found

/-- What is no capital letter is mapped to itself. -/
theorem lowerChar_of_not_capital {c : Char} (h : ¬ IsCapital c) : lowerChar c = c := by
  rcases lowerChar_cases c with ⟨image, pair, -⟩ | ⟨-, same⟩
  · exact absurd (testBit_codeSetOf.mpr
      (List.mem_cons_of_mem _ (List.mem_map_of_mem (f := Prod.fst) pair))) h
  · exact same

/-- A capital letter is mapped to its image in the table, unless it is the dotted one. -/
theorem lowerChar_of_capital {c : Char} (h : IsCapital c) (notDotted : c ≠ 'İ') :
    ∃ image, (c.toNat, image) ∈ lowerPairs ∧ lowerChar c = Char.ofNat image := by
  rcases lowerChar_cases c with mapped | ⟨notIn, -⟩
  · exact mapped
  · rcases List.mem_cons.mp (testBit_codeSetOf.mp h) with dotted | mapped
    · refine absurd ?_ notDotted
      rw [← Char.ofNat_toNat c, dotted]
    · exact absurd mapped notIn

theorem isCapital_dotted : IsCapital 'İ' := testBit_codeSetOf.mpr (List.mem_cons_self ..)

/-- What is no capital letter stays as it is wherever it stands. -/
theorem lowerAt_of_not_capital {before : List Char} {c : Char} {after : List Char}
    (h : ¬ IsCapital c) : lowerAt before c after = [c] := by
  have notSigma : c ≠ 'Σ' := by
    rintro rfl
    exact h isCapital_sigma
  have notDotted : c ≠ 'İ' := by
    rintro rfl
    exact h isCapital_dotted
  rw [lowerAt, if_neg notSigma, if_neg notDotted, lowerChar_of_not_capital h]

/-- What a capital letter becomes is a small letter. -/
theorem testBit_smallLetters_of_mem_lowerAt {before : List Char} {c d : Char} {after : List Char}
    (h : IsCapital c) (member : d ∈ lowerAt before c after) :
    smallLetters.testBit d.toNat = true := by
  have special := List.all_eq_true.mp (CaseLaws.special caseLaws)
  rw [lowerAt] at member
  split at member
  · rw [List.mem_singleton.mp member]
    split
    · exact special 'ς' (by simp)
    · exact special 'σ' (by simp)
  · split at member
    · exact special d (List.mem_cons_of_mem _ (List.mem_cons_of_mem _ member))
    · rename_i notDotted
      rw [List.mem_singleton.mp member]
      obtain ⟨image, pair, same⟩ := lowerChar_of_capital h notDotted
      have inSmall : smallLetters.testBit image = true := testBit_codeSetOf.mpr
        (List.mem_cons_of_mem _ (List.mem_cons_of_mem _ (List.mem_cons_of_mem _
          (List.mem_map_of_mem (f := Prod.snd) pair))))
      rwa [same, toNat_ofNat (testBit_characters.mp
        (testBit_of_within (CaseLaws.small_within caseLaws) inSmall))]

theorem not_isCapital_of_smallLetter {c : Char} (h : smallLetters.testBit c.toNat = true) :
    ¬ IsCapital c := by
  rw [IsCapital, not_testBit_of_apart (CaseLaws.small_apart caseLaws) h]
  exact Bool.false_ne_true

/-- Nothing becomes a capital letter. -/
theorem not_isCapital_of_mem_lowerAt {before : List Char} {c d : Char} {after : List Char}
    (member : d ∈ lowerAt before c after) : ¬ IsCapital d := by
  by_cases capital : IsCapital c
  · exact not_isCapital_of_smallLetter (testBit_smallLetters_of_mem_lowerAt capital member)
  · rw [lowerAt_of_not_capital capital] at member
    rwa [List.mem_singleton.mp member]

/-! ## Texts -/

theorem exists_of_mem_lowerFrom {before text : List Char} {d : Char}
    (h : d ∈ lowerFrom before text) : ∃ front, ∃ c ∈ text, ∃ after, d ∈ lowerAt front c after := by
  induction text generalizing before with
  | nil => cases h
  | cons c rest ih =>
    rw [lowerFrom, List.mem_append] at h
    rcases h with here | later
    · exact ⟨before, c, List.mem_cons_self .., rest, here⟩
    · obtain ⟨front, e, member, after, found⟩ := ih later
      exact ⟨front, e, List.mem_cons_of_mem _ member, after, found⟩

/-- **No capital letter is left** in a lower-case form. -/
theorem not_isCapital_of_mem_lowercase {text : List Char} {d : Char} (h : d ∈ lowercase text) :
    ¬ IsCapital d := by
  obtain ⟨_, _, -, _, found⟩ := exists_of_mem_lowerFrom h
  exact not_isCapital_of_mem_lowerAt found

/-- A text without capital letters stays as it is behind any other. -/
theorem lowerFrom_of_not_capital {before text : List Char} (h : ∀ c ∈ text, ¬ IsCapital c) :
    lowerFrom before text = text := by
  induction text generalizing before with
  | nil => rfl
  | cons c rest ih =>
    obtain ⟨here, later⟩ := List.forall_mem_cons.mp h
    rw [lowerFrom, lowerAt_of_not_capital here, ih later, List.singleton_append]

/-- A text without capital letters is its own lower-case form. -/
theorem lowercase_of_not_capital {text : List Char} (h : ∀ c ∈ text, ¬ IsCapital c) :
    lowercase text = text :=
  lowerFrom_of_not_capital h

/-- **A lower-case form is its own lower-case form.** -/
theorem lowercase_lowercase (text : List Char) : lowercase (lowercase text) = lowercase text :=
  lowercase_of_not_capital fun _ h => not_isCapital_of_mem_lowercase h

/-! ## Small letters and decompositions -/

/-- A character of which the lower-case form has nothing to do with capital letters any more, also
when it is taken apart. -/
def Settles (c : Char) : Prop := IsCapital c ∨ ∀ d ∈ decomposeChar c, ¬ IsCapital d

/-- An elementary character settles. -/
theorem settles_of_elementary {c : Char} (h : IsElementary c) : Settles c := by
  by_cases capital : IsCapital c
  · exact .inl capital
  · refine .inr ?_
    rw [h]
    simpa using capital

theorem not_isCapital_of_jamo {c : Char} (h : jamo.testBit c.toNat = true) : ¬ IsCapital c := by
  have member : (jamo ||| syllables).testBit c.toNat = true := by
    rw [Nat.testBit_or, h, Bool.true_or]
  rw [IsCapital, not_testBit_of_apart (CaseLaws.hangul_apart caseLaws) member]
  exact Bool.false_ne_true

theorem not_isCapital_of_syllable {c : Char} (h : syllables.testBit c.toNat = true) :
    ¬ IsCapital c := by
  have member : (jamo ||| syllables).testBit c.toNat = true := by
    rw [Nat.testBit_or, h, Bool.or_true]
  rw [IsCapital, not_testBit_of_apart (CaseLaws.hangul_apart caseLaws) member]
  exact Bool.false_ne_true

/-- What a small letter is taken apart into has no capital letter. -/
theorem not_isCapital_of_mem_decomposeChar {c d : Char} (h : smallLetters.testBit c.toNat = true)
    (member : d ∈ decomposeChar c) : ¬ IsCapital d := by
  obtain ⟨single, multiple⟩ := Bool.and_eq_true_iff.mp (CaseLaws.taken_apart caseLaws)
  have notCapital {code : Nat} (standIn : standIns.testBit code = true)
      (h : capitals.testBit code = false) : ¬ IsCapital (Char.ofNat code) := by
    rw [IsCapital, toNat_ofNat_of_standIn standIn, h]
    exact Bool.false_ne_true
  have apart := takenApart c
  -- Otherwise `cases` would have to unify with the decomposition, and evaluate it.
  generalize decomposeChar c = parts at apart member
  cases apart with
  | syllable hl hv ht place =>
    exact not_isCapital_of_jamo (testBit_jamo_of_mem_letters hl hv ht member)
  | @replaced first last image run low high =>
    -- The laws of the tables speak of each place of a run, and `c` is at one of them.
    rw [List.mem_singleton.mp member]
    have law := List.all_eq_true.mp (List.all_eq_true.mp single _ run) (c.toNat - first)
      (List.mem_range.mpr (by simp only; omega))
    simp only [Nat.add_sub_cancel' low, h, Bool.not_true, Bool.false_or, Bool.not_eq_true'] at law
    exact notCapital (testBit_standIns_of_replaced run low high) law
  | @expanded first last parts run low high =>
    obtain ⟨code, part, rfl⟩ := List.mem_map.mp member
    have law := List.all_eq_true.mp (List.all_eq_true.mp multiple _ run) (c.toNat - first)
      (List.mem_range.mpr (by simp only; omega))
    simp only [Nat.add_sub_cancel' low, h, Bool.not_true, Bool.false_or] at law
    have here := List.all_eq_true.mp law code part
    exact notCapital (testBit_standIns_of_expanded run part) (by simpa using here)
  | whole =>
    rw [List.mem_singleton.mp member]
    exact not_isCapital_of_smallLetter h

/-- A composition is a capital letter exactly if its first part is one, and its second part never
is. -/
theorem isCapital_of_composes {a b c : Char} (h : Composes a b c) :
    (IsCapital a ↔ IsCapital c) ∧ ¬ IsCapital b := by
  cases h with
  | syllable hl hv first second composite =>
    have ha : ¬ IsCapital a := not_isCapital_of_jamo (testBit_jamo.mpr (by omega))
    have hb : ¬ IsCapital b := not_isCapital_of_jamo (testBit_jamo.mpr (by omega))
    have hc : ¬ IsCapital c := not_isCapital_of_syllable (testBit_syllables.mpr (by omega))
    exact ⟨iff_of_false ha hc, hb⟩
  | trailing hl hv positive ht first second composite =>
    have ha : ¬ IsCapital a := not_isCapital_of_syllable (testBit_syllables.mpr (by omega))
    have hb : ¬ IsCapital b := not_isCapital_of_jamo (testBit_jamo.mpr (by omega))
    have hc : ¬ IsCapital c := not_isCapital_of_syllable (testBit_syllables.mpr (by omega))
    exact ⟨iff_of_false ha hc, hb⟩
  | table member =>
    have law := List.all_eq_true.mp (CaseLaws.composed caseLaws) _ member
    simp only [Bool.and_eq_true, beq_iff_eq, Bool.not_eq_true'] at law
    rw [IsCapital, IsCapital, IsCapital, law.1, law.2]
    exact ⟨Iff.rfl, Bool.false_ne_true⟩

end TextVec.Text
