import TextVec.Text.Normalization
import TextVec.Proofs.Text.RunTable

/-!
# Taking characters apart

What a character is taken apart into is found in three ways: by arithmetic if it is a Hangul
syllable, and else in one of two tables. Main statements: what the tables have for a code point is
what it is taken apart into, what a character is taken apart into cannot be taken apart any further,
and a composition of two characters is taken apart into what the first one is taken apart into and
the second one.
-/

namespace TextVec.Text

/-! ## The tables -/

/-- The code points of characters. -/
def characters : Nat := codeSet [(0, 0xD7FF), (0xE000, 0x10FFFF)]

/-- The code points of Hangul syllables. -/
def syllables : Nat := codeSet [(0xAC00, 0xD7A3)]

/-- The code points of the letters of which Hangul syllables consist. -/
def jamo : Nat := codeSet [(0x1100, 0x1112), (0x1161, 0x1175), (0x11A8, 0x11C2)]

/-- The code points for which another one stands. -/
def replaced : Nat := codeSet (ends (allRuns Table.singleDecomposition))

/-- The code points for which several others stand. -/
def expanded : Nat := codeSet (ends (allRuns Table.multipleDecomposition))

/-- All code points that are taken apart. -/
def decomposable : Nat := syllables ||| (replaced ||| expanded)

/-- The code points that stand for others in the tables. -/
def standIns : Nat :=
  codeSet ((allRuns Table.singleDecomposition).map fun run =>
      (run.2.2, run.2.2 + (run.2.1 - run.1))) |||
    codeSetOf ((allRuns Table.multipleDecomposition).flatMap fun run => run.2.2)

/-- The runs with one stand-in are in order and do not overlap, so that bisection finds what is
there. -/
theorem ascending_singleDecomposition : Ascending (ends (allRuns Table.singleDecomposition)) :=
  ascending_of_ascends (show ascends 0 _ = true by decide +kernel)

theorem ascending_multipleDecomposition : Ascending (ends (allRuns Table.multipleDecomposition)) :=
  ascending_of_ascends (show ascends 0 _ = true by decide +kernel)

/-- What the tables of decompositions keep to: no code point is taken apart in two ways, and what
stands for others are characters that are not taken apart themselves. -/
structure DecompositionLaws : Prop where
  /-- All stand-ins are code points of characters. -/
  standIns_within : standIns ||| characters = characters
  /-- Neither stand-ins nor letters of syllables are taken apart. -/
  parts_apart : (jamo ||| standIns) &&& decomposable = 0
  /-- The tables have nothing for a syllable, which arithmetic takes apart. -/
  syllables_apart : (replaced ||| expanded) &&& syllables = 0
  /-- No code point is in both tables. -/
  expanded_apart : expanded &&& replaced = 0

/-- The tables keep these laws: four operations on sets of code points that are numbers. -/
theorem decompositionLaws : DecompositionLaws where
  standIns_within := by decide +kernel
  parts_apart := by decide +kernel
  syllables_apart := by decide +kernel
  expanded_apart := by decide +kernel

/-- A set of code points has what it was made of: here, the characters. -/
theorem testBit_characters {code : Nat} : characters.testBit code = true ↔ code.isValidChar := by
  rw [characters, testBit_codeSet]
  simp only [List.mem_cons, List.not_mem_nil, or_false, exists_eq_or_imp, exists_eq_left,
    Nat.isValidChar]
  omega

theorem testBit_syllables {code : Nat} :
    syllables.testBit code = true ↔ 0xAC00 ≤ code ∧ code ≤ 0xD7A3 := by
  simp [syllables, testBit_codeSet]

theorem testBit_jamo {code : Nat} :
    jamo.testBit code = true ↔ 0x1100 ≤ code ∧ code ≤ 0x1112 ∨ 0x1161 ≤ code ∧ code ≤ 0x1175 ∨
      0x11A8 ≤ code ∧ code ≤ 0x11C2 := by
  simp [jamo, testBit_codeSet]

theorem toNat_ofNat {code : Nat} (h : code.isValidChar) : (Char.ofNat code).toNat = code := by
  rw [Char.ofNat, dif_pos h]
  rfl

/-! ## Hangul -/

namespace Hangul

theorem isSyllable_iff {code : Nat} :
    (decide (syllableBase ≤ code) && decide (code - syllableBase < syllableCount)) = true ↔
      0xAC00 ≤ code ∧ code ≤ 0xD7A3 := by
  have count : syllableCount = 11172 := rfl
  rw [Bool.and_eq_true, decide_eq_true_eq, decide_eq_true_eq, count, syllableBase]
  omega

/-- Arithmetic answers for syllables only. -/
theorem decompose?_eq_none {c : Char} (h : syllables.testBit c.toNat = false) :
    decompose? c = none := by
  rw [decompose?, if_neg]
  rw [isSyllable_iff, ← testBit_syllables, h]
  exact Bool.false_ne_true

/-- The letters of a syllable by their places in the alphabet. -/
def letters (l v t : Nat) : List Char :=
  Char.ofNat (0x1100 + l) :: Char.ofNat (0x1161 + v) ::
    if t = 0 then [] else [Char.ofNat (0x11A7 + t)]

/-- A syllable is taken apart into the letters that its place is made of. -/
theorem decompose?_of_place {c : Char} {l v t : Nat} (hl : l < 19) (hv : v < 21) (ht : t < 28)
    (place : c.toNat = 0xAC00 + (l * 21 + v) * 28 + t) : decompose? c = some (letters l v t) := by
  have within : (decide (syllableBase ≤ c.toNat) &&
      decide (c.toNat - syllableBase < syllableCount)) = true := by
    rw [isSyllable_iff]
    omega
  have offset : c.toNat - syllableBase = (l * 21 + v) * 28 + t := by
    rw [place, syllableBase]
    omega
  have leading : ((l * 21 + v) * 28 + t) / (vowelCount * trailingCount) = l := by
    show ((l * 21 + v) * 28 + t) / 588 = l
    omega
  have vowel : ((l * 21 + v) * 28 + t) % (vowelCount * trailingCount) / trailingCount = v := by
    show ((l * 21 + v) * 28 + t) % 588 / 28 = v
    omega
  have trailing : ((l * 21 + v) * 28 + t) % trailingCount = t := by
    show ((l * 21 + v) * 28 + t) % 28 = t
    omega
  rw [decompose?, if_pos within]
  simp only [offset, leading, vowel, trailing]
  rfl

/-- A syllable has a place among the syllables. -/
theorem exists_place {code : Nat} (low : 0xAC00 ≤ code) (high : code ≤ 0xD7A3) :
    ∃ l v t, l < 19 ∧ v < 21 ∧ t < 28 ∧ code = 0xAC00 + (l * 21 + v) * 28 + t :=
  ⟨(code - 0xAC00) / 588, (code - 0xAC00) / 28 % 21, (code - 0xAC00) % 28, by omega, by omega,
    by omega, by omega⟩

/-- What composes to a syllable: a leading consonant and a vowel, or a syllable without a trailing
consonant and one. -/
theorem eq_of_compose? {a b c : Char} (h : compose? a b = some c) :
    (∃ l v, l < 19 ∧ v < 21 ∧ a.toNat = 0x1100 + l ∧ b.toNat = 0x1161 + v ∧
      c = Char.ofNat (0xAC00 + (l * 21 + v) * 28)) ∨
    ∃ l v t, l < 19 ∧ v < 21 ∧ 0 < t ∧ t < 28 ∧ a.toNat = 0xAC00 + (l * 21 + v) * 28 ∧
      b.toNat = 0x11A7 + t ∧ c = Char.ofNat (0xAC00 + (l * 21 + v) * 28 + t) := by
  rw [compose?] at h
  simp only [Bool.and_eq_true, decide_eq_true_eq] at h
  split at h
  -- A leading consonant and a vowel: their places are what the bounds of the test leave.
  · rename_i both
    rw [leadingBase, leadingCount, vowelBase, vowelCount] at both
    exact .inl ⟨a.toNat - 0x1100, b.toNat - 0x1161, by omega, by omega, by omega, by omega,
      (Option.some.inj h).symm⟩
  -- Otherwise the first one is a syllable that still lacks a trailing consonant.
  · split at h
    · rename_i both
      have count : syllableCount = 11172 := rfl
      rw [count, syllableBase, trailingBase, trailingCount] at both
      obtain ⟨l, v, t, hl, hv, ht, place⟩ := @exists_place a.toNat (by omega) (by omega)
      -- The test asks that the place of the syllable is a multiple of the number of trailing
      -- consonants.
      obtain rfl : t = 0 := by omega
      refine .inr ⟨l, v, b.toNat - 0x11A7, hl, hv, by omega, by omega, place, by omega, ?_⟩
      rw [← Option.some.inj h, place]
      rfl
    · cases h

end Hangul

/-! ## Taking apart -/

/-- What a character is taken apart into. -/
inductive TakenApart (c : Char) : List Char → Prop where
  /-- By arithmetic, into two or three letters. -/
  | syllable {l v t : Nat} (hl : l < 19) (hv : v < 21) (ht : t < 28)
      (place : c.toNat = 0xAC00 + (l * 21 + v) * 28 + t) : TakenApart c (Hangul.letters l v t)
  /-- By the first table, into the character as far from the stand-in as it is from its run's
  beginning. -/
  | replaced {first last image : Nat}
      (member : (first, last, image) ∈ allRuns Table.singleDecomposition)
      (low : first ≤ c.toNat) (high : c.toNat ≤ last) :
      TakenApart c [Char.ofNat (image + (c.toNat - first))]
  /-- By the second table, into all characters that it lists. -/
  | expanded {first last : Nat} {parts : List Nat}
      (member : (first, last, parts) ∈ allRuns Table.multipleDecomposition)
      (low : first ≤ c.toNat) (high : c.toNat ≤ last) : TakenApart c (parts.map Char.ofNat)
  /-- Not at all. -/
  | whole (h : decomposable.testBit c.toNat = false) : TakenApart c [c]

theorem testBit_decomposable {code : Nat} :
    decomposable.testBit code = true ↔ syllables.testBit code = true ∨
      replaced.testBit code = true ∨ expanded.testBit code = true := by
  simp [decomposable]

/-- What the tables have is no syllable, so that arithmetic passes it on to them. -/
theorem decompose?_of_table {c : Char} (h : (replaced ||| expanded).testBit c.toNat = true) :
    Hangul.decompose? c = none :=
  Hangul.decompose?_eq_none
    (not_testBit_of_apart (DecompositionLaws.syllables_apart decompositionLaws) h)

theorem decomposeChar_of_place {c : Char} {l v t : Nat} (hl : l < 19) (hv : v < 21) (ht : t < 28)
    (place : c.toNat = 0xAC00 + (l * 21 + v) * 28 + t) :
    decomposeChar c = Hangul.letters l v t := by
  rw [decomposeChar, Hangul.decompose?_of_place hl hv ht place]

/-- What the first table has for a code point is what it is taken apart into. -/
theorem decomposeChar_of_replaced {c : Char} {first last image : Nat}
    (member : (first, last, image) ∈ allRuns Table.singleDecomposition) (low : first ≤ c.toNat)
    (high : c.toNat ≤ last) : decomposeChar c = [Char.ofNat (image + (c.toNat - first))] := by
  have here : replaced.testBit c.toNat = true := testBit_of_mem_ends member ⟨low, high⟩
  have found := (findSome?_findRun_eq_some_iff ascending_singleDecomposition).mpr
    ⟨member, low, high⟩
  rw [decomposeChar, decompose?_of_table (by simp [here]), found]

/-- What the second table has for a code point is what it is taken apart into, since the first one
has nothing. -/
theorem decomposeChar_of_expanded {c : Char} {first last : Nat} {parts : List Nat}
    (member : (first, last, parts) ∈ allRuns Table.multipleDecomposition) (low : first ≤ c.toNat)
    (high : c.toNat ≤ last) : decomposeChar c = parts.map Char.ofNat := by
  have here : expanded.testBit c.toNat = true := testBit_of_mem_ends member ⟨low, high⟩
  have found := (findSome?_findRun_eq_some_iff ascending_multipleDecomposition).mpr
    ⟨member, low, high⟩
  have elsewhere : replaced.testBit c.toNat = false :=
    not_testBit_of_apart (DecompositionLaws.expanded_apart decompositionLaws) here
  have notReplaced := (findSome?_findRun_eq_none_iff ascending_singleDecomposition).mpr elsewhere
  rw [decomposeChar, decompose?_of_table (by simp [here]), notReplaced]
  simp only [found]

/-- **What a character is taken apart into** has come about in one of the four ways. -/
theorem takenApart (c : Char) : TakenApart c (decomposeChar c) := by
  by_cases syllable : syllables.testBit c.toNat = true
  · obtain ⟨low, high⟩ := testBit_syllables.mp syllable
    obtain ⟨l, v, t, hl, hv, ht, place⟩ := Hangul.exists_place low high
    rw [decomposeChar_of_place hl hv ht place]
    exact .syllable hl hv ht place
  -- The tables are asked in order; where none of them answers, `c` is not in `decomposable`.
  · have noSyllable := Hangul.decompose?_eq_none (c := c) (by simpa using syllable)
    cases single : Table.singleDecomposition.findSome? (findRun · c.toNat) with
    | some run =>
      obtain ⟨member, low, high⟩ :=
        (findSome?_findRun_eq_some_iff ascending_singleDecomposition).mp single
      rw [decomposeChar_of_replaced member low high]
      exact .replaced member low high
    | none =>
      cases multiple : Table.multipleDecomposition.findSome? (findRun · c.toNat) with
      | some run =>
        obtain ⟨member, low, high⟩ :=
          (findSome?_findRun_eq_some_iff ascending_multipleDecomposition).mp multiple
        rw [decomposeChar_of_expanded member low high]
        exact .expanded member low high
      | none =>
        rw [decomposeChar, noSyllable, single]
        simp only [multiple]
        rw [findSome?_findRun_eq_none_iff ascending_singleDecomposition] at single
        rw [findSome?_findRun_eq_none_iff ascending_multipleDecomposition] at multiple
        refine .whole (Bool.eq_false_iff.mpr fun apart => ?_)
        rcases testBit_decomposable.mp apart with here | here | here
        · exact syllable here
        · rw [replaced, single] at here
          cases here
        · rw [expanded, multiple] at here
          cases here

/-- A character that is in none of the three sets stays as it is. -/
theorem decomposeChar_of_whole {c : Char} (h : decomposable.testBit c.toNat = false) :
    decomposeChar c = [c] := by
  have apart := takenApart c
  have whole : ¬ (syllables.testBit c.toNat = true ∨ replaced.testBit c.toNat = true ∨
      expanded.testBit c.toNat = true) := by
    rw [← testBit_decomposable, h]
    decide
  -- Each of the other three ways would put `c` into one of the sets.
  generalize decomposeChar c = parts at apart
  cases apart with
  | syllable hl hv ht place =>
    exact absurd (.inl (testBit_syllables.mpr ⟨by omega, by omega⟩)) whole
  | replaced member low high =>
    exact absurd (.inr (.inl (testBit_of_mem_ends member ⟨low, high⟩))) whole
  | expanded member low high =>
    exact absurd (.inr (.inr (testBit_of_mem_ends member ⟨low, high⟩))) whole
  | whole => rfl

/-- What a syllable is taken apart into are letters of syllables. -/
theorem testBit_jamo_of_mem_letters {l v t : Nat} (hl : l < 19) (hv : v < 21) (ht : t < 28)
    {d : Char} (h : d ∈ Hangul.letters l v t) : jamo.testBit d.toNat = true := by
  have letter {code : Nat} (h : jamo.testBit code = true) :
      jamo.testBit (Char.ofNat code).toNat = true := by
    have range := testBit_jamo.mp h
    rwa [toNat_ofNat (.inl (by omega))]
  simp only [Hangul.letters, List.mem_cons] at h
  rcases h with rfl | rfl | h
  · exact letter (testBit_jamo.mpr (by omega))
  · exact letter (testBit_jamo.mpr (by omega))
  · split at h
    · cases h
    · rw [List.mem_singleton.mp h]
      exact letter (testBit_jamo.mpr (by omega))

/-- A run of stand-ins is as long as the run that they stand for. -/
theorem testBit_standIns_of_replaced {first last image code : Nat}
    (member : (first, last, image) ∈ allRuns Table.singleDecomposition) (low : first ≤ code)
    (high : code ≤ last) : standIns.testBit (image + (code - first)) = true := by
  have inRun : (codeSet ((allRuns Table.singleDecomposition).map fun run =>
      (run.2.2, run.2.2 + (run.2.1 - run.1)))).testBit (image + (code - first)) = true :=
    testBit_codeSet.mpr ⟨_, List.mem_map_of_mem member, by simp only; omega⟩
  rw [standIns, Nat.testBit_or, inRun, Bool.true_or]

theorem testBit_standIns_of_expanded {first last part : Nat} {parts : List Nat}
    (member : (first, last, parts) ∈ allRuns Table.multipleDecomposition) (h : part ∈ parts) :
    standIns.testBit part = true := by
  have inParts : (codeSetOf ((allRuns Table.multipleDecomposition).flatMap fun run =>
      run.2.2)).testBit part = true :=
    testBit_codeSetOf.mpr (List.mem_flatMap.mpr ⟨_, member, h⟩)
  rw [standIns, Nat.testBit_or, inParts, Bool.or_true]

theorem toNat_ofNat_of_standIn {code : Nat} (h : standIns.testBit code = true) :
    (Char.ofNat code).toNat = code :=
  toNat_ofNat (testBit_characters.mp
    (testBit_of_within (DecompositionLaws.standIns_within decompositionLaws) h))

/-- What stands for others is not taken apart. -/
theorem not_testBit_of_part {code : Nat} (h : (jamo ||| standIns).testBit code = true) :
    decomposable.testBit code = false :=
  not_testBit_of_apart (DecompositionLaws.parts_apart decompositionLaws) h

/-- What a character is taken apart into is in none of the sets of what is taken apart. -/
theorem not_testBit_of_mem_decomposeChar {c d : Char} (h : d ∈ decomposeChar c) :
    decomposable.testBit d.toNat = false := by
  have standIn {code : Nat} (h : standIns.testBit code = true) :
      decomposable.testBit (Char.ofNat code).toNat = false := by
    rw [toNat_ofNat_of_standIn h]
    exact not_testBit_of_part (by rw [Nat.testBit_or, h, Bool.or_true])
  -- Letters and stand-ins are apart from what is taken apart, and the rest is taken apart in no
  -- way.
  have apart := takenApart c
  generalize decomposeChar c = parts at apart h
  cases apart with
  | syllable hl hv ht place =>
    refine not_testBit_of_part ?_
    rw [Nat.testBit_or, testBit_jamo_of_mem_letters hl hv ht h, Bool.true_or]
  | replaced member low high =>
    rw [List.mem_singleton.mp h]
    exact standIn (testBit_standIns_of_replaced member low high)
  | expanded member low high =>
    obtain ⟨code, part, rfl⟩ := List.mem_map.mp h
    exact standIn (testBit_standIns_of_expanded member part)
  | whole whole => rwa [List.mem_singleton.mp h]

/-- A character that is not taken apart. -/
def IsElementary (c : Char) : Prop := decomposeChar c = [c]

/-- A character is elementary exactly if it is outside of the three sets. -/
theorem isElementary_iff {c : Char} : IsElementary c ↔ decomposable.testBit c.toNat = false := by
  refine ⟨fun h => not_testBit_of_mem_decomposeChar (c := c) ?_, decomposeChar_of_whole⟩
  rw [h]
  exact List.mem_singleton_self c

/-- **Nothing is left to be taken apart** in what a character is taken apart into. -/
theorem isElementary_of_mem_decomposeChar {c d : Char} (h : d ∈ decomposeChar c) :
    IsElementary d :=
  isElementary_iff.mpr (not_testBit_of_mem_decomposeChar h)

/-- Taking a text of elementary characters apart leaves it as it is. -/
theorem flatMap_decomposeChar_of_elementary {text : List Char} (h : ∀ c ∈ text, IsElementary c) :
    text.flatMap decomposeChar = text := by
  induction text with
  | nil => rfl
  | cons c rest ih =>
    obtain ⟨here, later⟩ := List.forall_mem_cons.mp h
    rw [List.flatMap_cons, here, ih later, List.singleton_append]

/-! ## Compositions -/

/-- The code points that compose with what follows them. -/
def firsts : Nat := codeSetOf ((allRuns Table.composition).map fun triple => triple.1)

/-- The code points that compose with what is before them. -/
def seconds : Nat := codeSetOf ((allRuns Table.composition).map fun triple => triple.2.1)

/-- The code points that something composes to. -/
def composites : Nat := codeSetOf ((allRuns Table.composition).map fun triple => triple.2.2)

/-- A composition as a run of the table of keys, of which it is the only key. -/
def keyed (triple : Nat × Nat × Nat) : Nat × Nat × Nat :=
  (pairKey triple.1 triple.2.1, pairKey triple.1 triple.2.1, triple.2.2)

/-- What the tables have for a code point, as far as trees of them find it. -/
def partsIn? (single : SearchTree (Nat × Nat × Nat)) (multiple : SearchTree (Nat × Nat × List Nat))
    (code : Nat) : Option (List Nat) :=
  match multiple.find? (·.1) code with
  | some run => some run.2.2
  | none =>
    match single.find? (·.1) code with
    | some run => some [run.2.2]
    | none => if decomposable.testBit code then none else some [code]

/-- Whether each composition is taken apart into what its first part is taken apart into and the
second one. -/
def takesCompositionsApart : Bool :=
  match SearchTree.ofPrefix 13 (allRuns Table.singleDecomposition),
    SearchTree.ofPrefix 13 (allRuns Table.multipleDecomposition) with
  | (single, _), (multiple, _) =>
    (allRuns Table.composition).all fun (first, second, composite) =>
      match partsIn? single multiple first, partsIn? single multiple composite with
      | some front, some parts => parts == front ++ [second]
      | _, _ => false

/-- What the table of compositions keeps to: the keys of its pairs ascend, it is about characters,
of which none that composes with what follows it is a Hangul one, and a composition is taken apart
into its parts. -/
structure CompositionLaws : Prop where
  /-- The keys of the pairs ascend. -/
  ascending : Ascending (ends ((allRuns Table.composition).map keyed))
  /-- What is composed with and what is composed to are code points of characters. -/
  within : (seconds ||| composites) ||| characters = characters
  /-- The first part of a pair is neither a syllable nor a letter of one. -/
  firsts_apart : firsts &&& (jamo ||| syllables) = 0
  /-- Every composition is taken apart again. -/
  taken_apart : takesCompositionsApart = true

theorem compositionLaws : CompositionLaws where
  ascending := ascending_of_ascends (show ascends 0 _ = true by decide +kernel)
  within := by decide +kernel
  firsts_apart := by decide +kernel
  taken_apart := by decide +kernel

theorem lt_of_isValidChar {code : Nat} (h : code.isValidChar) : code < 0x110000 := by
  rcases h with low | high
  · exact Nat.lt_trans low (by omega)
  · exact high.2

/-- A triple of the table consists of characters, as far as that is not known from the text it is
looked up for. -/
theorem valid_of_mem_composition {first second composite : Nat}
    (h : (first, second, composite) ∈ allRuns Table.composition) :
    second.isValidChar ∧ composite.isValidChar := by
  have valid {code : Nat} (h : seconds.testBit code = true ∨ composites.testBit code = true) :
      code.isValidChar := by
    rw [← Bool.or_eq_true, ← Nat.testBit_or] at h
    exact testBit_characters.mp (testBit_of_within (CompositionLaws.within compositionLaws) h)
  exact ⟨valid (.inl (testBit_codeSetOf.mpr
      (List.mem_map_of_mem (f := fun triple => triple.2.1) h))),
    valid (.inr (testBit_codeSetOf.mpr (List.mem_map_of_mem (f := fun triple => triple.2.2) h)))⟩

/-- The key of a pair is made of two code points, so it is that of no other pair. -/
theorem eq_of_pairKey {a b x y : Nat} (second : b.isValidChar) (other : y.isValidChar)
    (same : pairKey a b = pairKey x y) : a = x ∧ b = y := by
  have low := lt_of_isValidChar second
  have high := lt_of_isValidChar other
  simp only [pairKey] at same
  omega

/-- The pairs of the table, and those of Hangul letters. -/
inductive Composes (a b c : Char) : Prop where
  /-- A leading consonant and a vowel. -/
  | syllable {l v : Nat} (hl : l < 19) (hv : v < 21) (first : a.toNat = 0x1100 + l)
      (second : b.toNat = 0x1161 + v) (composite : c.toNat = 0xAC00 + (l * 21 + v) * 28)
  /-- A syllable that ends in a vowel, and a trailing consonant. -/
  | trailing {l v t : Nat} (hl : l < 19) (hv : v < 21) (positive : 0 < t) (ht : t < 28)
      (first : a.toNat = 0xAC00 + (l * 21 + v) * 28) (second : b.toNat = 0x11A7 + t)
      (composite : c.toNat = 0xAC00 + (l * 21 + v) * 28 + t)
  /-- A pair of the table. -/
  | table (member : (a.toNat, b.toNat, c.toNat) ∈ allRuns Table.composition)

/-- Looking a key up among pairs is looking it up among runs of one key each. -/
theorem findRun_keyed (table : Array (Nat × Nat × Nat)) (key : Nat) :
    ((locate (fun i => table[i]?.map fun (a, b, _) => (pairKey a b, pairKey a b)) key table.size 0
        table.size).bind fun i => table[i]?.map fun (_, _, composite) => Char.ofNat composite) =
      (findRun (table.map keyed) key).map fun run => Char.ofNat run.2.2 := by
  simp only [findRun, Array.getElem?_map, Array.size_map, Option.map_map, Option.map_bind,
    Function.comp_def, keyed]

/-- Without a rule for Hangul, a pair composes to what the runs of keys have for its key. -/
theorem composePair?_eq_of_not_hangul {a b : Char} (h : Hangul.compose? a b = none) :
    composePair? a b =
      ((Table.composition.map fun table => table.map keyed).findSome?
        (findRun · (pairKey a.toNat b.toNat))).map fun run => Char.ofNat run.2.2 := by
  rw [composePair?, h]
  simp only [findRun_keyed]
  generalize Table.composition = tables
  induction tables with
  | nil => rfl
  | cons table rest ih =>
    rw [List.findSome?_cons, List.map_cons, List.findSome?_cons, ih]
    cases findRun (table.map keyed) (pairKey a.toNat b.toNat) <;> rfl

theorem allRuns_map (tables : List (Array α)) (f : α → β) :
    allRuns (tables.map fun table => table.map f) = (allRuns tables).map f := by
  simp only [allRuns, List.flatMap_map, Array.toList_map, List.map_flatMap]

theorem ascending_keyed :
    Ascending (ends (allRuns (Table.composition.map fun table => table.map keyed))) := by
  rw [allRuns_map]
  exact CompositionLaws.ascending compositionLaws

/-- What two characters compose to is composed by the rule for Hangul or by the table. -/
theorem composes_of_composePair? {a b c : Char} (h : composePair? a b = some c) :
    Composes a b c := by
  cases hangul : Hangul.compose? a b with
  | some syllable =>
    rw [composePair?, hangul] at h
    cases h
    rcases Hangul.eq_of_compose? hangul with
      ⟨l, v, hl, hv, first, second, rfl⟩ | ⟨l, v, t, hl, hv, positive, ht, first, second, rfl⟩
    · exact .syllable hl hv first second (toNat_ofNat (.inl (by omega)))
    · exact .trailing hl hv positive ht first second (toNat_ofNat (.inl (by omega)))
  | none =>
    rw [composePair?_eq_of_not_hangul hangul] at h
    obtain ⟨run, found, rfl⟩ := Option.map_eq_some_iff.mp h
    obtain ⟨member, low, high⟩ := (findSome?_findRun_eq_some_iff ascending_keyed).mp found
    rw [allRuns_map] at member
    obtain ⟨⟨x, y, composite⟩, triple, rfl⟩ := List.mem_map.mp member
    obtain ⟨second, third⟩ := valid_of_mem_composition triple
    -- A run has one key only, and a key is that of one pair.
    obtain ⟨rfl, rfl⟩ : x = a.toNat ∧ y = b.toNat :=
      eq_of_pairKey second b.valid (Nat.le_antisymm low high)
    refine .table ?_
    rwa [keyed, toNat_ofNat third]

/-- What the table has for a pair is what it composes to. -/
theorem composePair?_of_table {a b c : Char}
    (h : (a.toNat, b.toNat, c.toNat) ∈ allRuns Table.composition) : composePair? a b = some c := by
  have first := testBit_codeSetOf.mpr (List.mem_map_of_mem (f := fun triple => triple.1) h)
  -- The rule for syllables is asked first, and no first part in the table is one of its letters.
  have apart := not_testBit_of_apart (CompositionLaws.firsts_apart compositionLaws) first
  have notHangul : Hangul.compose? a b = none := by
    rw [Nat.testBit_or, Bool.or_eq_false_iff] at apart
    cases composed : Hangul.compose? a b with
    | none => rfl
    | some d =>
      rcases Hangul.eq_of_compose? composed with
        ⟨l, v, hl, hv, start, -, -⟩ | ⟨l, v, t, hl, hv, positive, ht, start, -, -⟩
      · rw [testBit_jamo.mpr (by omega)] at apart
        cases apart.1
      · rw [testBit_syllables.mpr (by omega)] at apart
        cases apart.2
  have found := (findSome?_findRun_eq_some_iff ascending_keyed).mpr
    (show keyed (a.toNat, b.toNat, c.toNat) ∈ _ ∧ _ ≤ pairKey a.toNat b.toNat ∧
        pairKey a.toNat b.toNat ≤ _ from
      ⟨by rw [allRuns_map]; exact List.mem_map_of_mem h, Nat.le_refl _, Nat.le_refl _⟩)
  rw [composePair?_eq_of_not_hangul notHangul, found, Option.map_some, keyed, Char.ofNat_toNat]

/-- What is found in the trees is what a character is taken apart into. -/
theorem decomposeChar_of_partsIn? {c : Char} {parts : List Nat}
    (h : partsIn? (SearchTree.ofPrefix 13 (allRuns Table.singleDecomposition)).1
      (SearchTree.ofPrefix 13 (allRuns Table.multipleDecomposition)).1 c.toNat = some parts) :
    decomposeChar c = parts.map Char.ofNat := by
  rw [partsIn?] at h
  split at h
  · rename_i run found
    cases h
    -- The tree finds a run by its first code point, which is in the run since runs are proper.
    obtain ⟨member, same⟩ := SearchTree.mem_of_find?_ofPrefix found
    have proper := ascending_multipleDecomposition.proper _ (List.mem_map_of_mem member)
    exact decomposeChar_of_expanded member (Nat.le_of_eq same) (same ▸ proper)
  · split at h
    · rename_i run found
      cases h
      obtain ⟨member, same⟩ := SearchTree.mem_of_find?_ofPrefix found
      have proper := ascending_singleDecomposition.proper _ (List.mem_map_of_mem member)
      have apart := decomposeChar_of_replaced member (Nat.le_of_eq same) (same ▸ proper)
      rwa [← same, Nat.sub_self] at apart
    · split at h
      · cases h
      · rename_i whole
        cases h
        rw [decomposeChar_of_whole (by simpa using whole), List.map_singleton, Char.ofNat_toNat]

/-- **A composition is taken apart** into what its first part is taken apart into and its second
one. -/
theorem decomposeChar_of_composes {a b c : Char} (h : Composes a b c) :
    decomposeChar c = decomposeChar a ++ [b] := by
  cases h with
  | @syllable l v hl hv first second composite =>
    have ha : Char.ofNat (0x1100 + l) = a := by rw [← first, Char.ofNat_toNat]
    have hb : Char.ofNat (0x1161 + v) = b := by rw [← second, Char.ofNat_toNat]
    have letter : (jamo ||| standIns).testBit a.toNat = true := by
      rw [Nat.testBit_or, testBit_jamo.mpr (by omega), Bool.true_or]
    have whole : decomposeChar a = [a] := isElementary_iff.mpr (not_testBit_of_part letter)
    rw [whole, decomposeChar_of_place hl hv (Nat.succ_pos 27) composite, Hangul.letters, ha, hb]
    rfl
  | @trailing l v t hl hv positive ht first second composite =>
    have hb : Char.ofNat (0x11A7 + t) = b := by rw [← second, Char.ofNat_toNat]
    rw [decomposeChar_of_place hl hv ht composite,
      decomposeChar_of_place hl hv (Nat.succ_pos 27) first, Hangul.letters, Hangul.letters,
      if_neg (Nat.ne_of_gt positive), hb]
    rfl
  | table member =>
    -- For the table this is its last law, read at the triple.
    have law := List.all_eq_true.mp (CompositionLaws.taken_apart compositionLaws) _ member
    simp only at law
    split at law
    · rename_i front parts hFront hParts
      rw [beq_iff_eq] at law
      rw [decomposeChar_of_partsIn? hFront, decomposeChar_of_partsIn? hParts, law, List.map_append,
        List.map_singleton, Char.ofNat_toNat]
    · cases law

end TextVec.Text
