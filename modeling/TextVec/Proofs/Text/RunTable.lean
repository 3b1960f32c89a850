import TextVec.Text.RunTable

/-!
# Runs of code points

Bisection finds exactly the run that holds a code point, if the runs ascend. A list of runs is also
a single number that has a binary digit for every code point: then two tables have no code point in
common exactly if the numbers have no digit in common, and laws about whole tables are decided by
one operation on numbers.
-/

namespace TextVec.Text

/-! ## Bisection -/

section Bisection

variable {bounds : Nat → Option (Nat × Nat)} {key steps lo hi i : Nat}

/-- What bisection finds holds the key. -/
theorem holds_of_locate (h : locate bounds key steps lo hi = some i) :
    ∃ first last, bounds i = some (first, last) ∧ first ≤ key ∧ key ≤ last := by
  induction steps generalizing lo hi with
  | zero => cases h
  | succ steps ih =>
    rw [locate] at h
    split at h
    · cases h
    · simp only at h
      split at h
      · cases h
      · rename_i first last middle
        split at h
        · exact ih h
        · split at h
          · exact ih h
          · cases h
            exact ⟨first, last, middle, by omega, by omega⟩

/-- A run is found that holds the key, if the runs before it end before the key and the runs after
it begin after the key. -/
theorem locate_of_holds {first last : Nat} (enough : hi - lo ≤ steps) (low : lo ≤ i)
    (high : i < hi) (here : bounds i = some (first, last)) (holds : first ≤ key ∧ key ≤ last)
    (before : ∀ j < i, ∃ f l, bounds j = some (f, l) ∧ f ≤ l ∧ l < key)
    (after : ∀ j, i < j → j < hi → ∃ f l, bounds j = some (f, l) ∧ key < f) :
    locate bounds key steps lo hi = some i := by
  -- On the steps that are left; the run stays between the two bounds.
  induction steps generalizing lo hi with
  | zero => omega
  | succ steps ih =>
    rw [locate, if_neg (by omega)]
    simp only
    -- The side that is given up lies wholly before or wholly after the run.
    rcases Nat.lt_trichotomy ((lo + hi) / 2) i with less | same | more
    · obtain ⟨f, l, middle, order, ended⟩ := before _ less
      rw [middle]
      simp only
      rw [if_neg (by omega), if_pos ended]
      exact ih (by omega) (by omega) high after
    · rw [same, here]
      simp only
      rw [if_neg (by omega), if_neg (by omega)]
    · obtain ⟨f, l, middle, begins⟩ := after _ more (by omega)
      rw [middle]
      simp only
      rw [if_pos begins]
      exact ih (by omega) low more fun j above below => after j above (by omega)

end Bisection

/-! ## Ascending runs -/

/-- Whether each run ends at its beginning or later, and begins after the end of the run before it;
the first one does not begin before `low`. -/
def ascends : (low : Nat) → List (Nat × Nat) → Bool
  | _, [] => true
  | low, (first, last) :: rest => low ≤ first && first ≤ last && ascends (last + 1) rest

/-- Runs in ascending order. -/
structure Ascending (runs : List (Nat × Nat)) : Prop where
  /-- Each run ends before all later ones begin. -/
  ordered : runs.Pairwise fun a b => a.2 < b.1
  /-- No run ends before it begins. -/
  proper : ∀ run ∈ runs, run.1 ≤ run.2

/-- The test of two neighbours each is enough for all runs. -/
theorem ascending_of_ascends {low : Nat} {runs : List (Nat × Nat)} (h : ascends low runs = true) :
    Ascending runs := by
  have below {low : Nat} {runs : List (Nat × Nat)} (h : ascends low runs = true) :
      ∀ run ∈ runs, low ≤ run.1 := by
    induction runs generalizing low with
    | nil => intro run member; cases member
    | cons run rest ih =>
      simp only [ascends, Bool.and_eq_true, decide_eq_true_eq] at h
      intro other member
      rcases List.mem_cons.mp member with rfl | later
      · exact h.1.1
      · have next := ih h.2 other later
        omega
  induction runs generalizing low with
  | nil => exact ⟨.nil, by simp⟩
  | cons run rest ih =>
    simp only [ascends, Bool.and_eq_true, decide_eq_true_eq] at h
    obtain ⟨ordered, proper⟩ := ih h.2
    exact ⟨.cons (below h.2) ordered, List.forall_mem_cons.mpr ⟨h.1.2, proper⟩⟩

/-- The ends of runs. -/
def ends (runs : List (Nat × Nat × α)) : List (Nat × Nat) :=
  runs.map fun run => (run.1, run.2.1)

/-- **Bisection finds a run** exactly if it is in the table and holds the key. -/
theorem findRun_eq_some_iff {runs : Array (Nat × Nat × α)}
    (ascending : Ascending (ends runs.toList)) {key : Nat} {run : Nat × Nat × α} :
    findRun runs key = some run ↔ run ∈ runs.toList ∧ run.1 ≤ key ∧ key ≤ run.2.1 := by
  unfold findRun
  rw [Option.bind_eq_some_iff]
  constructor
  · rintro ⟨i, found, there⟩
    obtain ⟨first, last, here, holds⟩ := holds_of_locate found
    rw [there] at here
    cases here
    exact ⟨Array.mem_toList_iff.mpr (Array.mem_of_getElem? there), holds⟩
  · rintro ⟨member, low, high⟩
    obtain ⟨i, inside, rfl⟩ := List.getElem_of_mem member
    -- Bisection needs to know of every run before and after this one where it lies.
    have order {j k : Nat} (less : j < k) (hk : k < runs.size) :
        (runs[j]).2.1 < (runs[k]).1 := by
      have ordered := List.pairwise_iff_getElem.mp ascending.ordered j k
        (by simp [ends]; omega) (by simpa [ends] using hk) less
      simpa [ends] using ordered
    have proper {j : Nat} (hj : j < runs.size) : (runs[j]).1 ≤ (runs[j]).2.1 :=
      ascending.proper _ (List.mem_map.mpr ⟨_, Array.mem_toList_iff.mpr (Array.getElem_mem hj), rfl⟩)
    rw [Array.length_toList] at inside
    rw [Array.getElem_toList] at low high
    refine ⟨i, locate_of_holds (by omega) (by omega) inside ?_ ⟨low, high⟩ ?_ ?_, ?_⟩
    · rw [Array.getElem?_eq_getElem inside]
      rfl
    · intro j less
      refine ⟨_, _, by rw [Array.getElem?_eq_getElem (by omega)]; rfl, proper _, ?_⟩
      have ended := order less inside
      omega
    · intro j more below
      refine ⟨(runs[j]).1, (runs[j]).2.1, by rw [Array.getElem?_eq_getElem below]; rfl, ?_⟩
      have begins := order more below
      omega
    · rw [Array.getElem?_eq_getElem inside, Array.getElem_toList]

/-- All runs of a long table. -/
def allRuns (tables : List (Array β)) : List β := tables.flatMap Array.toList

/-- A table in several parts is searched like one of all its runs. -/
theorem findSome?_findRun_eq_some_iff {tables : List (Array (Nat × Nat × α))}
    (ascending : Ascending (ends (allRuns tables))) {key : Nat} {run : Nat × Nat × α} :
    tables.findSome? (findRun · key) = some run ↔
      run ∈ allRuns tables ∧ run.1 ≤ key ∧ key ≤ run.2.1 := by
  induction tables with
  | nil => simp [allRuns]
  | cons runs rest ih =>
    rw [allRuns, List.flatMap_cons, ends, List.map_append] at ascending
    obtain ⟨ordered, proper⟩ := ascending
    obtain ⟨here, later, between⟩ := List.pairwise_append.mp ordered
    have first : Ascending (ends runs.toList) :=
      ⟨here, fun r member => proper r (List.mem_append_left _ member)⟩
    have others : Ascending (ends (allRuns rest)) :=
      ⟨later, fun r member => proper r (List.mem_append_right _ member)⟩
    rw [List.findSome?_cons]
    -- No key is in two runs, so that the first table with a run is the only one.
    cases found : findRun runs key with
    | some other =>
      obtain ⟨member, low, high⟩ := (findRun_eq_some_iff first).mp found
      simp only [Option.some.injEq, allRuns, List.flatMap_cons, List.mem_append]
      constructor
      · rintro rfl
        exact ⟨.inl member, low, high⟩
      · rintro ⟨inHere | inRest, holds⟩
        · exact Option.some.inj (found.symm.trans ((findRun_eq_some_iff first).mpr ⟨inHere, holds⟩))
        · have apart := between _ (List.mem_map_of_mem member) _ (List.mem_map_of_mem inRest)
          omega
    | none =>
      simp only [ih others, allRuns, List.flatMap_cons, List.mem_append]
      refine and_congr_left fun holds => ⟨.inr, ?_⟩
      rintro (inHere | inRest)
      · rw [(findRun_eq_some_iff first).mpr ⟨inHere, holds⟩] at found
        cases found
      · exact inRest

/-! ## Search trees -/

/-- A table as a tree in which the smaller keys are to the left. What is found in it is in the table
in any case, so that it need not be known to be ordered. -/
inductive SearchTree (α : Type) where
  /-- Nothing is there. -/
  | leaf
  /-- What is less is on the left, and what is greater on the right. -/
  | node (left : SearchTree α) (value : α) (right : SearchTree α)

namespace SearchTree

variable {α : Type}

def find? (key : α → Nat) (code : Nat) : SearchTree α → Option α
  | leaf => none
  | node left value right =>
    bif Nat.blt code (key value) then left.find? key code
    else bif Nat.blt (key value) code then right.find? key code
    else some value

def toList : SearchTree α → List α
  | leaf => []
  | node left value right => left.toList ++ value :: right.toList

/-- A tree of the first values of a list, of which `depth` bounds the number, and the others. -/
def ofPrefix : (depth : Nat) → List α → SearchTree α × List α
  | 0, values => (leaf, values)
  | depth + 1, values =>
    match ofPrefix depth values with
    | (left, []) => (left, [])
    | (left, value :: rest) =>
      match ofPrefix depth rest with
      | (right, rest) => (node left value right, rest)

/-- What is found in a tree is in it, with the key that was looked for. -/
theorem mem_of_find? {key : α → Nat} {code : Nat} {tree : SearchTree α} {value : α}
    (h : tree.find? key code = some value) : value ∈ tree.toList ∧ key value = code := by
  induction tree with
  | leaf => cases h
  | node left root right ihLeft ihRight =>
    rw [find?] at h
    cases less : Nat.blt code (key root) with
    | true =>
      rw [less] at h
      obtain ⟨member, same⟩ := ihLeft h
      exact ⟨List.mem_append_left _ member, same⟩
    | false =>
      cases more : Nat.blt (key root) code with
      | true =>
        rw [less, more] at h
        obtain ⟨member, same⟩ := ihRight h
        exact ⟨List.mem_append_right _ (List.mem_cons_of_mem _ member), same⟩
      | false =>
        rw [less, more] at h
        cases h
        have notLess : ¬ code < key value := by rw [← Nat.blt_eq, less]; decide
        have notMore : ¬ key value < code := by rw [← Nat.blt_eq, more]; decide
        exact ⟨by simp [toList], by omega⟩

/-- The tree and the others are together the list. -/
theorem toList_ofPrefix (depth : Nat) (values : List α) :
    (ofPrefix depth values).1.toList ++ (ofPrefix depth values).2 = values := by
  induction depth generalizing values with
  | zero => rfl
  | succ depth ih =>
    have front := ih values
    rw [ofPrefix]
    split
    · rename_i left here
      rwa [here] at front
    · rename_i left value rest here
      rw [here] at front
      have behind := ih rest
      simp only [toList, List.append_assoc, List.cons_append, behind]
      exact front

/-- What is found in a tree of a list is in the list. -/
theorem mem_of_find?_ofPrefix {key : α → Nat} {code depth : Nat} {values : List α} {value : α}
    (h : (ofPrefix depth values).1.find? key code = some value) :
    value ∈ values ∧ key value = code := by
  obtain ⟨member, same⟩ := mem_of_find? h
  rw [← toList_ofPrefix depth values]
  exact ⟨List.mem_append_left _ member, same⟩

end SearchTree

/-! ## Sets of code points -/

/-- The set of the code points in runs, as a number with a binary digit for each of them. -/
def codeSet (runs : List (Nat × Nat)) : Nat :=
  runs.foldr (fun run set => (((1 <<< (run.2 + 1 - run.1)) - 1) <<< run.1) ||| set) 0

/-- A set of runs has the code points that are in one of them. -/
theorem testBit_codeSet {runs : List (Nat × Nat)} {code : Nat} :
    (codeSet runs).testBit code = true ↔ ∃ run ∈ runs, run.1 ≤ code ∧ code ≤ run.2 := by
  induction runs with
  | nil => simp [codeSet]
  | cons run rest ih =>
    have here : ((((1 <<< (run.2 + 1 - run.1)) - 1) <<< run.1).testBit code = true) ↔
        run.1 ≤ code ∧ code ≤ run.2 := by
      rw [Nat.testBit_shiftLeft, Nat.one_shiftLeft, Nat.testBit_two_pow_sub_one,
        Bool.and_eq_true, decide_eq_true_eq, decide_eq_true_eq]
      omega
    rw [codeSet, List.foldr_cons, Nat.testBit_or, Bool.or_eq_true, here]
    simp only [List.mem_cons, or_and_right, exists_or, exists_eq_left]
    exact or_congr_right ih

/-- What is in a run is in the set of its table. -/
theorem testBit_of_mem_ends {runs : List (Nat × Nat × α)} {run : Nat × Nat × α} {code : Nat}
    (member : run ∈ runs) (holds : run.1 ≤ code ∧ code ≤ run.2.1) :
    (codeSet (ends runs)).testBit code = true :=
  testBit_codeSet.mpr ⟨_, List.mem_map_of_mem member, holds⟩

/-- No run is found exactly for the code points that are in none. -/
theorem findSome?_findRun_eq_none_iff {tables : List (Array (Nat × Nat × α))}
    (ascending : Ascending (ends (allRuns tables))) {code : Nat} :
    tables.findSome? (findRun · code) = none ↔
      (codeSet (ends (allRuns tables))).testBit code = false := by
  rw [Option.eq_none_iff_forall_ne_some, ← Bool.not_eq_true, testBit_codeSet]
  constructor
  · rintro none ⟨run, member, holds⟩
    obtain ⟨whole, there, rfl⟩ := List.mem_map.mp member
    exact none whole ((findSome?_findRun_eq_some_iff ascending).mpr ⟨there, holds⟩)
  · intro none run found
    obtain ⟨member, holds⟩ := (findSome?_findRun_eq_some_iff ascending).mp found
    exact none ⟨_, List.mem_map_of_mem member, holds⟩

/-- The set of single code points. -/
def codeSetOf (codes : List Nat) : Nat := codeSet (codes.map fun code => (code, code))

/-- A set of single code points has these. -/
theorem testBit_codeSetOf {codes : List Nat} {code : Nat} :
    (codeSetOf codes).testBit code = true ↔ code ∈ codes := by
  rw [codeSetOf, testBit_codeSet]
  constructor
  · rintro ⟨run, member, low, high⟩
    obtain ⟨other, there, rfl⟩ := List.mem_map.mp member
    rwa [Nat.le_antisymm high low]
  · intro member
    exact ⟨_, List.mem_map_of_mem member, Nat.le_refl _, Nat.le_refl _⟩

/-- A set that adds nothing to another is part of it. -/
theorem testBit_of_within {set other code : Nat} (within : set ||| other = other)
    (h : set.testBit code = true) : other.testBit code = true := by
  have joined := congrArg (·.testBit code) within
  simpa [h] using joined

/-- Sets without a common digit have no common code point. -/
theorem not_testBit_of_apart {set other code : Nat} (apart : set &&& other = 0)
    (h : set.testBit code = true) : other.testBit code = false := by
  have both := congrArg (·.testBit code) apart
  simpa [h] using both

end TextVec.Text
