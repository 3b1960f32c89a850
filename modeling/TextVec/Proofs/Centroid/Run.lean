import TextVec.Component.Centroid
import TextVec.Proofs.Component.Run
import TextVec.Proofs.Outcome

/-!
# Runs of centroids

The operations of a centroid, and what training comes to: it succeeds exactly if there are rows and
each of them has as many numbers as the centroid has dimensions. Then the centroid is moved to their
mean, and otherwise it is left as it was, even if the first rows were good ones.
-/

namespace TextVec.Centroid

/-- What a centroid allows beside the operations of all components. -/
inductive Action where
  /-- Moves the centroid to the mean of the rows. -/
  | train (rows : List (List Double))
  /-- Asks for the distance of a point. -/
  | distance (point : List Double)
  /-- From now on closing fails, or no longer does. -/
  | failToClose (value : Bool)

/-- The centroid after an operation of its own, which may have failed. -/
def act (action : Action) (c : Centroid) : Centroid :=
  match action with
  | .train rows => (c.train rows).state
  | .distance _ => c
  | .failToClose value => { c with failsToClose := value }

/-- An operation on a centroid. -/
abbrev Operation := Component.Operation CentroidConfig Action

/-- The centroid after one operation. -/
abbrev perform (c : Centroid) (operation : Operation) : Centroid :=
  Component.perform act c operation

/-- The centroid after a run of operations. -/
abbrev run (c : Centroid) (operations : List Operation) : Centroid :=
  Component.run act c operations

/-! ## The mean of rows -/

/-- Rows are added up exactly if they all have the length of the sum, and it keeps that length. -/
theorem sumRows_eq_ok {sum total : List Double} {rows : List (List Double)}
    (h : sumRows sum rows = .ok total) :
    (∀ row ∈ rows, row.length = sum.length) ∧ total.length = sum.length := by
  induction rows generalizing sum with
  | nil =>
    cases h
    exact ⟨fun row member => absurd member List.not_mem_nil, rfl⟩
  | cons row rest ih =>
    unfold sumRows at h
    split at h
    · rename_i same
      -- Adding a row of this length leaves the sum as long as it was.
      have kept : (List.zipWith Double.add sum row).length = sum.length := by
        simp [List.length_zipWith, same]
      obtain ⟨all, long⟩ := ih h
      rw [kept] at all long
      exact ⟨List.forall_mem_cons.mpr ⟨same, all⟩, long⟩
    · cases h

theorem exists_sumRows {sum : List Double} {rows : List (List Double)}
    (h : ∀ row ∈ rows, row.length = sum.length) : ∃ total, sumRows sum rows = .ok total := by
  induction rows generalizing sum with
  | nil => exact ⟨sum, rfl⟩
  | cons row rest ih =>
    obtain ⟨same, all⟩ := List.forall_mem_cons.mp h
    have kept : (List.zipWith Double.add sum row).length = sum.length := by
      simp [List.length_zipWith, same]
    -- So the rest has the length of the new sum.
    rw [← kept] at all
    obtain ⟨total, summed⟩ := ih all
    exact ⟨total, by rw [sumRows, if_pos same, summed]⟩

/-- The rows that have a mean: there is one, and all of them are as long as they should be. -/
def Averageable (config : CentroidConfig) (rows : List (List Double)) : Prop :=
  rows ≠ [] ∧ ∀ row ∈ rows, row.length = config.dims.toNat

/-- Only such rows have a mean, and it has as many numbers as there are dimensions. -/
theorem meanOf_eq_ok {config : CentroidConfig} {rows : List (List Double)} {mean : List Double}
    (h : meanOf config rows = .ok mean) :
    Averageable config rows ∧ mean.length = config.dims.toNat := by
  unfold meanOf at h
  split at h
  · cases h
  · rename_i some
    obtain ⟨total, summed, h⟩ := Outcome.bind_eq_ok_iff.mp h
    obtain ⟨all, long⟩ := sumRows_eq_ok summed
    rw [List.length_replicate] at all long
    cases Outcome.pure_eq_ok_iff.mp h
    exact ⟨⟨fun none => some (by rw [none]; rfl), all⟩, by rw [List.length_map, long]⟩

theorem exists_meanOf {config : CentroidConfig} {rows : List (List Double)}
    (h : Averageable config rows) : ∃ mean, meanOf config rows = .ok mean := by
  obtain ⟨some, all⟩ := h
  have long : (List.replicate config.dims.toNat Double.zero).length = config.dims.toNat :=
    List.length_replicate
  -- The sum begins with as many zeros as there are dimensions.
  rw [← long] at all
  obtain ⟨total, summed⟩ := exists_sumRows all
  have notEmpty : ¬ rows.isEmpty = true := by simpa using some
  have averaged : meanOf config rows = .ok (total.map fun x =>
      (x.div (Double.ofFloat (Float.ofNat rows.length))).mul config.scale) := by
    rw [meanOf, if_neg notEmpty, summed]
    rfl
  exact ⟨_, averaged⟩

/-! ## Training -/

/-- Training on rows that have a mean moves the centroid there, and then it is trained. -/
theorem train_of_meanOf (c : Centroid) {rows : List (List Double)} {mean : List Double}
    (h : meanOf c.config rows = .ok mean) :
    (c.train rows).result = .ok () ∧
      (c.train rows).state =
        { c with
          centroid := mean
          base := { c.base with properties := { c.base.properties with isTrained := true } } } := by
  simp only [train, Component.train, fit, h]
  exact ⟨trivial, rfl⟩

/-- Training on other rows fails and changes nothing. -/
theorem train_of_error (c : Centroid) {rows : List (List Double)} {failure : Failure}
    (h : meanOf c.config rows = .error failure) :
    (c.train rows).result = .error failure ∧ (c.train rows).state = c := by
  simp only [train, Component.train, fit, h]
  exact ⟨trivial, trivial⟩

/-- **What training comes to**: a move to the mean of the rows, or nothing at all. -/
theorem train_cases (c : Centroid) (rows : List (List Double)) :
    (∃ mean,
      meanOf c.config rows = .ok mean ∧
      (c.train rows).result = .ok () ∧
      (c.train rows).state =
        { c with
          centroid := mean
          base :=
            { c.base with properties := { c.base.properties with isTrained := true } } }) ∨
      ∃ failure, (c.train rows).result = .error failure ∧ (c.train rows).state = c := by
  cases h : meanOf c.config rows with
  | ok mean => exact .inl ⟨mean, rfl, c.train_of_meanOf h⟩
  | error failure => exact .inr ⟨failure, c.train_of_error h⟩

/-- Training succeeds on the rows that have a mean, and on no others. -/
theorem train_eq_ok_iff (c : Centroid) (rows : List (List Double)) :
    (c.train rows).result = .ok () ↔ Averageable c.config rows := by
  constructor
  · intro ok
    rcases c.train_cases rows with ⟨mean, averaged, -⟩ | ⟨failure, failed, -⟩
    · exact (meanOf_eq_ok averaged).1
    · rw [failed] at ok
      cases ok
  · intro averageable
    obtain ⟨mean, averaged⟩ := exists_meanOf averageable
    exact (c.train_of_meanOf averaged).1

end TextVec.Centroid
