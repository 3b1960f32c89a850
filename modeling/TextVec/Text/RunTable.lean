/-!
# Tables of code points

The data of the character standard is kept as ascending disjoint runs of code points. This module
finds the run that holds a code point, by bisection. A long table is a list of parts, each of them
such an array of runs, and is searched part by part.
-/

namespace TextVec.Text

/-- The index between `lo` and `hi` of the run that holds `key`, where `bounds i` gives the ends of
the run at index `i` and the runs ascend. Each step halves the distance, so a table's size is
always steps enough. -/
def locate (bounds : Nat → Option (Nat × Nat)) (key : Nat) : Nat → Nat → Nat → Option Nat
  | 0, _, _ => none
  | steps + 1, lo, hi =>
    if hi ≤ lo then none
    else
      let mid := (lo + hi) / 2
      match bounds mid with
      | none => none
      | some (first, last) =>
        if key < first then locate bounds key steps lo mid
        else if last < key then locate bounds key steps (mid + 1) hi
        else some mid

/-- Whether one of the closed `ranges` holds `key`. -/
def inRanges (ranges : Array (Nat × Nat)) (key : Nat) : Bool :=
  (locate (fun i => ranges[i]?) key ranges.size 0 ranges.size).isSome

/-- The run `(first, last, value)` that holds `key`. -/
def findRun (runs : Array (Nat × Nat × α)) (key : Nat) : Option (Nat × Nat × α) :=
  (locate (fun i => runs[i]?.map fun (first, last, _) => (first, last)) key runs.size 0 runs.size)
    |>.bind fun i => runs[i]?

end TextVec.Text
