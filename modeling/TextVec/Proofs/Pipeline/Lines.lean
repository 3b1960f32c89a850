import TextVec.Pipeline

/-!
# Lines of an input

An input is a sequence of lines that line feeds end, and what is left after the last of them. The
lines that are read are the former, each without a carriage return before its line feed, and then
the latter if it is not empty. A table file is split in the same way, but its lines keep their
carriage returns.
-/

namespace TextVec

/-- An input by the lines that line feeds end in it and by what is left. -/
structure Lines (input : Bytes) (ended : List Bytes) (last : Bytes) : Prop where
  /-- The bytes are those lines, each with its line feed, and then what is left. -/
  whole : input = ended.flatMap (· ++ [10]) ++ last
  /-- No line feed is inside of a line. -/
  endedFree : ∀ line ∈ ended, 10 ∉ line
  /-- What is left is before the next one. -/
  lastFree : 10 ∉ last

/-- Every input has lines. -/
theorem exists_lines (input : Bytes) : ∃ ended last, Lines input ended last := by
  induction input with
  | nil => exact ⟨[], [], rfl, fun _ h => absurd h List.not_mem_nil, List.not_mem_nil⟩
  | cons b rest ih =>
    obtain ⟨ended, last, rfl, endedFree, lastFree⟩ := ih
    -- A line feed ends an empty line; any other byte belongs to the first line there is.
    by_cases feed : b = 10
    · refine ⟨[] :: ended, last, by simp [feed], ?_, lastFree⟩
      intro line h
      rcases List.mem_cons.mp h with rfl | h
      · exact List.not_mem_nil
      · exact endedFree line h
    · have first (line : Bytes) (free : 10 ∉ line) : 10 ∉ b :: line :=
        List.not_mem_cons_of_ne_of_not_mem (Ne.symm feed) free
      cases ended with
      | nil => exact ⟨[], b :: last, rfl, fun _ h => absurd h List.not_mem_nil, first last lastFree⟩
      | cons line others =>
        refine ⟨(b :: line) :: others, last, by simp, ?_, lastFree⟩
        intro other h
        rcases List.mem_cons.mp h with rfl | h
        · exact first line (endedFree line (List.mem_cons_self ..))
        · exact endedFree other (List.mem_cons_of_mem _ h)

/-! ## Splitting at line feeds

The lines of an input and those of a table file differ only in what becomes of a line that a line
feed ends.
-/

/-- Splits bytes at line feeds: `line` holds the bytes of the present line so far, last first. -/
def splitFrom (finish : Bytes → Bytes) (line : Bytes) : Bytes → List Bytes
  | [] => if line.isEmpty then [] else [line.reverse]
  | b :: rest =>
    if b = 10 then finish line.reverse :: splitFrom finish [] rest
    else splitFrom finish (b :: line) rest

/-- A byte that is no line feed belongs to the line so far. -/
theorem splitFrom_cons (finish : Bytes → Bytes) {b : UInt8} (other : 10 ≠ b) (line rest : Bytes) :
    splitFrom finish line (b :: rest) = splitFrom finish (b :: line) rest := by
  rw [splitFrom, if_neg (Ne.symm other)]

/-- Bytes without a line feed belong to the line so far. -/
theorem splitFrom_open (finish : Bytes → Bytes) {bytes : Bytes} (free : 10 ∉ bytes)
    (line : Bytes) : splitFrom finish line bytes = splitFrom finish (bytes.reverse ++ line) [] := by
  induction bytes generalizing line with
  | nil => rfl
  | cons b rest ih =>
    have other := List.ne_of_not_mem_cons free
    have restFree := List.not_mem_of_not_mem_cons free
    -- The bytes of a line are kept in reverse, so the next one is put in front.
    rw [splitFrom_cons finish other, ih restFree, List.reverse_cons, List.append_assoc,
      List.singleton_append]

/-- A line feed ends the line so far. -/
theorem splitFrom_ended (finish : Bytes → Bytes) {bytes : Bytes} (free : 10 ∉ bytes)
    (line rest : Bytes) :
    splitFrom finish line (bytes ++ 10 :: rest) =
      finish (line.reverse ++ bytes) :: splitFrom finish [] rest := by
  induction bytes generalizing line with
  | nil => simp [splitFrom]
  | cons b more ih =>
    have other := List.ne_of_not_mem_cons free
    have moreFree := List.not_mem_of_not_mem_cons free
    rw [List.cons_append, splitFrom_cons finish other, ih moreFree, List.reverse_cons,
      List.append_assoc, List.singleton_append]

/-- Splitting gives the lines that are ended, each finished, and then what is left, if anything. -/
theorem splitFrom_eq (finish : Bytes → Bytes) {input : Bytes} {ended : List Bytes} {last : Bytes}
    (h : Lines input ended last) :
    splitFrom finish [] input = ended.map finish ++ if last.isEmpty then [] else [last] := by
  obtain ⟨rfl, endedFree, lastFree⟩ := h
  -- By induction on the lines that are ended; reading begins each of them with nothing so far.
  induction ended with
  | nil =>
    rw [List.flatMap_nil, List.nil_append, splitFrom_open finish lastFree]
    simp [splitFrom]
  | cons line others ih =>
    have lineFree := endedFree line (List.mem_cons_self ..)
    have othersFree : ∀ other ∈ others, 10 ∉ other :=
      fun other h => endedFree other (List.mem_cons_of_mem _ h)
    rw [List.flatMap_cons, List.append_assoc, List.append_assoc, List.singleton_append,
      splitFrom_ended finish lineFree, ih othersFree]
    rfl

/-! ## The lines that are read -/

/-- Lines are read by such a splitting, which drops a carriage return. -/
theorem inputLinesFrom_eq (line bytes : Bytes) :
    inputLinesFrom line bytes = splitFrom dropReturn line bytes := by
  induction bytes generalizing line with
  | nil => rfl
  | cons b rest ih => rw [inputLinesFrom, splitFrom, ih, ih]

theorem VectorTable.linesFrom_eq (line bytes : Bytes) :
    linesFrom line bytes = splitFrom id line bytes := by
  induction bytes generalizing line with
  | nil => rfl
  | cons b rest ih => rw [linesFrom, splitFrom, ih, ih, id_eq]

/-- **The lines that are read** from an input. -/
theorem inputLines_eq {input : Bytes} {ended : List Bytes} {last : Bytes}
    (h : Lines input ended last) :
    inputLines input = ended.map dropReturn ++ if last.isEmpty then [] else [last] := by
  rw [inputLines, inputLinesFrom_eq, splitFrom_eq dropReturn h]

/-- **The lines of a table file**, which keep a carriage return at their end. -/
theorem VectorTable.lines_eq {content : Bytes} {ended : List Bytes} {last : Bytes}
    (h : Lines content ended last) :
    lines content = ended ++ if last.isEmpty then [] else [last] := by
  rw [lines, linesFrom_eq, splitFrom_eq id h, List.map_id]

end TextVec
