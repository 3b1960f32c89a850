import TextVec.Proofs.Pipeline.Lines
import TextVec.Proofs.Text.Fields

/-!
# The rows of a table

A line of a table file holds a row, or it does not count. Main statement: a table gives a token the
vector of the last row for it, and so lines that hold no row do not matter, and rows for different
tokens may change places.
-/

namespace TextVec.VectorTable

open Text (IsField fields)

/-! ## Rows -/

/-- A line holds a row for a token: it is a text as a whole, its first field is the token, and the
numbers of the vector are what the fields after that begin with. -/
def IsRow (dimension : Nat) (line : Bytes) (token : String) (vector : Vector32) : Prop :=
  ∃ text numerals ignored,
    line = Text.toUtf8 text ∧ fields text.toList = token.toList :: (numerals ++ ignored) ∧
    numerals.length = dimension ∧ numerals.map number? = vector.map some

theorem mapM_eq_some_iff {f : α → Option β} {xs : List α} {ys : List β} :
    xs.mapM f = some ys ↔ xs.map f = ys.map some := by
  induction xs generalizing ys with
  | nil => cases ys <;> simp
  | cons x xs ih =>
    rw [List.mapM_cons, List.map_cons, Option.bind_eq_bind, Option.bind_eq_some_iff]
    constructor
    · rintro ⟨y, first, h⟩
      obtain ⟨rest, others, same⟩ := Option.bind_eq_some_iff.mp h
      cases same
      rw [List.map_cons, first, ih.mp others]
    · intro h
      cases ys with
      | nil => cases h
      | cons y ys =>
        obtain ⟨first, others⟩ := List.cons.inj h
        exact ⟨y, first, Option.bind_eq_some_iff.mpr ⟨ys, ih.mpr others, rfl⟩⟩

theorem IsRow.length {dimension : Nat} {line : Bytes} {token : String} {vector : Vector32}
    (h : IsRow dimension line token vector) : vector.length = dimension := by
  obtain ⟨_, _, _, -, -, length, parsed⟩ := h
  have same := congrArg List.length parsed
  rw [List.length_map, List.length_map, length] at same
  exact same.symm

theorem row?_eq_some_iff {dimension : Nat} {line : Bytes} {token : String} {vector : Vector32} :
    row? dimension line = some (token, vector) ↔ IsRow dimension line token vector := by
  unfold row?
  constructor
  · intro h
    obtain ⟨text, read, h⟩ := Option.bind_eq_some_iff.mp h
    split at h
    · cases h
    · rename_i first others split
      obtain ⟨numbers, parsed, h⟩ := Option.bind_eq_some_iff.mp h
      split at h
      · rename_i length
        cases h
        have parsed := mapM_eq_some_iff.mp parsed
        have enough := congrArg List.length parsed
        rw [List.length_map, List.length_map, length] at enough
        refine ⟨text, others.take dimension, others.drop dimension,
          Text.ofUtf8?_eq_some_iff.mp read, ?_, enough, parsed⟩
        rw [String.toList_ofList, List.take_append_drop, split]
      · cases h
  · intro h
    have length := h.length
    obtain ⟨text, numerals, ignored, rfl, split, enough, parsed⟩ := h
    have numbers : ((numerals ++ ignored).take dimension).mapM number? = some vector := by
      rw [List.take_left' enough]
      exact mapM_eq_some_iff.mpr parsed
    rw [Text.ofUtf8?_toUtf8]
    simp only [split, bind, Option.bind, numbers, length, if_true, String.ofList_toList]

/-- Numbers that are not finite do not count as numbers of a row. -/
theorem finite_of_number? {field : List Char} {x : Float32} (h : number? field = some x) :
    x.isFinite = true := by
  obtain ⟨numeral, -, h⟩ := Option.bind_eq_some_iff.mp h
  cases numeral with
  | finite value =>
    simp only [Numeral.toFiniteSingle?] at h
    split at h
    · rename_i finite
      cases h
      exact finite
    · cases h
  | infinite negative => cases h
  | notANumber negative => cases h

/-- What a row holds: a token that a text can have as a field, and finite numbers. -/
theorem IsRow.wellFormed {dimension : Nat} {line : Bytes} {token : String} {vector : Vector32}
    (h : IsRow dimension line token vector) :
    IsField token.toList ∧ ∀ x ∈ vector, x.isFinite = true := by
  obtain ⟨text, numerals, ignored, -, split, -, parsed⟩ := h
  constructor
  · exact Text.isField_of_mem_fields (split ▸ List.mem_cons_self ..)
  · intro x member
    have there : some x ∈ numerals.map number? := parsed ▸ List.mem_map_of_mem member
    obtain ⟨numeral, -, number⟩ := List.mem_map.mp there
    exact finite_of_number? number

/-! ## The last row for a token -/

/-- The vector for a token in a line, if the line holds a row for it. -/
def vectorIn? (dimension : Nat) (token : String) (line : Bytes) : Option Vector32 :=
  (row? dimension line).bind fun row => if row.1 = token then some row.2 else none

theorem vectorIn?_eq_some_iff {dimension : Nat} {token : String} {line : Bytes}
    {vector : Vector32} :
    vectorIn? dimension token line = some vector ↔ IsRow dimension line token vector := by
  rw [← row?_eq_some_iff, vectorIn?, Option.bind_eq_some_iff]
  constructor
  · rintro ⟨⟨other, stored⟩, read, h⟩
    simp only [Option.ite_none_right_eq_some, Option.some.injEq] at h
    obtain ⟨rfl, rfl⟩ := h
    exact read
  · intro read
    exact ⟨_, read, if_pos rfl⟩

theorem vectorIn?_eq_none_iff {dimension : Nat} {token : String} {line : Bytes} :
    vectorIn? dimension token line = none ↔ ∀ vector, ¬ IsRow dimension line token vector := by
  simp only [Option.eq_none_iff_forall_ne_some, ne_eq, vectorIn?_eq_some_iff]

/-- Rows are put into a table one after the other, so the last one for a token is found. -/
theorem getElem?_foldl_insert (dimension : Nat) (token : String) (lines : List Bytes)
    (vectors : Std.HashMap String Vector32) :
    ((lines.filterMap (row? dimension)).foldl (fun vectors row => vectors.insert row.1 row.2)
        vectors)[token]? =
      (lines.reverse.findSome? (vectorIn? dimension token)).or vectors[token]? := by
  -- On the lines, over whatever is in the table already.
  induction lines generalizing vectors with
  | nil => rfl
  | cons line rest ih =>
    -- One line sets the vector of its token, if it holds a row, and leaves all others.
    have here : (match row? dimension line with
        | some row => vectors.insert row.1 row.2
        | none => vectors)[token]? = (vectorIn? dimension token line).or vectors[token]? := by
      cases read : row? dimension line with
      | none => simp [vectorIn?, read]
      | some row =>
        rw [Std.HashMap.getElem?_insert]
        by_cases same : row.1 = token <;> simp [vectorIn?, read, same]
    rw [List.reverse_cons, List.findSome?_append, Option.or_assoc, List.findSome?_singleton, ← here,
      ← ih, List.filterMap_cons]
    cases row? dimension line <;> rfl

/-- **What a table has for a token** is the vector of the last row for it among the lines that
count. -/
theorem get?_parse (skip dimension : UInt64) (content : Bytes) (token : String) :
    (parse skip dimension content).1.get? token =
      ((lines content).drop skip.toNat).reverse.findSome? (vectorIn? dimension.toNat token) := by
  have read : (rows skip dimension content).1 =
      ((lines content).drop skip.toNat).filterMap (row? dimension.toNat) := by
    rw [rows, List.filterMap_map]
    rfl
  show (ofRows dimension (rows skip dimension content).1).vectors[token]? = _
  rw [ofRows, read, getElem?_foldl_insert, Std.HashMap.getElem?_empty, Option.or_none]

/-- A token has the vector of a row after which no other one is for it. -/
theorem get?_parse_eq_some_iff {skip dimension : UInt64} {content : Bytes} {token : String}
    {vector : Vector32} :
    (parse skip dimension content).1.get? token = some vector ↔
      ∃ before line after, (lines content).drop skip.toNat = before ++ line :: after ∧
        IsRow dimension.toNat line token vector ∧
        ∀ later ∈ after, ∀ other, ¬ IsRow dimension.toNat later token other := by
  rw [get?_parse, List.findSome?_eq_some_iff]
  -- The lines are searched from the last one on, so those after the row come before it there.
  constructor
  · rintro ⟨after, line, before, counted, row, none⟩
    refine ⟨before.reverse, line, after.reverse, ?_, vectorIn?_eq_some_iff.mp row, ?_⟩
    · rw [← List.reverse_inj, counted]
      simp
    · intro later member
      exact vectorIn?_eq_none_iff.mp (none later (List.mem_reverse.mp member))
  · rintro ⟨before, line, after, counted, row, none⟩
    refine ⟨after.reverse, line, before.reverse, ?_, vectorIn?_eq_some_iff.mpr row, ?_⟩
    · simp [counted]
    · intro later member
      exact vectorIn?_eq_none_iff.mpr (none later (List.mem_reverse.mp member))

theorem get?_parse_eq_none_iff {skip dimension : UInt64} {content : Bytes} {token : String} :
    (parse skip dimension content).1.get? token = none ↔
      ∀ line ∈ (lines content).drop skip.toNat, ∀ vector,
        ¬ IsRow dimension.toNat line token vector := by
  simp only [get?_parse, List.findSome?_eq_none_iff, List.mem_reverse, vectorIn?_eq_none_iff]

/-- What is found for a token stands in a row for it. -/
theorem exists_row_of_get? {skip dimension : UInt64} {content : Bytes} {token : String}
    {vector : Vector32} (h : (parse skip dimension content).1.get? token = some vector) :
    ∃ line ∈ (lines content).drop skip.toNat, IsRow dimension.toNat line token vector := by
  obtain ⟨before, line, after, counted, row, -⟩ := get?_parse_eq_some_iff.mp h
  exact ⟨line, by simp [counted], row⟩

/-! ## The answers of a table -/

theorem contains_eq (table : VectorTable) (token : String) :
    table.contains token = (table.get? token).isSome :=
  Std.HashMap.contains_eq_isSome_getElem?

/-- The tokens of a table, each of them once. -/
theorem exists_tokens (table : VectorTable) :
    ∃ tokens : List String, tokens.Nodup ∧
      (∀ token, token ∈ tokens ↔ (table.get? token).isSome = true) ∧
      table.size = tokens.length ∧ table.isEmpty = tokens.isEmpty := by
  refine ⟨table.vectors.keys, Std.HashMap.nodup_keys, ?_, Std.HashMap.length_keys.symm, ?_⟩
  · intro token
    rw [Std.HashMap.mem_keys, Std.HashMap.mem_iff_isSome_getElem?]
    rfl
  · exact Std.HashMap.isEmpty_keys.symm

/-- Two tables give the same answers, whatever they are asked. -/
structure SameAnswers (table other : VectorTable) : Prop where
  /-- They have the same vectors. -/
  get? : ∀ token, table.get? token = other.get? token
  /-- For the same tokens. -/
  contains : ∀ token, table.contains token = other.contains token
  /-- Missing tokens are found as the same zeros. -/
  lookup : ∀ token, table.lookup token = other.lookup token
  /-- They have as many tokens. -/
  size : table.size = other.size
  /-- So one is empty if the other is. -/
  isEmpty : table.isEmpty = other.isEmpty

/-- Tables of one dimension give the same answers if they have the same vectors. -/
theorem sameAnswers_of_get? {table other : VectorTable}
    (dimension : table.dimension = other.dimension)
    (h : ∀ token, table.get? token = other.get? token) : SameAnswers table other where
  get? := h
  contains token := by rw [contains_eq, contains_eq, h]
  lookup token := by rw [VectorTable.lookup, VectorTable.lookup, h, dimension]
  size := (Std.HashMap.Equiv.of_forall_getElem?_eq h).size_eq
  isEmpty := (Std.HashMap.Equiv.of_forall_getElem?_eq h).isEmpty_eq

/-! ## Lines that are left out or change places -/

section Lines

variable {skip dimension : UInt64} {content content' : Bytes} {before after : List Bytes}

/-- A line that holds no row does not matter. -/
theorem sameAnswers_of_erase {line : Bytes} (old : lines content = before ++ line :: after)
    (new : lines content' = before ++ after) (counts : skip.toNat ≤ before.length)
    (rejected : ∀ token vector, ¬ IsRow dimension.toNat line token vector) :
    SameAnswers (parse skip dimension content').1 (parse skip dimension content).1 := by
  refine sameAnswers_of_get? rfl fun token => ?_
  have nothing : vectorIn? dimension.toNat token line = none :=
    vectorIn?_eq_none_iff.mpr (rejected token)
  rw [get?_parse, get?_parse, old, new, List.drop_append_of_le_length counts,
    List.drop_append_of_le_length counts]
  simp [nothing]

/-- Lines for different tokens can change places. -/
theorem sameAnswers_of_swap {a b : Bytes} (old : lines content = before ++ a :: b :: after)
    (new : lines content' = before ++ b :: a :: after) (counts : skip.toNat ≤ before.length)
    (different : ∀ token v w,
      IsRow dimension.toNat a token v → ¬ IsRow dimension.toNat b token w) :
    SameAnswers (parse skip dimension content').1 (parse skip dimension content).1 := by
  refine sameAnswers_of_get? rfl fun token => ?_
  -- At most one of the two lines has a vector for the token, so their order does not count.
  have commute : (vectorIn? dimension.toNat token a).or (vectorIn? dimension.toNat token b) =
      (vectorIn? dimension.toNat token b).or (vectorIn? dimension.toNat token a) := by
    cases first : vectorIn? dimension.toNat token a with
    | none => simp
    | some v =>
      have row := vectorIn?_eq_some_iff.mp first
      rw [vectorIn?_eq_none_iff.mpr fun w => different token v w row]
      simp
  rw [get?_parse, get?_parse, old, new, List.drop_append_of_le_length counts,
    List.drop_append_of_le_length counts]
  simp only [List.reverse_append, List.reverse_cons, List.findSome?_append,
    List.findSome?_singleton, Option.or_assoc]
  congr 1
  rw [← Option.or_assoc, commute, Option.or_assoc]

end Lines

/-- **A table holds the last row for each token.** Among the lines of a file that count, which are
those after the first `skip` ones, the last row for a token gives its vector, and a token without a
row has none. All other answers agree with that, and every vector that is stored has the dimension
of the table and finite numbers only. So a line that counts but holds no row can be left out, and
two such lines that follow each other can change places unless they hold rows for one token. -/
theorem table_holds_last_rows (skip dimension : UInt64) {content : Bytes} {ended : List Bytes}
    {last : Bytes} (whole : Lines content ended last) :
    let all := ended ++ if last.isEmpty then [] else [last]
    let counted := all.drop skip.toNat
    let table := (parse skip dimension content).1
    (∀ token vector, table.get? token = some vector ↔
      ∃ before line after, counted = before ++ line :: after ∧
        IsRow dimension.toNat line token vector ∧
        ∀ later ∈ after, ∀ other, ¬ IsRow dimension.toNat later token other) ∧
    (∀ token, table.get? token = none ↔
      ∀ line ∈ counted, ∀ vector, ¬ IsRow dimension.toNat line token vector) ∧
    (∀ token, table.contains token = (table.get? token).isSome ∧
      table.lookup token = (table.get? token).getD (List.replicate dimension.toNat 0)) ∧
    (∃ tokens : List String, tokens.Nodup ∧
      (∀ token, token ∈ tokens ↔
        ∃ line ∈ counted, ∃ vector, IsRow dimension.toNat line token vector) ∧
      table.size = tokens.length ∧ table.isEmpty = tokens.isEmpty) ∧
    (∀ token vector, table.get? token = some vector →
      vector.length = dimension.toNat ∧ (∀ x ∈ vector, x.isFinite = true) ∧
        token ≠ "" ∧ ∀ c ∈ token.toList, Text.isWhitespace c = false) ∧
    ∀ content' ended' last', Lines content' ended' last' →
      let all' := ended' ++ if last'.isEmpty then [] else [last']
      let table' := (parse skip dimension content').1
      (∀ before line after, skip.toNat ≤ before.length → all = before ++ line :: after →
        all' = before ++ after → (∀ token vector, ¬ IsRow dimension.toNat line token vector) →
        SameAnswers table' table) ∧
      ∀ before a b after, skip.toNat ≤ before.length → all = before ++ a :: b :: after →
        all' = before ++ b :: a :: after →
        (∀ token v w, IsRow dimension.toNat a token v → ¬ IsRow dimension.toNat b token w) →
        SameAnswers table' table := by
  intro all counted table
  -- From here on the lines are those that the file consists of.
  have read : lines content = all := lines_eq whole
  have get?_eq_none_iff (token : String) : table.get? token = none ↔
      ∀ line ∈ counted, ∀ vector, ¬ IsRow dimension.toNat line token vector := by
    rw [get?_parse_eq_none_iff, read]
  refine ⟨?_, get?_eq_none_iff, fun token => ⟨table.contains_eq token, rfl⟩, ?_, ?_, ?_⟩
  · intro token vector
    rw [get?_parse_eq_some_iff, read]
  · obtain ⟨tokens, distinct, present, size, isEmpty⟩ := table.exists_tokens
    refine ⟨tokens, distinct, fun token => ?_, size, isEmpty⟩
    have absent := not_congr (get?_eq_none_iff token)
    rw [present, ← Option.ne_none_iff_isSome, ne_eq, absent]
    simp only [Classical.not_forall, Classical.not_not, exists_prop]
  · intro token vector found
    obtain ⟨line, -, row⟩ := exists_row_of_get? found
    obtain ⟨isField, finite⟩ := row.wellFormed
    refine ⟨row.length, finite, ?_, isField.solid⟩
    rintro rfl
    exact isField.nonempty rfl
  · intro content' ended' last' whole'
    have read' := lines_eq whole'
    constructor
    · intro before line after counts old new rejected
      exact sameAnswers_of_erase (read.trans old) (read'.trans new) counts rejected
    · intro before a b after counts old new different
      exact sameAnswers_of_swap (read.trans old) (read'.trans new) counts different

/-- A file with a header, two rows for one token, the last of which is longer than it need be and
not ended by a line feed, and a line without a number, which can be left out. -/
theorem table_holds_last_rows_header :
    let content : Bytes := [49, 32, 49, 10, 97, 32, 49, 10, 98, 32, 120, 10, 97, 32, 50, 32, 57, 13]
    let shorter : Bytes := [49, 32, 49, 10, 97, 32, 49, 10, 97, 32, 50, 32, 57, 13]
    let ended : List Bytes := [[49, 32, 49], [97, 32, 49], [98, 32, 120]]
    let last : Bytes := [97, 32, 50, 32, 57, 13]
    Lines content ended last ∧ (parse 1 1 content).1.get? "a" = some [2] ∧
      (∀ token vector, ¬ IsRow 1 [98, 32, 120] token vector) ∧
      SameAnswers (parse 1 1 shorter).1 (parse 1 1 content).1 := by
  intro content shorter ended last
  have whole : Lines content ended last := ⟨rfl, by decide, by decide⟩
  have shorterWhole : Lines shorter [[49, 32, 49], [97, 32, 49]] last :=
    ⟨rfl, by decide, by decide⟩
  have row : IsRow 1 last "a" [2] := row?_eq_some_iff.mp (by decide +kernel)
  have noNumber : row? 1 [98, 32, 120] = none := by decide +kernel
  have rejected : ∀ token vector, ¬ IsRow 1 [98, 32, 120] token vector := by
    intro token vector row
    rw [← row?_eq_some_iff, noNumber] at row
    cases row
  obtain ⟨found, -, -, -, -, changed⟩ := table_holds_last_rows 1 1 whole
  refine ⟨whole, (found "a" [2]).mpr ⟨[[97, 32, 49], [98, 32, 120]], last, [], rfl, row, by simp⟩,
    rejected, ?_⟩
  exact (changed shorter _ last shorterWhole).1 [[49, 32, 49], [97, 32, 49]] [98, 32, 120] [last]
    (by decide) rfl rfl rejected

end TextVec.VectorTable
