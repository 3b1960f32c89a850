import TextVec.Proofs.Table.LastRow

/-!
# A row for a token

A row can be written for every token without white space: the token and then numerals, with blanks
between them. Main statement: a file of such a row is a table that has the token with the numbers
that the numerals stand for.
-/

namespace TextVec

/-! ## Numerals are fields -/

namespace Numeral

open Text (IsField isWhitespace)

/-- Digits are no white space. -/
theorem isWhitespace_of_isDigit {c : Char} (h : c.isDigit = true) : isWhitespace c = false := by
  have range : 48 ≤ c.toNat ∧ c.toNat ≤ 57 := by
    simp only [Char.isDigit, Bool.and_eq_true, decide_eq_true_eq, ge_iff_le,
      UInt32.le_iff_toNat_le] at h
    exact h
  simp only [isWhitespace, Bool.or_eq_false_iff, Bool.and_eq_false_iff, decide_eq_false_iff_not,
    beq_eq_false_iff_ne]
  omega

/-- Characters of which none is white space. -/
def Solid (cs : List Char) : Prop := ∀ c ∈ cs, isWhitespace c = false

/-- A sign is no white space. -/
theorem solid_of_takeSign {cs : List Char} (h : Solid (takeSign cs).2) : Solid cs := by
  unfold takeSign at h
  split at h
  · exact List.forall_mem_cons.mpr ⟨by decide, h⟩
  · exact List.forall_mem_cons.mpr ⟨by decide, h⟩
  · exact h

/-- What is read as an exponent has no white space. -/
theorem solid_of_readExponent? {cs : List Char} {exponent : Int}
    (h : Decimal.readExponent? cs = some exponent) : Solid cs := by
  cases cs with
  | nil => exact List.forall_mem_nil _
  | cons c rest =>
    rw [Decimal.readExponent?] at h
    split at h
    · rename_i mark
      dsimp only at h
      split at h
      · cases h
      · rename_i digits
        have mark : c = 'e' ∨ c = 'E' := by simpa using mark
        have digits : ∀ d ∈ (takeSign rest).2, d.isDigit = true := by
          rw [Bool.or_eq_true, not_or] at digits
          simpa using digits.2
        refine List.forall_mem_cons.mpr ⟨?_, solid_of_takeSign fun d member =>
          isWhitespace_of_isDigit (digits d member)⟩
        rcases mark with rfl | rfl <;> decide
    · cases h

/-- Digits are solid. -/
theorem solid_takeWhile_isDigit (cs : List Char) : Solid (cs.takeWhile Char.isDigit) :=
  fun c member => isWhitespace_of_isDigit (List.all_eq_true.mp List.all_takeWhile c member)

/-- What is read as a number without a sign has a digit at least, and no white space. -/
theorem isField_of_readUnsigned? {negative : Bool} {cs : List Char} {value : Decimal}
    (h : Decimal.readUnsigned? negative cs = some value) : IsField cs := by
  have whole := solid_takeWhile_isDigit cs
  have parts : cs.takeWhile Char.isDigit ++ cs.dropWhile Char.isDigit = cs :=
    List.takeWhile_append_dropWhile
  rw [Decimal.readUnsigned?] at h
  split at h
  rename_i fraction rest divided
  split at h
  · cases h
  · rename_i some
    obtain ⟨exponent, read, -⟩ := Option.map_eq_some_iff.mp h
    -- Behind the first digits there is the exponent, or a point and more digits before it.
    have behind : cs.dropWhile Char.isDigit = rest ∧ fraction = [] ∨
        cs.dropWhile Char.isDigit = '.' :: (fraction ++ rest) ∧ Solid fraction := by
      split at divided
      · rename_i r point
        cases divided
        exact .inr ⟨by rw [point, List.takeWhile_append_dropWhile], solid_takeWhile_isDigit r⟩
      · cases divided
        exact .inl ⟨rfl, rfl⟩
    have exponent := solid_of_readExponent? read
    rcases behind with ⟨other, none⟩ | ⟨point, digits⟩
    · rw [other] at parts
      rw [none] at some
      refine ⟨?_, parts ▸ List.forall_mem_append.mpr ⟨whole, exponent⟩⟩
      rintro rfl
      exact some rfl
    · rw [point] at parts
      refine ⟨?_, parts ▸ List.forall_mem_append.mpr ⟨whole, List.forall_mem_cons.mpr
        ⟨by decide, List.forall_mem_append.mpr ⟨digits, exponent⟩⟩⟩⟩
      rintro rfl
      cases point

/-- What is read as a finite number has no white space. -/
theorem isField_of_number? {cs : List Char} {x : Float32}
    (h : VectorTable.number? cs = some x) : IsField cs := by
  obtain ⟨numeral, read, finite⟩ := Option.bind_eq_some_iff.mp h
  rw [read?] at read
  dsimp only at read
  -- Words for infinity and for no number are refused, so there is a number with digits.
  split at read
  · cases read
    cases finite
  · split at read
    · cases read
      cases finite
    · obtain ⟨value, unsigned, -⟩ := Option.map_eq_some_iff.mp read
      have field := isField_of_readUnsigned? unsigned
      refine ⟨?_, solid_of_takeSign field.solid⟩
      rintro rfl
      exact field.nonempty rfl

end Numeral

/-! ## The row -/

namespace Text

/-- A field is a text of one field. -/
theorem fields_of_isField {field : List Char} (h : IsField field) : fields field = [field] :=
  fields_eq_cons_iff.mpr ⟨[], [], by simp, by simp, h, by simp, rfl⟩

/-- Fields with blanks between them are the fields of a text. -/
theorem fields_intercalate {words : List (List Char)} (h : ∀ word ∈ words, IsField word) :
    fields ([' '].intercalate words) = words := by
  induction words with
  | nil => rfl
  | cons word rest ih =>
    obtain ⟨here, later⟩ := List.forall_mem_cons.mp h
    cases rest with
    | nil => rw [List.intercalate_singleton, fields_of_isField here]
    | cons next more =>
      rw [List.intercalate_cons_of_ne_nil (List.cons_ne_nil next more)]
      refine fields_eq_cons_iff.mpr ⟨[], ' ' :: [' '].intercalate (next :: more), by simp, by simp,
        here, ?_, ?_⟩
      · rintro c ⟨⟩
        rfl
      · have gap : ∀ c ∈ [' '], isWhitespace c = true := by simp; decide
        exact (fieldsFrom_gap gap _).trans (ih later)

/-- What holds of the words and of what stands between them holds of all of it. -/
theorem forall_mem_intercalate {P : α → Prop} {separator : List α} {words : List (List α)}
    (between : ∀ c ∈ separator, P c) (h : ∀ word ∈ words, ∀ c ∈ word, P c) :
    ∀ c ∈ separator.intercalate words, P c := by
  induction words with
  | nil => exact List.forall_mem_nil _
  | cons word rest ih =>
    obtain ⟨here, later⟩ := List.forall_mem_cons.mp h
    cases rest with
    | nil => rwa [List.intercalate_singleton]
    | cons next more =>
      rw [List.intercalate_cons_of_ne_nil (List.cons_ne_nil next more)]
      exact List.forall_mem_append.mpr ⟨List.forall_mem_append.mpr ⟨here, between⟩, ih later⟩

/-- The byte of a line feed stands for a line feed only. -/
theorem eq_lineFeed_of_mem_utf8EncodeChar {c : Char} (h : 10 ∈ String.utf8EncodeChar c) :
    c = '\n' := by
  have same {n : Nat} (h : 10 = UInt8.ofNat n) : n % 256 = 10 := by
    have value := congrArg UInt8.toNat h
    rw [UInt8.toNat_ofNat'] at value
    exact value.symm
  have code : c.val.toNat = 10 := by
    unfold String.utf8EncodeChar at h
    dsimp only at h
    -- All bytes of a character of two or more have their first bit set.
    split at h
    · have first := same (List.mem_singleton.mp h)
      omega
    · split at h
      · simp only [List.mem_cons, List.not_mem_nil, or_false] at h
        rcases h with h | h <;> have := same h <;> omega
      · split at h
        · simp only [List.mem_cons, List.not_mem_nil, or_false] at h
          rcases h with h | h | h <;> have := same h <;> omega
        · simp only [List.mem_cons, List.not_mem_nil, or_false] at h
          rcases h with h | h | h | h <;> have := same h <;> omega
  exact Char.toNat_inj.mp code

/-- A text without a line feed is written without one. -/
theorem lineFeed_not_mem_toUtf8 {text : String} (h : '\n' ∉ text.toList) : 10 ∉ toUtf8 text := by
  intro member
  rw [← String.ofList_toList (s := text), toUtf8, String.toByteArray_ofList, List.utf8Encode,
    List.data_toByteArray, List.toList_toArray] at member
  obtain ⟨c, here, byte⟩ := List.mem_flatMap.mp member
  exact h (eq_lineFeed_of_mem_utf8EncodeChar byte ▸ here)

end Text

namespace VectorTable

open Text (IsField)

/-- The row of a token and numerals. -/
def rowOf (token : String) (numerals : List String) : String := " ".intercalate (token :: numerals)

/-- A line that holds a row is a table, whether a line feed ends it or not. -/
theorem get?_parse_line {dimension : UInt64} {line : Bytes} {token : String} {vector : Vector32}
    (row : IsRow dimension.toNat line token vector) (free : 10 ∉ line) {feed : Bytes}
    (ended : feed = [] ∨ feed = [10]) :
    (parse 0 dimension (line ++ feed)).1.get? token = some vector := by
  have notEmpty : line.isEmpty = false := by
    cases line with
    | nil => cases row?_eq_some_iff.mpr row
    | cons => rfl
  -- In both cases the content has one line.
  have counted : lines (line ++ feed) = [line] := by
    rcases ended with rfl | rfl
    · have whole : Lines (line ++ []) [] line := ⟨List.append_nil _, by simp, free⟩
      rw [lines_eq whole, notEmpty]
      rfl
    · have whole : Lines (line ++ [10]) [line] [] := ⟨by simp, by simpa using free, by simp⟩
      rw [lines_eq whole]
      rfl
  refine get?_parse_eq_some_iff.mpr ⟨[], line, [], ?_, row, by simp⟩
  rw [counted]
  rfl

/-- **A file of a row for a token** is a table that has the token with the numbers of the row,
whether a line feed ends the row or not. -/
theorem get?_parse_rowOf {token : String} (solid : IsField token.toList) {dimension : UInt64}
    {numerals : List String} {vector : Vector32}
    (read : numerals.map (fun numeral => number? numeral.toList) = vector.map some)
    (length : vector.length = dimension.toNat) {feed : Bytes} (ended : feed = [] ∨ feed = [10]) :
    (parse 0 dimension (Text.toUtf8 (rowOf token numerals) ++ feed)).1.get? token =
      some vector := by
  have words : ∀ word ∈ (token :: numerals).map String.toList, IsField word := by
    rw [List.map_cons, List.forall_mem_cons]
    refine ⟨solid, fun word member => ?_⟩
    obtain ⟨numeral, there, rfl⟩ := List.mem_map.mp member
    have number : number? numeral.toList ∈ vector.map some :=
      read ▸ List.mem_map.mpr ⟨numeral, there, rfl⟩
    obtain ⟨x, -, found⟩ := List.mem_map.mp number
    exact Numeral.isField_of_number? found.symm
  have row : (rowOf token numerals).toList =
      [' '].intercalate ((token :: numerals).map String.toList) := by
    rw [rowOf, String.toList_intercalate]
    rfl
  -- The fields of the row are the token and the numerals; none of them has a line feed.
  refine get?_parse_line ?_ (Text.lineFeed_not_mem_toUtf8 ?_) ended
  · refine ⟨_, numerals.map String.toList, [], rfl, ?_, ?_, ?_⟩
    · rw [row, Text.fields_intercalate words, List.append_nil, List.map_cons]
    · have same := congrArg List.length read
      rw [List.length_map, List.length_map] at same
      rw [List.length_map, same, length]
    · rw [List.map_map]
      exact read
  · rw [row]
    intro member
    have blank : Text.isWhitespace '\n' = true := by decide
    refine @Text.forall_mem_intercalate _ (· ≠ '\n') _ _ (by simp) ?_ _ member rfl
    rintro word there c here rfl
    rw [(words word there).solid _ here] at blank
    cases blank

end VectorTable

end TextVec
