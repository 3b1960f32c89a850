import TextVec.Text.Whitespace
import TextVec.Text.WordBreak

/-!
# Pieces of a text

The fields and the words of a text are pieces of it: they stand in it one after the other and do not
overlap. Main statements: the fields hold all characters but the white space, and two characters
that stand side by side are in one field; the words hold all letters and digits, and each has one.
-/

namespace TextVec.Text

/-- `Pieces text pieces`: the pieces stand in the text in their order, apart from each other. -/
inductive Pieces : List Char → List (List Char) → Prop where
  /-- No pieces, and any text. -/
  | none (text : List Char) : Pieces text []
  /-- The next piece, behind what is left out before it. -/
  | next (before piece : List Char) {after : List Char} {pieces : List (List Char)}
      (rest : Pieces after pieces) : Pieces (before ++ (piece ++ after)) (piece :: pieces)

/-- Pieces of a text are pieces of any longer one that ends with it. -/
theorem Pieces.skip {text : List Char} {pieces : List (List Char)} (h : Pieces text pieces)
    (before : List Char) : Pieces (before ++ text) pieces := by
  cases h with
  | none => exact .none _
  | next gap piece rest =>
    rw [← List.append_assoc]
    exact .next (before ++ gap) piece rest

/-! ## Fields -/

/-- The word that was begun and the fields of the rest are pieces of both together. -/
theorem pieces_fieldsFrom (word text : List Char) :
    Pieces (word.reverse ++ text) (fieldsFrom word text) := by
  induction text generalizing word with
  | nil =>
    rw [fieldsFrom]
    split
    · exact .none _
    · exact .next [] word.reverse (.none [])
  | cons c rest ih =>
    rw [fieldsFrom]
    split
    · have later : Pieces (c :: rest) (fieldsFrom [] rest) := (ih []).skip [c]
      split
      · exact later.skip word.reverse
      · exact .next [] word.reverse later
    · have longer := ih (c :: word)
      rwa [List.reverse_cons, List.append_assoc, List.singleton_append] at longer

/-- **Fields are pieces of their text.** -/
theorem pieces_fields (text : List Char) : Pieces text (fields text) := pieces_fieldsFrom [] text

/-- The word that was begun and the fields hold all that is no white space. -/
theorem flatten_fieldsFrom (word text : List Char) :
    (fieldsFrom word text).flatten =
      word.reverse ++ text.filter fun c => !isWhitespace c := by
  induction text generalizing word with
  | nil =>
    rw [fieldsFrom]
    split
    · rename_i empty
      rw [List.isEmpty_iff.mp empty]
      rfl
    · simp
  | cons c rest ih =>
    rw [fieldsFrom]
    split
    · rename_i blank
      rw [List.filter_cons_of_neg (by simpa using blank)]
      split
      · rename_i empty
        rw [ih, List.isEmpty_iff.mp empty]
      · rw [List.flatten_cons, ih, List.reverse_nil, List.nil_append]
    · rename_i solid
      rw [ih, List.filter_cons_of_pos (by simpa using solid), List.reverse_cons,
        List.append_assoc, List.singleton_append]

/-- The fields hold all characters but the white space, in their order. -/
theorem flatten_fields (text : List Char) :
    (fields text).flatten = text.filter fun c => !isWhitespace c :=
  flatten_fieldsFrom [] text

/-- What has been read of a field stands at its front. -/
theorem exists_fieldsFrom_eq {word : List Char} (begun : word ≠ []) (text : List Char) :
    ∃ back later, fieldsFrom word text = (word.reverse ++ back) :: later := by
  have notEmpty {word : List Char} (begun : word ≠ []) : ¬ word.isEmpty = true := by
    simpa using begun
  induction text generalizing word with
  | nil =>
    rw [fieldsFrom, if_neg (notEmpty begun)]
    exact ⟨[], [], by rw [List.append_nil]⟩
  | cons c rest ih =>
    rw [fieldsFrom, if_neg (notEmpty begun)]
    split
    · exact ⟨[], _, by rw [List.append_nil]⟩
    · obtain ⟨back, later, read⟩ := ih (List.cons_ne_nil c word)
      exact ⟨c :: back, later, by rw [read, List.reverse_cons, List.append_assoc]; rfl⟩

theorem exists_fieldsFrom_of_adjacent {u v : Char} (hu : isWhitespace u = false)
    (hv : isWhitespace v = false) (word before after : List Char) :
    ∃ earlier front back later,
      fieldsFrom word (before ++ u :: v :: after) =
        earlier ++ (front ++ u :: v :: back) :: later ∧
      earlier.flatten ++ front = word.reverse ++ before.filter fun c => !isWhitespace c := by
  -- Both are put into one word, whatever was read before them: a blank only begins a new one.
  induction before generalizing word with
  | nil =>
    obtain ⟨back, later, read⟩ := @exists_fieldsFrom_eq (v :: u :: word) (by simp) after
    refine ⟨[], word.reverse, back, later, ?_, by simp⟩
    rw [List.nil_append, fieldsFrom, if_neg (by simp [hu]), fieldsFrom, if_neg (by simp [hv]), read]
    simp
  | cons c before ih =>
    rw [List.cons_append, fieldsFrom]
    split
    · rename_i blank
      obtain ⟨earlier, front, back, later, read, kept⟩ := ih []
      rw [List.filter_cons_of_neg (by simpa using blank), read]
      split
      · rename_i empty
        rw [List.isEmpty_iff.mp empty]
        exact ⟨earlier, front, back, later, rfl, kept⟩
      · refine ⟨word.reverse :: earlier, front, back, later, rfl, ?_⟩
        rw [List.flatten_cons, List.append_assoc, kept, List.reverse_nil, List.nil_append]
    · rename_i solid
      obtain ⟨earlier, front, back, later, read, kept⟩ := ih (c :: word)
      refine ⟨earlier, front, back, later, read, ?_⟩
      rw [kept, List.filter_cons_of_pos (by simpa using solid), List.reverse_cons,
        List.append_assoc, List.singleton_append]

/-- Two characters that stand side by side and are no white space are in one field. The characters
before them that are no white space are those of the earlier fields and of the front of that
one. -/
theorem exists_field_of_adjacent {u v : Char} (hu : isWhitespace u = false)
    (hv : isWhitespace v = false) (before after : List Char) :
    ∃ earlier front back later,
      fields (before ++ u :: v :: after) = earlier ++ (front ++ u :: v :: back) :: later ∧
      earlier.flatten ++ front = before.filter fun c => !isWhitespace c :=
  exists_fieldsFrom_of_adjacent hu hv [] before after

/-! ## Words -/

/-- Some of the pieces into which a text is cut are pieces of it. -/
theorem pieces_filter (segments : List (List Char)) (keep : List Char → Bool) :
    Pieces segments.flatten (segments.filter keep) := by
  induction segments with
  | nil => exact .none _
  | cons segment rest ih =>
    rw [List.filter_cons, List.flatten_cons]
    split
    · exact .next [] segment ih
    · exact ih.skip segment

/-- **Words are pieces of their text.** -/
theorem pieces_words (text : List Char) : Pieces text (words text) := by
  have pieces := pieces_filter (segments text) fun segment => segment.any isAlphanumeric
  rwa [flatten_segments] at pieces

/-- Every word has a letter or a digit. -/
theorem exists_alphanumeric_of_mem_words {text word : List Char} (h : word ∈ words text) :
    ∃ c ∈ word, isAlphanumeric c = true :=
  List.any_eq_true.mp (List.mem_filter.mp h).2

/-- A segment that is dropped has nothing of what is looked for in it. -/
theorem filter_flatten_filter_any (p : α → Bool) (xss : List (List α)) :
    ((xss.filter fun xs => xs.any p).flatten).filter p = xss.flatten.filter p := by
  induction xss with
  | nil => rfl
  | cons xs rest ih =>
    rw [List.filter_cons]
    split
    · rw [List.flatten_cons, List.flatten_cons, List.filter_append, List.filter_append, ih]
    -- A segment that is dropped has none of them, so it adds nothing.
    · rename_i none
      have dropped : xs.filter p = [] :=
        List.filter_eq_nil_iff.mpr fun x member hx => none (List.any_eq_true.mpr ⟨x, member, hx⟩)
      rw [ih, List.flatten_cons, List.filter_append, dropped, List.nil_append]

/-- The words hold all letters and digits, in their order. -/
theorem filter_flatten_words (text : List Char) :
    (words text).flatten.filter isAlphanumeric = text.filter isAlphanumeric := by
  rw [words, filter_flatten_filter_any, flatten_segments]

/-- A text without letters and digits has no words. -/
theorem words_of_no_alphanumeric {text : List Char} (h : ∀ c ∈ text, isAlphanumeric c = false) :
    words text = [] := by
  refine List.eq_nil_iff_forall_not_mem.mpr fun word member => ?_
  obtain ⟨c, here, alphanumeric⟩ := exists_alphanumeric_of_mem_words member
  have kept : c ∈ (words text).flatten.filter isAlphanumeric :=
    List.mem_filter.mpr ⟨List.mem_flatten.mpr ⟨word, member, here⟩, alphanumeric⟩
  rw [filter_flatten_words] at kept
  rw [h c (List.mem_filter.mp kept).1] at alphanumeric
  cases alphanumeric

end TextVec.Text
