import TextVec.Proofs.Table.TokenRow
import TextVec.Proofs.Text.Pieces
import TextVec.Proofs.Text.Segments
import TextVec.Tokenizer

/-!
# Tokens as keys of a table

A table has tokens without white space only. Main statement: a token at white space always has a
row, and so has a word unless a mark that follows white space has drawn that into the word, or a
narrow no-break space has joined two parts of it, which cannot happen to a composed text.
-/

namespace TextVec

open Text (isWhitespace isAlphanumeric IsField narrowSpace wordClass attaches)

/-- A word that begins with white space, which the mark after that has drawn into it. -/
def LedByBlank (word : List Char) : Prop :=
  ∃ gap mark rest, word = gap ++ mark :: rest ∧ gap ≠ [] ∧ (∀ c ∈ gap, isWhitespace c = true) ∧
    attaches (wordClass mark) = true ∧ ∀ c ∈ rest, isWhitespace c = false

namespace Text

/-- What follows white space in its segment is white space, or a mark comes next. -/
theorem Trail.blank_or_exists_mark {rest : List Char} (h : Trail rest) :
    (∀ c ∈ rest, isWhitespace c = true) ∨
      ∃ gap mark more, rest = gap ++ mark :: more ∧ (∀ c ∈ gap, isWhitespace c = true) ∧
        attaches (wordClass mark) = true ∧ OnlyNarrow more := by
  -- The white space before the mark grows by one character at a time.
  induction h with
  | none => exact .inl (List.forall_mem_nil _)
  | @marked mark more here narrow =>
    exact .inr ⟨[], mark, more, rfl, List.forall_mem_nil _, here, narrow⟩
  | @blank c rest here _ ih =>
    rcases ih with blank | ⟨gap, mark, more, rfl, blank, attached, narrow⟩
    · exact .inl (List.forall_mem_cons.mpr ⟨here, blank⟩)
    · exact .inr ⟨c :: gap, mark, more, rfl, List.forall_mem_cons.mpr ⟨here, blank⟩, attached,
        narrow⟩

/-- Without narrow spaces there is no white space at all then. -/
theorem OnlyNarrow.solid {text : List Char} (h : OnlyNarrow text) (none : narrowSpace ∉ text) :
    ∀ c ∈ text, isWhitespace c = false := by
  intro c member
  refine Bool.eq_false_iff.mpr fun blank => none ?_
  rwa [← h c member blank]

/-- A word without narrow spaces has no white space, or it begins with white space and a mark. -/
theorem solid_or_ledByBlank_of_mem_words {text word : List Char} (h : word ∈ words text)
    (none : narrowSpace ∉ word) : (∀ c ∈ word, isWhitespace c = false) ∨ LedByBlank word := by
  obtain ⟨segment, letter⟩ := List.mem_filter.mp h
  obtain ⟨d, here, alphanumeric⟩ := List.any_eq_true.mp letter
  have shape := shape_of_mem_segments segment
  cases shape with
  | narrow narrow => exact .inl (narrow.solid none)
  | @blank c rest blank trail =>
    rcases trail.blank_or_exists_mark with all | ⟨gap, mark, more, rfl, gapBlank, attached, narrow⟩
    -- A segment of white space has no letter, so it is no word.
    · have spaces : ∀ e ∈ c :: rest, isWhitespace e = true := List.forall_mem_cons.mpr ⟨blank, all⟩
      rw [isAlphanumeric_of_blank (spaces d here)] at alphanumeric
      cases alphanumeric
    · refine .inr ⟨c :: gap, mark, more, rfl, List.cons_ne_nil _ _,
        List.forall_mem_cons.mpr ⟨blank, gapBlank⟩, attached, narrow.solid fun member => none ?_⟩
      exact List.mem_cons_of_mem _ (List.mem_append_right _ (List.mem_cons_of_mem _ member))

/-- What is in a word is in the text. -/
theorem mem_of_mem_words {text word : List Char} {c : Char} (h : word ∈ words text)
    (here : c ∈ word) : c ∈ text := by
  rw [← flatten_segments text]
  exact List.mem_flatten.mpr ⟨word, (List.mem_filter.mp h).1, here⟩

/-- A normal form has no narrow space, for which a blank stands. -/
theorem narrowSpace_not_mem_normalize (text : List Char) : narrowSpace ∉ normalize text :=
  not_mem_normalize_of_blank (by decide) (by unfold IsElementary; decide +kernel) text

end Text

namespace Tokenizer

/-- Composing leaves no narrow space. -/
theorem narrowSpace_not_mem_prepare {tokenizer : Tokenizer}
    (composes : tokenizer.normalizeUnicode = true) (text : List Char) :
    narrowSpace ∉ tokenizer.prepare text := by
  have blank : isWhitespace narrowSpace = true := by decide
  unfold prepare
  simp only [composes, if_true]
  split
  · exact fun member =>
      Text.narrowSpace_not_mem_normalize text (Text.mem_of_blank_of_mem_lowercase blank member)
  · exact Text.narrowSpace_not_mem_normalize text

/-- What a token can be. -/
theorem cases_of_mem_split {kind : TokenizerKind} {prepared piece : List Char}
    (h : piece ∈ split kind prepared) :
    piece ≠ [] ∧ ((∀ c ∈ piece, isWhitespace c = false) ∨ kind = .unicodeWords ∧
      (LedByBlank piece ∨ narrowSpace ∈ piece ∧ narrowSpace ∈ prepared)) := by
  cases kind with
  | whitespace =>
    have field := Text.isField_of_mem_fields h
    exact ⟨field.nonempty, .inl field.solid⟩
  | unicodeWords =>
    have word : piece ∈ Text.words prepared := h
    refine ⟨?_, ?_⟩
    · rintro rfl
      obtain ⟨c, none, -⟩ := Text.exists_alphanumeric_of_mem_words word
      cases none
    -- Apart from the narrow space, only what a mark draws into a word is white space in it.
    · by_cases narrow : narrowSpace ∈ piece
      · exact .inr ⟨rfl, .inr ⟨narrow, Text.mem_of_mem_words word narrow⟩⟩
      · exact (Text.solid_or_ledByBlank_of_mem_words word narrow).imp_right fun led =>
          ⟨rfl, .inl led⟩

/-- **A token is a key of a table unless it has white space.** No token is empty, and white space is
only in a word that it begins because a mark follows, or in one of a text that is not composed,
which a narrow no-break space joins. For any other token and any numerals that stand for finite
numbers, the file of one row with them is a table that has the token with these numbers. For a token
with white space no file is such a table. -/
theorem key_unless_blank {tokenizer : Tokenizer} {text token : String}
    (member : token ∈ tokenizer.tokenize text) :
    token ≠ "" ∧
    ((∀ c ∈ token.toList, isWhitespace c = false) ∨
      tokenizer.kind = .unicodeWords ∧ (LedByBlank token.toList ∨
        narrowSpace ∈ token.toList ∧ tokenizer.normalizeUnicode = false)) ∧
    ((∀ c ∈ token.toList, isWhitespace c = false) →
      ∀ (dimension : UInt64) (numerals : List String) (vector : Vector32),
        numerals.map (fun numeral => VectorTable.number? numeral.toList) = vector.map some →
        vector.length = dimension.toNat → ∀ feed : Bytes, feed = [] ∨ feed = [10] →
        let content := Text.toUtf8 (" ".intercalate (token :: numerals)) ++ feed
        let table := (VectorTable.parse 0 dimension content).1
        table.get? token = some vector ∧ table.contains token = true) ∧
    ((∃ c ∈ token.toList, isWhitespace c = true) →
      ∀ skip dimension content,
        (VectorTable.parse skip dimension content).1.get? token = none) := by
  obtain ⟨piece, there, rfl⟩ := List.mem_map.mp member
  rw [String.toList_ofList]
  obtain ⟨nonempty, shape⟩ := cases_of_mem_split there
  refine ⟨?_, ?_, fun solid dimension numerals vector read length feed ended => ?_, ?_⟩
  · rw [ne_eq, String.ofList_eq_empty_iff]
    exact nonempty
  · refine shape.imp_right fun ⟨words, led⟩ => ⟨words, led.imp_right fun ⟨here, prepared⟩ => ?_⟩
    refine ⟨here, Bool.eq_false_iff.mpr fun composes => ?_⟩
    exact narrowSpace_not_mem_prepare composes _ prepared
  -- The row is made of the token and the numerals, which are fields of it.
  · have field : IsField (String.ofList piece).toList := by
      rw [String.toList_ofList]
      exact ⟨nonempty, solid⟩
    have found := VectorTable.get?_parse_rowOf field read length ended
    refine ⟨found, ?_⟩
    rw [VectorTable.contains_eq]
    exact Option.isSome_iff_exists.mpr ⟨vector, found⟩
  -- The token of a row is a field, so it has no white space.
  · rintro ⟨c, here, blank⟩ skip dimension content
    cases found : (VectorTable.parse skip dimension content).1.get? (String.ofList piece) with
    | none => rfl
    | some vector =>
      obtain ⟨line, -, row⟩ := VectorTable.exists_row_of_get? found
      have solid := row.wellFormed.1.solid
      rw [String.toList_ofList] at solid
      rw [solid c here] at blank
      cases blank

/-- A full-width letter before a mark that follows white space. -/
theorem key_unless_blank_full_width :
    "hi" ∈ tokenize {} "Ｈi \u05B0" ∧ " \u05B0" ∈ tokenize {} "Ｈi \u05B0" ∧
      (VectorTable.parse 0 2 (Text.toUtf8 (" ".intercalate ["hi", "1", "-2.5"]) ++ [10])).1.get?
        "hi" = some [1, -2.5] ∧
      ∀ content, (VectorTable.parse 0 2 content).1.get? " \u05B0" = none := by
  have tokens : tokenize {} "Ｈi \u05B0" = ["hi", " \u05B0"] := by decide +kernel
  have first : "hi" ∈ tokenize {} "Ｈi \u05B0" := by simp [tokens]
  have second : " \u05B0" ∈ tokenize {} "Ｈi \u05B0" := by simp [tokens]
  have read : ["1", "-2.5"].map (fun numeral => VectorTable.number? numeral.toList) =
      [1, -2.5].map some := by decide +kernel
  have solid : ∀ c ∈ "hi".toList, isWhitespace c = false := by simp [isWhitespace]
  obtain ⟨-, -, row, -⟩ := key_unless_blank first
  obtain ⟨-, -, -, noRow⟩ := key_unless_blank second
  exact ⟨first, second,
    (row solid 2 ["1", "-2.5"] [1, -2.5] read rfl [10] (.inr rfl)).1,
    noRow ⟨' ', by decide, by decide⟩ 0 2⟩

/-- A mark that is a letter draws the white space before it into a word, which the row for it does
not give to the table then; and a narrow no-break space stays in a word. -/
theorem words_have_white_space :
    tokenize {} " \u05B0" = [" \u05B0"] ∧ isWhitespace ' ' = true ∧
      (VectorTable.parse 0 1 (Text.toUtf8 (" ".intercalate [" \u05B0", "1"]) ++ [10])).1.contains
        " \u05B0" = false ∧
      tokenize ⟨.unicodeWords, false, true⟩ "a\u202Fb" = ["a\u202Fb"] ∧
      isWhitespace '\u202F' = true := by
  have missing : (VectorTable.parse 0 1 (Text.toUtf8 (" ".intercalate [" \u05B0", "1"]) ++
      [10])).1.get? " \u05B0" = none := by
    rw [VectorTable.get?_parse]
    decide +kernel
  refine ⟨by decide +kernel, by decide, ?_, by decide +kernel, by decide⟩
  rw [VectorTable.contains_eq, missing]
  rfl

end Tokenizer

end TextVec
