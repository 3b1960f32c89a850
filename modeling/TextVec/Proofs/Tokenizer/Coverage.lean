import TextVec.Proofs.Text.Blank
import TextVec.Proofs.Text.Fields
import TextVec.Proofs.Text.Pieces
import TextVec.Tokenizer

/-!
# What tokens keep of a text

Tokens are pieces of the prepared text, and what is left out does not count: white space in the one
kind of tokenizer, and what is neither a letter nor a digit in the other. Main statement: that, and
that a text of white space has no tokens.
-/

namespace TextVec

open Text (isWhitespace isAlphanumeric)

/-- What tokens at white space keep of a prepared text: each character that is no white space, and
what stands side by side in it. The characters before such a pair are those of the earlier tokens
and of the front of the token that has it. -/
structure KeepsSolid (prepared : List Char) (tokens : List (List Char)) : Prop where
  /-- The tokens hold all characters but the white space. -/
  flatten : tokens.flatten = prepared.filter fun c => !isWhitespace c
  /-- Two characters side by side are side by side in one token. -/
  together : ∀ before u v after, prepared = before ++ u :: v :: after →
    isWhitespace u = false → isWhitespace v = false →
    ∃ earlier front back later, tokens = earlier ++ (front ++ u :: v :: back) :: later ∧
      earlier.flatten ++ front = before.filter fun c => !isWhitespace c

/-- What words keep of a prepared text: each letter and each digit, and every word has one. -/
structure KeepsAlphanumeric (prepared : List Char) (tokens : List (List Char)) : Prop where
  /-- The words hold all letters and digits. -/
  filter_flatten : tokens.flatten.filter isAlphanumeric = prepared.filter isAlphanumeric
  /-- Every word has one of them. -/
  exists_alphanumeric : ∀ token ∈ tokens, ∃ c ∈ token, isAlphanumeric c = true

namespace Tokenizer

/-- The tokens are the pieces into which the prepared text is split. -/
theorem toList_tokenize (tokenizer : Tokenizer) (text : String) :
    (tokenizer.tokenize text).map String.toList =
      split tokenizer.kind (tokenizer.prepare text.toList) := by
  rw [tokenize, List.map_map]
  refine List.map_id'' (fun token => String.toList_ofList) _

/-- Preparing leaves a text of white space one. -/
theorem forall_blank_prepare (tokenizer : Tokenizer) {text : List Char}
    (blank : ∀ c ∈ text, isWhitespace c = true) :
    ∀ c ∈ tokenizer.prepare text, isWhitespace c = true := by
  have composed : ∀ c ∈ (if tokenizer.normalizeUnicode then Text.normalize text else text),
      isWhitespace c = true := by
    split
    · exact Text.forall_blank_normalize blank
    · exact blank
  unfold prepare
  dsimp only
  split
  · rwa [Text.lowercase_of_blank composed]
  · exact composed

/-- A text of white space has no tokens, since preparing makes nothing else of it. -/
theorem tokenize_of_blank (tokenizer : Tokenizer) {text : String}
    (blank : ∀ c ∈ text.toList, isWhitespace c = true) : tokenizer.tokenize text = [] := by
  have prepared := forall_blank_prepare tokenizer blank
  rw [tokenize, List.map_eq_nil_iff]
  cases tokenizer.kind with
  | whitespace => exact Text.fields_of_blank prepared
  | unicodeWords =>
    exact Text.words_of_no_alphanumeric fun c member =>
      Text.isAlphanumeric_of_blank (prepared c member)

/-- Tokens at white space keep each character that is no white space. -/
theorem keepsSolid_fields (prepared : List Char) : KeepsSolid prepared (Text.fields prepared) where
  flatten := Text.flatten_fields prepared
  together := by
    rintro before u v after rfl hu hv
    exact Text.exists_field_of_adjacent hu hv before after

/-- Words keep each letter and each digit. -/
theorem keepsAlphanumeric_words (prepared : List Char) :
    KeepsAlphanumeric prepared (Text.words prepared) where
  filter_flatten := Text.filter_flatten_words prepared
  exists_alphanumeric _ := Text.exists_alphanumeric_of_mem_words

/-- **Tokens keep all that counts** of the prepared text, in its order, and nothing twice. Those at
white space are pieces of it that hold every character but the white space, and no two characters
that stand side by side come apart. Words are pieces of it that hold every letter and every digit,
and each of them has one. A text of white space has no token of either kind. -/
theorem tokens_keep_what_counts (normalizeUnicode lowercase : Bool) (text : String) :
    let prepared := Tokenizer.prepare { normalizeUnicode, lowercase } text.toList
    let fields := tokenize ⟨.whitespace, normalizeUnicode, lowercase⟩ text
    let words := tokenize ⟨.unicodeWords, normalizeUnicode, lowercase⟩ text
    (Text.Pieces prepared (fields.map String.toList) ∧
      KeepsSolid prepared (fields.map String.toList)) ∧
    (Text.Pieces prepared (words.map String.toList) ∧
      KeepsAlphanumeric prepared (words.map String.toList)) ∧
    ((∀ c ∈ text.toList, isWhitespace c = true) → fields = [] ∧ words = []) := by
  intro prepared fields words
  -- Both kinds of tokenizer differ in how the prepared text is split, and in nothing else.
  have atWhitespace : fields.map String.toList = Text.fields prepared := toList_tokenize _ text
  have atWords : words.map String.toList = Text.words prepared := toList_tokenize _ text
  rw [atWhitespace, atWords]
  exact ⟨⟨Text.pieces_fields prepared, keepsSolid_fields prepared⟩,
    ⟨Text.pieces_words prepared, keepsAlphanumeric_words prepared⟩,
    fun blank => ⟨tokenize_of_blank _ blank, tokenize_of_blank _ blank⟩⟩

/-- A text of a no-break space and a full-width one. -/
theorem tokens_keep_what_counts_blank :
    (∀ c ∈ "\u00A0\u3000".toList, isWhitespace c = true) ∧
      tokenize ⟨.whitespace, true, true⟩ "\u00A0\u3000" = [] ∧
      tokenize ⟨.unicodeWords, true, true⟩ "\u00A0\u3000" = [] := by
  have blank : ∀ c ∈ "\u00A0\u3000".toList, isWhitespace c = true :=
    List.all_eq_true.mp (by decide)
  exact ⟨blank, (tokens_keep_what_counts true true "\u00A0\u3000").2.2 blank⟩

end Tokenizer

end TextVec
