import TextVec.Json
import TextVec.Text.Lowercase
import TextVec.Text.Normalization
import TextVec.Text.Whitespace
import TextVec.Text.WordBreak
import TextVec.Yaml.Decode

/-!
# Tokenizers

A tokenizer prepares a text, by compatibility composition and by small letters if it is told to, and
then cuts it either at white space or at word boundaries, where only words with a letter or a digit
are kept.
-/

namespace TextVec

/-- Where a text is cut. -/
inductive TokenizerKind where
  | whitespace
  | unicodeWords
  deriving DecidableEq, Repr

/-- A tokenizer by its settings. -/
structure Tokenizer where
  /-- Where a text is cut. -/
  kind : TokenizerKind := .unicodeWords
  /-- Whether it is composed before that. -/
  normalizeUnicode : Bool := true
  /-- Whether it is put into lower case after that. -/
  lowercase : Bool := true
  deriving DecidableEq, Repr, Inhabited

namespace Tokenizer

/-- The text that is cut. -/
def prepare (tokenizer : Tokenizer) (text : List Char) : List Char :=
  let text := if tokenizer.normalizeUnicode then Text.normalize text else text
  if tokenizer.lowercase then Text.lowercase text else text

/-- The pieces of a prepared text. -/
def split (kind : TokenizerKind) (text : List Char) : List (List Char) :=
  match kind with
  | .whitespace => Text.fields text
  | .unicodeWords => Text.words text

/-- The tokens of a text, in order. -/
def tokenize (tokenizer : Tokenizer) (text : String) : List String :=
  (split tokenizer.kind (tokenizer.prepare text.toList)).map String.ofList

/-- Cuts at white space and leaves the text as it is. -/
def plainWhitespace : Tokenizer := ⟨.whitespace, false, false⟩

/-! ## Settings -/

def kindName : TokenizerKind → String
  | .whitespace => "whitespace"
  | .unicodeWords => "unicode_words"

/-- The kind of the given name. -/
def kindOfName (name : String) : Decoded TokenizerKind :=
  if name == "whitespace" then .ok .whitespace
  else if name == "unicode_words" then .ok .unicodeWords
  else .error (.unknownVariant name ["whitespace", "unicode_words"])

/-- The settings read so far. -/
structure Draft where
  kind : Option TokenizerKind := none
  normalizeUnicode : Option Bool := none
  lowercase : Option Bool := none

/-- The tokenizer of the settings read; each of them may be missing. -/
def Draft.finish (draft : Draft) : Tokenizer where
  kind := draft.kind.getD .unicodeWords
  normalizeUnicode := draft.normalizeUnicode.getD true
  lowercase := draft.lowercase.getD true

/-- Reads a setting by its name; other names are ignored. -/
def Draft.read (decodeKind : α → Decoded TokenizerKind) (decodeBool : α → Decoded Bool)
    (draft : Draft) (field : String) (value : α) : Decoded Draft :=
  if field == "kind" then do
    return { draft with kind := ← once field draft.kind (decodeKind value) }
  else if field == "normalize_unicode" then do
    return { draft with normalizeUnicode := ← once field draft.normalizeUnicode (decodeBool value) }
  else if field == "lowercase" then do
    return { draft with lowercase := ← once field draft.lowercase (decodeBool value) }
  else return draft

/-- A tokenizer from a YAML value. -/
def ofYaml (value : Yaml.Value) : Decoded Tokenizer := do
  let step := Draft.read (Yaml.Value.decodeVariant kindOfName) Yaml.Value.decodeBool
  return (← value.decodeFields "TokenizerConfig" step {}).finish

/-- A tokenizer as a YAML value. -/
def toYaml (tokenizer : Tokenizer) : Yaml.Value :=
  .mapping [
    (.string "kind", .string (kindName tokenizer.kind)),
    (.string "normalize_unicode", .bool tokenizer.normalizeUnicode),
    (.string "lowercase", .bool tokenizer.lowercase)]

/-- A tokenizer from a JSON value: an object of settings, or an array of them in order. -/
def ofJson (value : Json) : Decoded Tokenizer := do
  let step := Draft.read (Json.decodeVariant kindOfName) Json.decodeBool
  match value with
  | .object entries =>
    return (← entries.foldlM (fun draft entry => step draft entry.1 entry.2) {}).finish
  | .array items =>
    let names := ["kind", "normalize_unicode", "lowercase"]
    let start : Draft := {}
    let draft ← (names.zip items).foldlM (fun draft entry => step draft entry.1 entry.2) start
    if items.length > names.length then .error (.tooManyItems items.length) else return draft.finish
  | _ => .error (.wrongType value.found "struct TokenizerConfig")

end Tokenizer

end TextVec
