/-!
# Texts as bytes

The UTF-8 form of a text, and the reading of bytes that may not be one. Main statements: reading
what was written gives the text back, and only the written form of a text is read as it.
-/

namespace TextVec

/-- A sequence of bytes: the content of a file, or part of it. -/
abbrev Bytes := List UInt8

namespace Text

/-- The UTF-8 bytes of a text. -/
def toUtf8 (text : String) : Bytes := text.toByteArray.data.toList

/-- The text whose UTF-8 form the bytes are, if they are valid. -/
def ofUtf8? (bytes : Bytes) : Option String :=
  if h : (ByteArray.mk bytes.toArray).IsValidUTF8 then some (.ofByteArray _ h) else none

theorem ofUtf8?_toUtf8 (text : String) : ofUtf8? (toUtf8 text) = some text := by
  simp [ofUtf8?, toUtf8, text.isValidUTF8]

theorem toUtf8_of_ofUtf8? {bytes : Bytes} {text : String} (h : ofUtf8? bytes = some text) :
    toUtf8 text = bytes := by
  unfold ofUtf8? at h
  split at h
  · cases h; simp [toUtf8]
  · cases h

theorem ofUtf8?_eq_some_iff {bytes : Bytes} {text : String} :
    ofUtf8? bytes = some text ↔ bytes = toUtf8 text :=
  ⟨fun h => (toUtf8_of_ofUtf8? h).symm, fun h => h ▸ ofUtf8?_toUtf8 text⟩

end Text

end TextVec
