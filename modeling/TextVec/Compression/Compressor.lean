import TextVec.Text.Utf8

/-!
# Compressors

What is needed of a compression: that the content of a compressed file is what was compressed. How
it is compressed, and which other files count as compressed, is left open.
-/

namespace TextVec

/-- A way to compress the content of files. -/
class Compressor where
  /-- A compressed file with the given content. -/
  compress : Bytes → Bytes
  /-- The content of a compressed file, if the bytes are one. -/
  decompress : Bytes → Option Bytes
  /-- What was compressed is read again. -/
  decompress_compress (content : Bytes) : decompress (compress content) = some content

end TextVec
