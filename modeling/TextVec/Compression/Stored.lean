import TextVec.Compression.Compressor
import TextVec.Compression.Frame

/-!
# Stored frames

What is written as a compressed file is one frame of stored blocks. Reading it gives the content
back, whatever its length: every block but the last is as large as the window, and the last one ends
the frame. So frames are a compression.
-/

namespace TextVec.Compression

/-! ## Blocks -/

/-- A stored block that is the last one of its frame. -/
theorem readBlocks_last {limit fuel : Nat} {content : Bytes} (short : content.length ≤ limit)
    (fits : 8 * content.length + 1 < Nat.pow 256 3) (memory : Memory) (out : ByteArray) :
    readBlocks limit (fuel + 1) memory (littleEndian 3 (8 * content.length + 1) ++ content) out =
      some (out ++ ⟨content.toArray⟩, []) := by
  have head := takeWord_littleEndian fits content
  have size : (8 * content.length + 1) / 8 = content.length := by omega
  have stored : (8 * content.length + 1) / 2 % 4 = 0 := by omega
  have last : (8 * content.length + 1) % 2 = 1 := by omega
  have taken := takeBytes_append content []
  rw [List.append_nil] at taken
  simp only [readBlocks, head, size, stored, last, taken, bind, Option.bind, Nat.not_lt.mpr short,
    if_false, if_true]

/-- A stored block that is followed by others. -/
theorem readBlocks_more {limit : Nat} (fuel : Nat) {content : Bytes}
    (short : content.length ≤ limit) (fits : 8 * content.length < Nat.pow 256 3) (memory : Memory)
    (rest : Bytes) (out : ByteArray) :
    readBlocks limit (fuel + 1) memory (littleEndian 3 (8 * content.length) ++ (content ++ rest))
        out =
      readBlocks limit fuel memory rest (out ++ ⟨content.toArray⟩) := by
  have head := takeWord_littleEndian fits (content ++ rest)
  have size : 8 * content.length / 8 = content.length := by omega
  have stored : 8 * content.length / 2 % 4 = 0 := by omega
  have more : ¬ 8 * content.length % 2 = 1 := by omega
  have taken := takeBytes_append content rest
  simp only [readBlocks, head, size, stored, more, taken, bind, Option.bind, Nat.not_lt.mpr short,
    if_false]

/-- Reading stored blocks appends their content to what was read before. -/
theorem readBlocks_storedBlocks {blocks fuel : Nat} {bytes : Bytes} (room : bytes.length < blocks)
    (enough : bytes.length < fuel) (memory : Memory) (out : ByteArray) :
    readBlocks storedLimit fuel memory (storedBlocks blocks bytes) out =
      some (out ++ ⟨bytes.toArray⟩, []) := by
  induction blocks generalizing fuel bytes out with
  | zero => omega
  | succ blocks ih =>
    -- There is fuel for this block: every block but the last takes bytes away.
    obtain ⟨fuel, rfl⟩ : ∃ more, fuel = more + 1 := ⟨fuel - 1, by omega⟩
    have limit : storedLimit = 65536 := rfl
    have width : Nat.pow 256 3 = 16777216 := rfl
    unfold storedBlocks
    split
    · rename_i short
      exact readBlocks_last short (by omega) memory out
    · rename_i long
      have whole : (bytes.take storedLimit).length = storedLimit := by
        rw [List.length_take]
        omega
      have shorter : (bytes.drop storedLimit).length + storedLimit = bytes.length := by
        rw [List.length_drop]
        omega
      have first := readBlocks_more fuel (Nat.le_of_eq whole) (by omega)
        memory (storedBlocks blocks (bytes.drop storedLimit)) out
      rw [whole] at first
      rw [List.append_assoc, first, ih (by omega) (by omega)]
      congr 2
      -- What was taken and what was dropped are the bytes again.
      apply ByteArray.ext
      simp only [ByteArray.data_append, Array.append_assoc, List.append_toArray,
        List.take_append_drop]

/-- Stored blocks are not shorter than their content. -/
theorem length_le_length_storedBlocks {blocks : Nat} {bytes : Bytes}
    (room : bytes.length < blocks) : bytes.length ≤ (storedBlocks blocks bytes).length := by
  induction blocks generalizing bytes with
  | zero => omega
  | succ blocks ih =>
    unfold storedBlocks
    split
    · simp
    · rename_i long
      have limit : storedLimit = 65536 := rfl
      have fewer : (bytes.drop storedLimit).length < blocks := by
        rw [List.length_drop]
        omega
      have rest := ih fewer
      simp only [List.length_append, length_littleEndian, List.length_take, List.length_drop] at *
      omega

/-! ## Frames -/

/-- The header of the frames that are written: a window, and neither a size nor a hash. -/
theorem readHeader_written (rest : Bytes) :
    readHeader ([0x00, 0x30] ++ rest) = some (⟨storedLimit, none, false⟩, rest) := by
  have byte (b : UInt8) (rest : Bytes) : takeWord 1 (b :: rest) = some (b.toNat, rest) := by
    simp [takeWord, takeBytes, ofLittleEndian]
  have nothing (bytes : Bytes) : takeWord 0 bytes = some (0, bytes) := by
    simp [takeWord, takeBytes, ofLittleEndian]
  have descriptor : takeWord 1 ([0x00, 0x30] ++ rest) = some (0, 0x30 :: rest) := byte 0x00 _
  have window : takeWord 1 (0x30 :: rest) = some (48, rest) := byte 0x30 rest
  -- With both sizes left open, nothing is computed before they are compared.
  have header (limit size : Nat) (largest : windowLimit = limit)
      (stored : Nat.pow 2 (10 + 48 / 8) + Nat.pow 2 (10 + 48 / 8) / 8 * (48 % 8) = size)
      (allowed : ¬ size > limit) :
      readHeader ([0x00, 0x30] ++ rest) = some (⟨size, none, false⟩, rest) := by
    unfold readHeader
    rw [largest]
    simp only [descriptor, window, nothing, stored, allowed, bind, Option.bind, Nat.zero_div,
      Nat.zero_mod, Nat.zero_ne_one, if_false, if_true, List.getD_cons_zero, decide_false,
      bne_self_eq_false, Bool.or_self, Bool.false_eq_true]
  exact header windowLimit storedLimit rfl rfl (by decide)

theorem readFrame_written (bytes : Bytes) :
    readFrame ([0x00, 0x30] ++ storedBlocks (bytes.length + 1) bytes) = some (bytes, []) := by
  have limit : min storedLimit blockLimit = storedLimit := rfl
  have enough : bytes.length < (storedBlocks (bytes.length + 1) bytes).length + 1 :=
    Nat.lt_succ_of_le (length_le_length_storedBlocks (Nat.lt_succ_self _))
  have blocks := readBlocks_storedBlocks (Nat.lt_succ_self bytes.length) enough {} .empty
  simp only [readFrame, readHeader_written, limit, blocks, bind, Option.bind]
  simp

/-- A file that was written is read as its content. -/
theorem decompress_compress (bytes : Bytes) : decompress (compress bytes) = some bytes := by
  have fits : magic < Nat.pow 256 4 := by decide
  have number := takeWord_littleEndian fits
    ([0x00, 0x30] ++ storedBlocks (bytes.length + 1) bytes)
  have ours : isSkipped magic = false := by decide
  have present : (compress bytes).isEmpty = false := rfl
  obtain ⟨first, others, nonempty⟩ : ∃ first others, compress bytes = first :: others :=
    ⟨_, _, rfl⟩
  -- A file that is not empty is read frame by frame; there is just one, and nothing after it.
  unfold decompress
  rw [present, nonempty]
  simp only [List.length_cons, Bool.false_eq_true, if_false]
  unfold readFrames
  rw [← nonempty]
  simp only [compress, List.append_assoc, number, ours, readFrame_written, bind, Option.bind,
    if_true, Bool.false_eq_true, if_false]
  simp [readFrames]

/-- Files of frames, for programs that are run. -/
scoped instance frames : Compressor where
  compress := compress
  decompress := decompress
  decompress_compress := decompress_compress

end TextVec.Compression
