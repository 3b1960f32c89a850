import TextVec.Binary.Checksum
import TextVec.Compression.Block

/-!
# Compressed files

A compressed file is a row of frames. A frame is a header and blocks, which are stored as they are,
as one repeated byte, or compressed; it may carry the size and a hash of its content. Frames of
another magic number are skipped. What this program writes is one frame of stored blocks.
-/

namespace TextVec.Compression

/-- The number at the beginning of a frame. -/
def magic : Nat := 0xFD2FB528

/-- Whether a number begins a frame that is skipped. -/
def isSkipped (n : Nat) : Bool := n / 16 == 0x184D2A5

/-- The largest window for which a frame is read. -/
def windowLimit : Nat := Nat.pow 2 27 + 1

/-- What the header of a frame says. -/
structure Header where
  /-- How far back copies may reach. -/
  window : Nat
  /-- How long the content is, if that is said. -/
  size : Option Nat
  /-- Whether a hash of the content follows the blocks. -/
  hasHash : Bool

/-- Reads a header after the magic number. -/
def readHeader (bytes : Bytes) : Option (Header × Bytes) := do
  let (descriptor, bytes) ← takeWord 1 bytes
  let single := descriptor / 32 % 2 = 1
  if descriptor / 8 % 2 = 1 then none
  else
    let (window, bytes) ←
      if single then some (0, bytes)
      else do
        let (b, bytes) ← takeWord 1 bytes
        let base := Nat.pow 2 (10 + b / 8)
        some (base + base / 8 * (b % 8), bytes)
    let (dictionary, bytes) ← takeWord ([0, 1, 2, 4].getD (descriptor % 4) 0) bytes
    let kind := descriptor / 64
    let width := if kind = 0 then (if single then 1 else 0) else Nat.pow 2 kind
    let (size, bytes) ← takeWord width bytes
    let size := if width = 2 then size + 256 else size
    let window := if single then size else window
    if dictionary != 0 || window > windowLimit then none
    else some (⟨window, if width = 0 then none else some size, descriptor / 4 % 2 = 1⟩, bytes)

/-- Reads blocks up to the last one of a frame. -/
def readBlocks (limit : Nat) :
    (fuel : Nat) → Memory → Bytes → ByteArray → Option (ByteArray × Bytes)
  | 0, _, _, _ => none
  | fuel + 1, memory, bytes, out => do
    let (head, bytes) ← takeWord 3 bytes
    let size := head / 8
    if size > limit then none
    else
      let (memory, out, bytes) ←
        match head / 2 % 4 with
        | 0 => do
          let (content, bytes) ← takeBytes size bytes
          some (memory, out ++ ⟨content.toArray⟩, bytes)
        | 1 => do
          let (content, bytes) ← takeBytes 1 bytes
          some (memory, out ++ ⟨Array.replicate size (content.headD 0)⟩, bytes)
        | 2 => do
          let (content, bytes) ← takeBytes size bytes
          let (out, memory) ← readBlock memory ⟨content.toArray⟩ out
          some (memory, out, bytes)
        | _ => none
      if head % 2 = 1 then some (out, bytes) else readBlocks limit fuel memory bytes out

/-- The content of a frame after its magic number, and what follows it. -/
def readFrame (bytes : Bytes) : Option (Bytes × Bytes) := do
  let (header, bytes) ← readHeader bytes
  let (out, bytes) ← readBlocks (min header.window blockLimit) (bytes.length + 1) {} bytes .empty
  let content := out.data.toList
  if header.size.any (· != content.length) then none
  else if header.hasHash then do
    let (stored, bytes) ← takeWord 4 bytes
    if stored = (Checksum.hash content).toNat % Nat.pow 2 32 then some (content, bytes) else none
  else some (content, bytes)

/-- The content of all frames. -/
def readFrames : (fuel : Nat) → Bytes → Option Bytes
  | 0, _ => none
  | _, [] => some []
  | fuel + 1, bytes => do
    let (number, bytes) ← takeWord 4 bytes
    if isSkipped number then
      let (size, bytes) ← takeWord 4 bytes
      let (_, bytes) ← takeBytes size bytes
      readFrames fuel bytes
    else if number = magic then
      let (content, bytes) ← readFrame bytes
      return content ++ (← readFrames fuel bytes)
    else none

/-- The content of a compressed file, which has one frame at least. -/
def decompress (bytes : Bytes) : Option Bytes :=
  if bytes.isEmpty then none else readFrames (bytes.length + 1) bytes

/-- The largest stored block that is written. -/
def storedLimit : Nat := 65536

/-- Stored blocks for bytes that do not take more than `fuel` of them. -/
def storedBlocks : (fuel : Nat) → Bytes → Bytes
  | 0, _ => []
  | fuel + 1, bytes =>
    if bytes.length ≤ storedLimit then littleEndian 3 (8 * bytes.length + 1) ++ bytes
    else
      littleEndian 3 (8 * storedLimit) ++ bytes.take storedLimit ++
        storedBlocks fuel (bytes.drop storedLimit)

/-- A compressed file with the given content. Its window is that of the largest block. -/
def compress (bytes : Bytes) : Bytes :=
  littleEndian 4 magic ++ [0x00, 0x30] ++ storedBlocks (bytes.length + 1) bytes

end TextVec.Compression
