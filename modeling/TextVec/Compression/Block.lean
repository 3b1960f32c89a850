import TextVec.Compression.Huffman

/-!
# Compressed blocks

A compressed block holds literal bytes and a list of sequences. A sequence copies some literals to
the output, and then bytes that the output already has at some distance; distances that were used
lately are named by their rank. The literals after the last sequence end the block.
-/

namespace TextVec.Compression

/-- What a block hands on to the next: the tables, which it may use again, and the last three
distances. -/
structure Memory where
  /-- The code of literals. -/
  code : Option PrefixCode := none
  /-- The table of the numbers of literals. -/
  lengths : Option EntropyTable := none
  /-- The table of offsets. -/
  offsets : Option EntropyTable := none
  /-- The table of the lengths of copies. -/
  copies : Option EntropyTable := none
  /-- The last three offsets. -/
  recent : Nat × Nat × Nat := (1, 4, 8)

/-- The most bytes that a block may stand for. -/
def blockLimit : Nat := 131072

/-! ## Literals -/

/-- A number in the bits from `start` to `stop` of the first bytes. -/
def field (bytes : ByteArray) (start stop : Nat) : Nat := bitsAt bytes start (stop - start)

/-- Literals that are stored as they are, or as one byte that is repeated; also the length of all
that was read. -/
def plainLiterals (bytes : ByteArray) (repeated : Bool) : Option (ByteArray × Nat) :=
  let format := field bytes 2 4
  let (header, count) :=
    if format = 1 then (2, field bytes 4 16)
    else if format = 3 then (3, field bytes 4 24)
    else (1, field bytes 3 8)
  let length := header + if repeated then 1 else count
  if bytes.size < length || count > blockLimit then none
  else if repeated then
    some (⟨Array.replicate count (bytes.data[header]?.getD 0)⟩, length)
  else some (bytes.extract header length, length)

/-- Literals in a prefix code, which comes before them unless that of the last block is meant. -/
def codedLiterals (memory : Memory) (bytes : ByteArray) (described : Bool) :
    Option (ByteArray × Nat × Memory) := do
  let format := field bytes 2 4
  let width := if format = 3 then 18 else if format = 2 then 14 else 10
  let header := if format = 3 then 5 else if format = 2 then 4 else 3
  let count := field bytes 4 (4 + width)
  let size := field bytes (4 + width) (4 + 2 * width)
  if bytes.size < header + size || count > blockLimit then none
  else
    let content := bytes.extract header (header + size)
    let (code, used) ←
      if described then PrefixCode.read? content else memory.code.map fun code => (code, 0)
    let content := content.extract used content.size
    let literals ←
      if format = 0 then code.decodeOne content count ByteArray.empty
      else code.decodeFour content count
    some (literals, header + size, { memory with code := some code })

/-- The literals of a block, their length in it, and what is remembered. -/
def readLiterals (memory : Memory) (bytes : ByteArray) : Option (ByteArray × Nat × Memory) :=
  match field bytes 0 2 with
  | 0 => (plainLiterals bytes false).map fun (literals, length) => (literals, length, memory)
  | 1 => (plainLiterals bytes true).map fun (literals, length) => (literals, length, memory)
  | 2 => codedLiterals memory bytes true
  | _ => codedLiterals memory bytes false

/-! ## Sequences -/

/-- The least value and the extra bits of each code of a literal length. -/
def lengthCodes : Array (Nat × Nat) :=
  ((List.range 16).map fun n => (n, 0)).toArray ++
    #[(16, 1), (18, 1), (20, 1), (22, 1), (24, 2), (28, 2), (32, 3), (40, 3), (48, 4), (64, 6),
      (128, 7), (256, 8), (512, 9), (1024, 10), (2048, 11), (4096, 12), (8192, 13), (16384, 14),
      (32768, 15), (65536, 16)]

/-- The least value and the extra bits of each code of a copy length. -/
def copyCodes : Array (Nat × Nat) :=
  ((List.range 32).map fun n => (n + 3, 0)).toArray ++
    #[(35, 1), (37, 1), (39, 1), (41, 1), (43, 2), (47, 2), (51, 3), (59, 3), (67, 4), (83, 4),
      (99, 5), (131, 7), (259, 8), (515, 9), (1027, 10), (2051, 11), (4099, 12), (8195, 13),
      (16387, 14), (32771, 15), (65539, 16)]

/-- The table of literal lengths that needs no description. -/
def standardLengths : EntropyTable :=
  .ofCounts 6 [4, 3, 2, 2, 2, 2, 2, 2, 2, 2, 2, 2, 2, 1, 1, 1, 2, 2, 2, 2, 2, 2, 2, 2, 2, 3, 2, 1,
    1, 1, 1, 1, -1, -1, -1, -1]

/-- The table of distances that needs no description. -/
def standardOffsets : EntropyTable :=
  .ofCounts 5 [1, 1, 1, 1, 1, 1, 2, 2, 2, 1, 1, 1, 1, 1, 1, 1, 1, 1, 1, 1, 1, 1, 1, 1, -1, -1, -1,
    -1, -1]

/-- The table of copy lengths that needs no description. -/
def standardCopies : EntropyTable :=
  .ofCounts 6 [1, 4, 3, 2, 2, 2, 2, 2, 2, 1, 1, 1, 1, 1, 1, 1, 1, 1, 1, 1, 1, 1, 1, 1, 1, 1, 1, 1,
    1, 1, 1, 1, 1, 1, 1, 1, 1, 1, 1, 1, 1, 1, 1, 1, 1, 1, -1, -1, -1, -1, -1, -1, -1]

/-- The table that a mode stands for, and how many bytes describe it. -/
def readTable (mode : Nat) (standard : EntropyTable) (last : Option EntropyTable)
    (limit maxAccuracy : Nat) (bytes : ByteArray) : Option (EntropyTable × Nat) :=
  match mode with
  | 0 => some (standard, 0)
  | 1 => bytes.data[0]?.bind fun b =>
    if b.toNat > limit then none else some (.constant b.toNat, 1)
  | 2 => EntropyTable.read? bytes limit maxAccuracy
  | _ => last.map fun table => (table, 0)

/-- A sequence. -/
structure Sequence where
  literals : Nat
  length : Nat
  /-- The distance, or the rank of one that was used lately. -/
  offset : Nat

/-- The number of sequences, and the bytes that write it. -/
def readCount (bytes : ByteArray) : Option (Nat × Nat) := do
  let a := (← bytes.data[0]?).toNat
  if a < 128 then some (a, 1)
  else
    let b := (← bytes.data[1]?).toNat
    if a < 255 then some ((a - 128) * 256 + b, 2)
    else
      let c := (← bytes.data[2]?).toNat
      some (b + 256 * c + 0x7F00, 3)

/-- The states of the three tables. -/
structure States where
  lengths : EntropyState
  offsets : EntropyState
  copies : EntropyState

/-- Decodes `count` sequences of a stream, which must then be used up. -/
def readSequences (lengths offsets copies : EntropyTable) :
    (count : Nat) → States → Backward → Option (List Sequence)
  | 0, _, stream => if stream.left = 0 then some [] else none
  | count + 1, states, stream => do
    let (low, stream) ← stream.take states.offsets.symbol
    let (copyBase, copyBits) ← copyCodes[states.copies.symbol]?
    let (copyMore, stream) ← stream.take copyBits
    let (lengthBase, lengthBits) ← lengthCodes[states.lengths.symbol]?
    let (lengthMore, stream) ← stream.take lengthBits
    let found : Sequence :=
      ⟨lengthBase + lengthMore, copyBase + copyMore, Nat.pow 2 states.offsets.symbol + low⟩
    if count = 0 then
      let rest ← readSequences lengths offsets copies count states stream
      some (found :: rest)
    else
      let (l, stream) ← stream.take states.lengths.bits
      let (m, stream) ← stream.take states.copies.bits
      let (o, stream) ← stream.take states.offsets.bits
      let states : States :=
        ⟨lengths.state (states.lengths.base + l), offsets.state (states.offsets.base + o),
          copies.state (states.copies.base + m)⟩
      let rest ← readSequences lengths offsets copies count states stream
      some (found :: rest)

/-- The sequences of a block, and what is remembered. -/
def readSequenceSection (memory : Memory) (bytes : ByteArray) :
    Option (List Sequence × Memory) := do
  let (count, start) ← readCount bytes
  if count = 0 then if start = bytes.size then some ([], memory) else none
  else
    let modes := (← bytes.data[start]?).toNat
    if modes % 4 != 0 then none
    else
      let place := start + 1
      let (lengths, used) ← readTable (modes / 64) standardLengths memory.lengths 35 9
        (bytes.extract place bytes.size)
      let place := place + used
      let (offsets, used) ← readTable (modes / 16 % 4) standardOffsets memory.offsets 31 8
        (bytes.extract place bytes.size)
      let place := place + used
      let (copies, used) ← readTable (modes / 4 % 4) standardCopies memory.copies 52 9
        (bytes.extract place bytes.size)
      let place := place + used
      let stream ← Backward.ofBytes? (bytes.extract place bytes.size)
      let (l, stream) ← stream.take lengths.accuracy
      let (o, stream) ← stream.take offsets.accuracy
      let (m, stream) ← stream.take copies.accuracy
      let states : States := ⟨lengths.state l, offsets.state o, copies.state m⟩
      let sequences ← readSequences lengths offsets copies count states stream
      some (sequences,
        { memory with
          lengths := some lengths, offsets := some offsets, copies := some copies })

/-! ## Output -/

/-- Appends `count` bytes that the output has at a distance; they may be among those appended. -/
def copyBack (distance : Nat) : (count : Nat) → ByteArray → ByteArray
  | 0, out => out
  | count + 1, out =>
    copyBack distance count (out.push (out.data[out.size - distance]?.getD 0))

/-- The distance that a sequence means, and the last three distances after it. -/
def resolveOffset (recent : Nat × Nat × Nat) (literals offset : Nat) : Nat × Nat × Nat × Nat :=
  let (a, b, c) := recent
  if offset > 3 then (offset - 3, offset - 3, a, b)
  else
    match offset - (if literals = 0 then 0 else 1) with
    | 0 => (a, a, b, c)
    | 1 => (b, b, a, c)
    | 2 => (c, c, a, b)
    | _ => (a - 1, a - 1, a, b)

/-- Carries out sequences, of whose literals `used` have gone. -/
def execute (literals : ByteArray) :
    List Sequence → (used : Nat) → Nat × Nat × Nat → ByteArray →
      Option (ByteArray × Nat × Nat × Nat)
  | [], used, recent, out => some (out ++ literals.extract used literals.size, recent)
  | s :: rest, used, recent, out =>
    if used + s.literals > literals.size then none
    else
      let out := out ++ literals.extract used (used + s.literals)
      let (distance, recent) := resolveOffset recent s.literals s.offset
      if distance = 0 || distance > out.size then none
      else
        execute literals rest (used + s.literals) recent (copyBack distance s.length out)

/-- Appends what a compressed block stands for to the output. -/
def readBlock (memory : Memory) (bytes out : ByteArray) :
    Option (ByteArray × Memory) := do
  let (literals, length, memory) ← readLiterals memory bytes
  let (sequences, memory) ← readSequenceSection memory (bytes.extract length bytes.size)
  let (out, recent) ← execute literals sequences 0 memory.recent out
  some (out, { memory with recent })

end TextVec.Compression
