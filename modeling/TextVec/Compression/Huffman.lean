import TextVec.Compression.Entropy

/-!
# Prefix codes for literals

A prefix code is given by the weights of its symbols: a symbol of weight `w` has a code of
`maxBits + 1 - w` bits, and one of weight zero has none. The weight of the last symbol follows from
the others.
-/

namespace TextVec.Compression

/-- A decoding table: for every `maxBits` bits, a symbol and the length of its code. -/
structure PrefixCode where
  /-- The length of its longest code. -/
  maxBits : Nat
  /-- The symbol and the length of the code that each such sequence of bits begins with. -/
  cells : Array (Nat × Nat)

namespace PrefixCode

/-- The longest code that a frame may use. -/
def longest : Nat := 12

/-- The cells of the symbols of one weight. -/
def cellsOf (maxBits weight : Nat) (weights : List Nat) : List (Nat × Nat) :=
  weights.zipIdx.flatMap fun (w, symbol) =>
    if w = weight then List.replicate (Nat.pow 2 (weight - 1)) (symbol, maxBits + 1 - weight) else []

/-- The code of the given weights, which lack that of the last symbol. -/
def ofWeights? (weights : List Nat) : Option PrefixCode :=
  let total := (weights.map fun w => if w = 0 then 0 else Nat.pow 2 (w - 1)).foldr (· + ·) 0
  let maxBits := bitLength total
  let missing := Nat.pow 2 maxBits - total
  if total = 0 || maxBits > longest || missing != Nat.pow 2 (bitLength missing - 1) then none
  else
    let weights := weights ++ [bitLength missing]
    let cells := (List.range maxBits).flatMap fun i => cellsOf maxBits (i + 1) weights
    if cells.length = Nat.pow 2 maxBits then some ⟨maxBits, cells.toArray⟩ else none

/-- Weights of four bits each. -/
def directWeights (bytes : ByteArray) (count : Nat) : List Nat :=
  (List.range count).map fun i =>
    let pair := (bytes.data[i / 2]?.getD 0).toNat
    if i % 2 = 0 then pair / 16 else pair % 16

/-- Decodes weights by two states in turn, until the stream cannot lead to a next state. -/
def codedWeights (table : EntropyTable) :
    (fuel : Nat) → (current other : Nat) → Backward → List Nat → Option (List Nat)
  | 0, _, _, _, _ => none
  | fuel + 1, current, other, stream, weights =>
    let state := table.state current
    let weights := state.symbol :: weights
    match stream.take state.bits with
    | none => some ((table.state other).symbol :: weights).reverse
    | some (value, stream) =>
      codedWeights table fuel other (state.base + value) stream weights

/-- Reads the description of a code at the start of bytes; also its length in bytes. -/
def read? (bytes : ByteArray) : Option (PrefixCode × Nat) := do
  let head := (← bytes.data[0]?).toNat
  if head ≥ 128 then
    let count := head - 127
    let length := (count + 1) / 2
    if bytes.size < 1 + length then none
    else
      let code ← ofWeights? (directWeights (bytes.extract 1 (1 + length)) count)
      some (code, 1 + length)
  else
    if bytes.size < 1 + head then none
    else
      let described := bytes.extract 1 (1 + head)
      let (table, used) ← EntropyTable.read? described 255 6
      let stream ← Backward.ofBytes? (described.extract used head)
      let (first, stream) ← stream.take table.accuracy
      let (second, stream) ← stream.take table.accuracy
      let weights ← codedWeights table 255 first second stream []
      if weights.length > 255 || weights.any (· > longest) then none
      else
        let code ← ofWeights? weights
        some (code, 1 + head)

/-- Decodes `count` symbols of a stream, which must then be used up. -/
def decode (code : PrefixCode) : (count : Nat) → Backward → ByteArray → Option ByteArray
  | 0, stream, out => if stream.left = 0 then some out else none
  | count + 1, stream, out =>
    let (symbol, bits) := code.cells[stream.peek code.maxBits]?.getD (0, 0)
    match stream.take bits with
    | none => none
    | some (_, stream) => decode code count stream (out.push (UInt8.ofNat symbol))

/-- Decodes one stream. -/
def decodeOne (code : PrefixCode) (bytes : ByteArray) (count : Nat) (out : ByteArray) :
    Option ByteArray := do
  code.decode count (← Backward.ofBytes? bytes) out

/-- Decodes four streams, after a table of the lengths of the first three. -/
def decodeFour (code : PrefixCode) (bytes : ByteArray) (count : Nat) : Option ByteArray := do
  if bytes.size < 10 then none
  else
    let length := fun i => bitsAt bytes (16 * i) 16
    let start := fun i => 6 + ((List.range i).map length).foldr (· + ·) 0
    let part := (count + 3) / 4
    if start 3 > bytes.size || 3 * part > count then none
    else
      let out ← code.decodeOne (bytes.extract (start 0) (start 1)) part ByteArray.empty
      let out ← code.decodeOne (bytes.extract (start 1) (start 2)) part out
      let out ← code.decodeOne (bytes.extract (start 2) (start 3)) part out
      code.decodeOne (bytes.extract (start 3) bytes.size) (count - 3 * part) out

end PrefixCode

end TextVec.Compression
