import TextVec.Compression.Bits

/-!
# Entropy tables

Tables of states that decode symbols of fractional bit lengths. A table has `2 ^ accuracy` states; a
state stands for a symbol and says how the next state comes from the bits that follow.
-/

namespace TextVec.Compression

/-- A state: its symbol, how many bits lead to the next state, and the least of those it can be. -/
structure EntropyState where
  symbol : Nat
  bits : Nat
  base : Nat
  deriving Inhabited

/-- A table of states. -/
structure EntropyTable where
  /-- There are two to the power of this many states. -/
  accuracy : Nat
  states : Array EntropyState

namespace EntropyTable

/-- The table of one state, which stands for `symbol`. -/
def constant (symbol : Nat) : EntropyTable := ⟨0, #[⟨symbol, 0, 0⟩]⟩

/-- Places symbols of probability less than one at the end of the table. -/
def placeRare (counts : List Int) (cells : Array Nat) (top : Nat) : Array Nat × Nat :=
  counts.zipIdx.foldl (fun (cells, top) (count, symbol) =>
    if count = -1 then (cells.setIfInBounds (top - 1) symbol, top - 1)
    else (cells, top)) (cells, top)

/-- The next free cell of those below `top`. -/
def nextCell (size top : Nat) (cell : Nat) : (tries : Nat) → Nat
  | 0 => cell
  | tries + 1 =>
    let cell := (cell + (size >>> 1) + (size >>> 3) + 3) % size
    if cell < top then cell else nextCell size top cell tries

/-- Places `count` cells of a symbol. -/
def placeSymbol (size top symbol : Nat) (cells : Array Nat) (cell : Nat) :
    (count : Nat) → Array Nat × Nat
  | 0 => (cells, cell)
  | count + 1 =>
    let cells := cells.setIfInBounds cell symbol
    placeSymbol size top symbol cells (nextCell size top cell size) count

/-- The symbol of every cell. -/
def spread (accuracy : Nat) (counts : List Int) : Array Nat :=
  let size := Nat.pow 2 accuracy
  let (cells, top) := placeRare counts (Array.replicate size 0) size
  (counts.zipIdx.foldl (fun (cells, cell) (count, symbol) =>
    placeSymbol size top symbol cells cell count.toNat) (cells, 0)).1

/-- The table of the given probabilities, in units of one state; -1 stands for less than one. -/
def ofCounts (accuracy : Nat) (counts : List Int) : EntropyTable :=
  let next := counts.map (fun count => if count = -1 then 1 else count.toNat)
  let step := fun (states, next) symbol =>
    let number : Nat := (next : Array Nat)[symbol]?.getD 1
    let bits := accuracy - (bitLength number - 1)
    let state : EntropyState := ⟨symbol, bits, number * Nat.pow 2 bits - Nat.pow 2 accuracy⟩
    ((states : Array EntropyState).push state, next.setIfInBounds symbol (number + 1))
  ⟨accuracy, ((spread accuracy counts).foldl step (#[], next.toArray)).1⟩

/-- The state of a number. -/
def state (table : EntropyTable) (number : Nat) : EntropyState := table.states[number]?.getD default

/-! ## Described tables -/

/-- Repetitions of probability zero: two bits each, of which three ones announce more. -/
def zeroRuns (bytes : ByteArray) : (fuel place count : Nat) → Nat × Nat
  | 0, place, count => (count, place)
  | fuel + 1, place, count =>
    let run := bitsAt bytes place 2
    if run = 3 then zeroRuns bytes fuel (place + 2) (count + 3) else (count + run, place + 2)

/-- Reads probabilities until they add up; the list is last first. `left` is what is missing, and
one more. -/
def readCounts (bytes : ByteArray) (limit : Nat) :
    (fuel : Nat) → List Int → (left : Nat) → (place : Nat) → Option (List Int × Nat)
  | 0, _, _, _ => none
  | fuel + 1, counts, left, place =>
    if left = 1 then some (counts, place)
    else if counts.length > limit then none
    else
      let width := bitLength left
      let spare := Nat.pow 2 width - 1 - left
      let short := bitsAt bytes place (width - 1)
      let (code, used) :=
        if short < spare then (short, width - 1)
        else
          let long := bitsAt bytes place width
          (if long < Nat.pow 2 (width - 1) then long else long - spare, width)
      let count : Int := (code : Int) - 1
      let left := left - count.natAbs
      let place := place + used
      if count = 0 then
        let (zeros, place) := zeroRuns bytes (8 * bytes.size + 1) place 0
        readCounts bytes limit fuel (List.replicate zeros 0 ++ 0 :: counts) left place
      else readCounts bytes limit fuel (count :: counts) left place

/-- Reads the description of a table at the start of bytes, for symbols up to `limit`; also its
length in bytes. -/
def read? (bytes : ByteArray) (limit maxAccuracy : Nat) : Option (EntropyTable × Nat) := do
  if bytes.size = 0 then none
  else
    let accuracy := bitsAt bytes 0 4 + 5
    if accuracy > maxAccuracy then none
    else
      let (counts, place) ← readCounts bytes limit (limit + 2) [] (Nat.pow 2 accuracy + 1) 4
      let length := (place + 7) / 8
      if counts.length > limit + 1 || length > bytes.size then none
      else some (ofCounts accuracy counts.reverse, length)

end EntropyTable

end TextVec.Compression
