import TextVec.Binary.Words
import TextVec.Number.Double

/-!
# The binary format

How values are written as bytes and taken off the front of bytes. A number up to 250 is one byte; a
larger one has a mark for its width, and then two, four or eight bytes. Texts and lists are preceded
by their length. Every reader takes exactly what its writer wrote, whatever follows.
-/

namespace TextVec.Binary

/-- What takes a value off the front of bytes. -/
abbrev Reader (α : Type) := Bytes → Option (α × Bytes)

/-- Writes a number below `2 ^ 64`. -/
def putNat (n : Nat) : Bytes :=
  if n ≤ 250 then [UInt8.ofNat n]
  else if n < Nat.pow 2 16 then 251 :: littleEndian 2 n
  else if n < Nat.pow 2 32 then 252 :: littleEndian 4 n
  else 253 :: littleEndian 8 n

/-- Takes a number of at most `width` bytes. -/
def takeNat (width : Nat) : Reader Nat
  | [] => none
  | mark :: rest =>
    if mark ≤ 250 then some (mark.toNat, rest)
    else if mark = 251 then takeWord 2 rest
    else if mark = 252 && 4 ≤ width then takeWord 4 rest
    else if mark = 253 && 8 ≤ width then takeWord 8 rest
    else none

def putUInt16 (n : UInt16) : Bytes := putNat n.toNat

def takeUInt16 : Reader UInt16 := fun bytes =>
  (takeNat 2 bytes).map fun (n, rest) => (UInt16.ofNat n, rest)

def putUInt64 (n : UInt64) : Bytes := putNat n.toNat

def takeUInt64 : Reader UInt64 := fun bytes =>
  (takeNat 8 bytes).map fun (n, rest) => (UInt64.ofNat n, rest)

def putBool (b : Bool) : Bytes := [if b then 1 else 0]

def takeBool : Reader Bool
  | 0 :: rest => some (false, rest)
  | 1 :: rest => some (true, rest)
  | _ => none

/-- Writes what may be missing after a mark that says whether it is. -/
def putOption (put : α → Bytes) : Option α → Bytes
  | none => [0]
  | some x => 1 :: put x

def takeOption (take : Reader α) : Reader (Option α) := fun bytes => do
  let (present, rest) ← takeBool bytes
  if present then
    let (x, rest) ← take rest
    some (some x, rest)
  else some (none, rest)

/-- Writes bytes after their count. -/
def putBytes (bytes : Bytes) : Bytes := putNat bytes.length ++ bytes

def takeCounted : Reader Bytes := fun bytes => do
  let (count, rest) ← takeNat 8 bytes
  takeBytes count rest

def putText (text : String) : Bytes := putBytes (Text.toUtf8 text)

def takeText : Reader String := fun bytes => do
  let (content, rest) ← takeCounted bytes
  let text ← Text.ofUtf8? content
  some (text, rest)

def putDouble (x : Double) : Bytes := littleEndian 8 x.bits.toNat

def takeDouble : Reader Double := fun bytes =>
  (takeWord 8 bytes).map fun (n, rest) => (⟨UInt64.ofNat n⟩, rest)

/-- Takes as many values as are asked for. -/
def takeMany (take : Reader α) : Nat → Reader (List α)
  | 0, bytes => some ([], bytes)
  | count + 1, bytes => do
    let (x, rest) ← take bytes
    let (xs, rest) ← takeMany take count rest
    some (x :: xs, rest)

/-- Writes a list after its length. -/
def putList (put : α → Bytes) (xs : List α) : Bytes := putNat xs.length ++ xs.flatMap put

def takeList (take : Reader α) : Reader (List α) := fun bytes => do
  let (count, rest) ← takeNat 8 bytes
  takeMany take count rest

end TextVec.Binary
