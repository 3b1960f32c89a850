import TextVec.Binary.Words

/-!
# Checksums

The 64-bit hash that a compressed frame may carry of its content. Stripes of thirty-two bytes go
through four lanes, and what is left over is mixed in afterwards.
-/

namespace TextVec.Checksum

def prime1 : UInt64 := 0x9E3779B185EBCA87
def prime2 : UInt64 := 0xC2B2AE3D27D4EB4F
def prime3 : UInt64 := 0x165667B19E3779F9
def prime4 : UInt64 := 0x85EBCA77C2B2AE63
def prime5 : UInt64 := 0x27D4EB2F165667C5

def rotate (x n : UInt64) : UInt64 := (x <<< n) ||| (x >>> (64 - n))

/-- Mixes a word into a lane. -/
def round (lane word : UInt64) : UInt64 := rotate (lane + word * prime2) 31 * prime1

/-- Mixes a lane into the hash. -/
def merge (hash lane : UInt64) : UInt64 := (hash ^^^ round 0 lane) * prime1 + prime4

/-- The four lanes. -/
structure Lanes where
  a : UInt64
  b : UInt64
  c : UInt64
  d : UInt64

def Lanes.initial : Lanes := ⟨prime1 + prime2, prime2, 0, 0 - prime1⟩

def word (width : Nat) (bytes : Bytes) : UInt64 := UInt64.ofNat (ofLittleEndian (bytes.take width))

/-- The lanes after all whole stripes, and the bytes after those. -/
def stripes (lanes : Lanes) (bytes : Bytes) : (count : Nat) → Lanes × Bytes
  | 0 => (lanes, bytes)
  | count + 1 =>
    let lanes : Lanes :=
      ⟨round lanes.a (word 8 bytes), round lanes.b (word 8 (bytes.drop 8)),
        round lanes.c (word 8 (bytes.drop 16)), round lanes.d (word 8 (bytes.drop 24))⟩
    stripes lanes (bytes.drop 32) count

/-- Mixes in words of eight bytes. -/
def longWords (hash : UInt64) (bytes : Bytes) : (count : Nat) → UInt64 × Bytes
  | 0 => (hash, bytes)
  | count + 1 =>
    longWords (rotate (hash ^^^ round 0 (word 8 bytes)) 27 * prime1 + prime4) (bytes.drop 8) count

/-- Mixes in a word of four bytes, if there is one. -/
def shortWord (hash : UInt64) (bytes : Bytes) : UInt64 × Bytes :=
  if bytes.length < 4 then (hash, bytes)
  else (rotate (hash ^^^ word 4 bytes * prime1) 23 * prime2 + prime3, bytes.drop 4)

/-- Mixes in single bytes. -/
def singleBytes (hash : UInt64) (bytes : Bytes) : UInt64 :=
  bytes.foldl (fun hash b => rotate (hash ^^^ b.toUInt64 * prime5) 11 * prime1) hash

/-- Spreads every bit over the whole hash. -/
def finish (hash : UInt64) : UInt64 :=
  let hash := (hash ^^^ (hash >>> 33)) * prime2
  let hash := (hash ^^^ (hash >>> 29)) * prime3
  hash ^^^ (hash >>> 32)

/-- The hash of bytes. -/
def hash (bytes : Bytes) : UInt64 :=
  let (lanes, rest) := stripes .initial bytes (bytes.length / 32)
  let start :=
    if bytes.length < 32 then prime5
    else
      let mixed := rotate lanes.a 1 + rotate lanes.b 7 + rotate lanes.c 12 + rotate lanes.d 18
      [lanes.a, lanes.b, lanes.c, lanes.d].foldl merge mixed
  let (hash, rest) := longWords (start + UInt64.ofNat bytes.length) rest (rest.length / 8)
  let (hash, rest) := shortWord hash rest
  finish (singleBytes hash rest)

end TextVec.Checksum
