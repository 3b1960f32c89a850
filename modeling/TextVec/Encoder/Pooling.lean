import TextVec.Text.Whitespace

/-!
# Pooling

How the vectors of the tokens of a text become one vector: by their mean, which of no vectors is
zero.
-/

namespace TextVec

/-- A vector of single-precision numbers. -/
abbrev Vector32 := List Float32

/-- A way of pooling. -/
inductive Pooling where
  | mean
  deriving DecidableEq, Repr

namespace Pooling

/-- The pooling of a name, in capitals or not and with white space around it or not. -/
def ofName? (name : String) : Option Pooling :=
  let word := String.ofList (Text.asciiLower (Text.trim name.toList))
  if word == "reduce_mean" || word == "mean" then some .mean else none

/-- The name of a pooling. -/
def name : Pooling → String
  | .mean => "REDUCE_MEAN"

/-- The zero vector. -/
def zeros (dimension : Nat) : Vector32 := List.replicate dimension 0

/-- Adds a vector to another, as far as both reach. -/
def addTo : Vector32 → Vector32 → Vector32
  | x :: xs, y :: ys => (x + y) :: addTo xs ys
  | xs, _ => xs

/-- One vector of the given dimension for all vectors. -/
def pool (_ : Pooling) (vectors : List Vector32) (dimension : Nat) : Vector32 :=
  let sum := vectors.foldl addTo (zeros dimension)
  if vectors.isEmpty then sum else sum.map (· / Float32.ofNat vectors.length)

end Pooling

end TextVec
