import TextVec.Binary.Codec
import TextVec.Component.Scope
import TextVec.Yaml.Decode

/-!
# Centroids

A component that learns the mean of its training rows, times a scale. It counts how often it was
closed, and closing can be made to fail.
-/

namespace TextVec

open Binary Yaml

/-- The configuration of a centroid. -/
structure CentroidConfig where
  /-- The length of a row. That so long a row can be held in memory is taken for granted. -/
  dims : UInt64
  /-- What the centroid is called, if anything. -/
  label : Option String := none
  /-- What the mean is multiplied by. -/
  scale : Double := .one
  deriving DecidableEq, Repr

namespace CentroidConfig

/-- The fields read so far. -/
structure Draft where
  dims : Option UInt64 := none
  label : Option (Option String) := none
  scale : Option Double := none

/-- Reads a field; fields of other names are ignored. -/
def Draft.read (draft : Draft) (field : String) (value : Value) : Decoded Draft :=
  if field == "dims" then do
    return { draft with dims := ← once field draft.dims value.decodeSize }
  else if field == "label" then do
    let label ← once field draft.label (value.decodeOption (Value.decodeText "a string"))
    return { draft with label }
  else if field == "scale" then do
    return { draft with scale := ← once field draft.scale value.decodeDouble }
  else return draft

def ofYaml (value : Value) : Decoded CentroidConfig := do
  let draft ← value.decodeFields "CentroidConfig" Draft.read {}
  let dims ← required "dims" draft.dims
  return ⟨dims, draft.label.getD none, draft.scale.getD .one⟩

def toYaml (config : CentroidConfig) : Value :=
  .mapping [
    (.string "dims", .nat config.dims.toNat),
    (.string "label", config.label.elim .null .string),
    (.string "scale", .number (.ofDouble config.scale))]

def put (config : CentroidConfig) : Bytes :=
  putUInt64 config.dims ++ putOption putText config.label ++ putDouble config.scale

def take : Reader CentroidConfig := fun bytes => do
  let (dims, bytes) ← takeUInt64 bytes
  let (label, bytes) ← takeOption takeText bytes
  let (scale, bytes) ← takeDouble bytes
  some (⟨dims, label, scale⟩, bytes)

end CentroidConfig

/-- What a binary file keeps of a centroid. -/
structure CentroidState where
  /-- Its configuration comes first. -/
  config : CentroidConfig
  /-- Where it is, one number for each dimension. -/
  centroid : List Double
  deriving DecidableEq, Repr

namespace CentroidState

def put (state : CentroidState) : Bytes := state.config.put ++ putList putDouble state.centroid

def take : Reader CentroidState := fun bytes => do
  let (config, bytes) ← CentroidConfig.take bytes
  let (centroid, bytes) ← takeList takeDouble bytes
  some (⟨config, centroid⟩, bytes)

end CentroidState

/-- A centroid. -/
structure Centroid where
  base : Base
  config : CentroidConfig
  /-- Where it is, one number for each dimension. -/
  centroid : List Double
  /-- How often it was closed. -/
  closes : Nat := 0
  /-- Whether closing it fails. -/
  failsToClose : Bool := false
  deriving Repr

namespace Centroid

/-- Makes a centroid at the origin. -/
def make (config : CentroidConfig) (base : Base) : Result Centroid :=
  if config.dims = 0 then .error (.misconfigured .zeroDims)
  else .ok { base, config, centroid := List.replicate config.dims.toNat .zero }

/-- Closes a centroid, which only counts. -/
def close (c : Centroid) : Step Centroid Unit :=
  ⟨if c.failsToClose then .error (.disk .closeFailed) else .ok (),
    { c with closes := c.closes + 1 }, []⟩

instance : Component Centroid CentroidConfig CentroidState where
  kind := "Centroid"
  toYaml config := .ok config.toYaml
  ofYaml := CentroidConfig.ofYaml
  make config _ base := make config base
  base := Centroid.base
  withBase c base := { c with base }
  snapshot c := ⟨c.config, c.centroid⟩
  putState := CentroidState.put
  takeState := CentroidState.take
  restore base state := .ok { base, config := state.config, centroid := state.centroid }
  close := close

/-- The sum of rows, which must all have the length of `sum`. -/
def sumRows (sum : List Double) : List (List Double) → Result (List Double)
  | [] => .ok sum
  | row :: rest =>
    if row.length = sum.length then sumRows (List.zipWith Double.add sum row) rest
    else .error (.misconfigured (.rowLength row.length sum.length))

/-- The scaled mean of rows. -/
def meanOf (config : CentroidConfig) (rows : List (List Double)) : Result (List Double) :=
  if rows.isEmpty then .error (.misconfigured .noRows)
  else do
    let sum ← sumRows (List.replicate config.dims.toNat .zero) rows
    let count := Double.ofFloat (Float.ofNat rows.length)
    return sum.map fun x => (x.div count).mul config.scale

/-- Moves a centroid to the mean of rows. -/
def fit (rows : List (List Double)) (c : Centroid) : Step Centroid Unit :=
  match meanOf c.config rows with
  | .ok centroid => ⟨.ok (), { c with centroid }, []⟩
  | .error failure => ⟨.error failure, c, []⟩

/-- Trains a centroid on rows. -/
def train (c : Centroid) (rows : List (List Double)) : Step Centroid Unit :=
  Component.train c (fit rows)

/-- The square of the distance along one axis. -/
def squaredGap (x y : Double) : Double := (x.sub y).mul (x.sub y)

/-- The distance of a point from a trained centroid, over the axes that both have. -/
def distance (c : Centroid) (point : List Double) : Result Double := do
  Component.requireTrained c "distance"
  return ((List.zipWith squaredGap c.centroid point).foldl Double.add .negZero).sqrt

end Centroid

end TextVec
