import TextVec.Binary.Codec
import TextVec.Component.Basic
import TextVec.Yaml.Decode

/-!
# Splats

A component that keeps its raw arguments. A binary file keeps them among the captured arguments
only.
-/

namespace TextVec

open Binary Yaml

/-- The configuration of a splat. -/
structure SplatConfig where
  name : String
  deriving DecidableEq, Repr

namespace SplatConfig

/-- Reads the name; fields of other names are ignored. -/
def readField (name : Option String) (field : String) (value : Value) : Decoded (Option String) :=
  if field == "name" then once field name (value.decodeText "a string") else .ok name

def ofYaml (value : Value) : Decoded SplatConfig := do
  let name ← value.decodeFields "SplatConfig" readField none
  return ⟨← required "name" name⟩

def toYaml (config : SplatConfig) : Value := .mapping [(.string "name", .string config.name)]

def put (config : SplatConfig) : Bytes := putText config.name

def take : Reader SplatConfig := fun bytes =>
  (takeText bytes).map fun (name, rest) => (⟨name⟩, rest)

end SplatConfig

/-- A splat. -/
structure Splat where
  base : Base
  config : SplatConfig
  raw : RawArguments
  deriving Repr

instance : Component Splat SplatConfig SplatConfig where
  kind := "Splat"
  storesRaw := true
  toYaml config := .ok config.toYaml
  ofYaml := SplatConfig.ofYaml
  make config raw base := .ok ⟨base, config, raw⟩
  base := Splat.base
  withBase s base := { s with base }
  snapshot := Splat.config
  putState := SplatConfig.put
  takeState := SplatConfig.take
  restore base config := do
    let (_, raw) ← RawArguments.split base.arguments
    return ⟨base, config, raw⟩
  close s := ⟨.ok (), s, []⟩

end TextVec
