import TextVec.Binary.Codec
import TextVec.Component.Failure
import TextVec.Tokenizer

/-!
# Configurations of encoders

Where an encoder finds its table and how it turns texts into vectors. Only the path of the table
must be given. Numbers are checked when an encoder is made, the name of the pooling when it is used.

A path may be any bytes, but only one that is a text can be written down, so an encoder refuses a
configuration with another one. Two types keep the two apart: what is given, and what an encoder
has.
-/

namespace TextVec

open Binary Yaml

/-- What a configuration says but for the path of the table. -/
structure EncoderOptions where
  /-- The number of lines at the beginning of the table that are no rows. -/
  skipRows : UInt64 := 1
  /-- The number of texts that are taken at a time. -/
  batchSize : UInt64 := 64
  /-- The length of a vector. That so long a vector can be held in memory is taken for granted. -/
  dimension : UInt64 := 300
  /-- The name of the pooling. -/
  pooling : String := "REDUCE_MEAN"
  /-- How texts are cut, unless the encoder is given another tokenizer. -/
  tokenizer : Tokenizer := {}
  deriving DecidableEq, Repr

/-- Refuses a dimension or a batch size of zero. -/
def EncoderOptions.validate (options : EncoderOptions) : Result Unit :=
  if options.dimension = 0 then .error (.misconfigured .zeroDimension)
  else if options.batchSize = 0 then .error (.misconfigured .zeroBatchSize)
  else .ok ()

/-- The configuration of an encoder. -/
structure EncoderConfig extends EncoderOptions where
  /-- The path of the table, which is a text. -/
  modelPath : String
  deriving DecidableEq, Repr

/-- A configuration that is given to an encoder. -/
structure GivenConfig extends EncoderOptions where
  /-- The path of the table, which may be no text. -/
  modelPath : Bytes
  deriving DecidableEq, Repr

/-- The configuration with its path written as a text. -/
def GivenConfig.textual (given : GivenConfig) : Result EncoderConfig :=
  match Text.ofUtf8? given.modelPath with
  | some modelPath => .ok { given with modelPath }
  | none => .error (.misconfigured .pathNotText)

namespace EncoderConfig

/-- The configuration of an encoder, as it is given to another one. -/
def given (config : EncoderConfig) : GivenConfig :=
  { config with modelPath := Text.toUtf8 config.modelPath }

/-- The fields read so far. -/
structure Draft where
  modelPath : Option String := none
  skipRows : Option UInt64 := none
  batchSize : Option UInt64 := none
  dimension : Option UInt64 := none
  pooling : Option String := none
  tokenizer : Option Tokenizer := none

/-- Reads a field; fields of other names are ignored. -/
def Draft.read (draft : Draft) (field : String) (value : Value) : Decoded Draft :=
  if field == "model_path" then do
    let modelPath ← once field draft.modelPath (value.decodeText "path string")
    return { draft with modelPath }
  else if field == "skip_rows" then do
    return { draft with skipRows := ← once field draft.skipRows value.decodeSize }
  else if field == "batch_size" then do
    return { draft with batchSize := ← once field draft.batchSize value.decodeSize }
  else if field == "dimension" then do
    return { draft with dimension := ← once field draft.dimension value.decodeSize }
  else if field == "pooling_strategy" then do
    return { draft with pooling := ← once field draft.pooling (value.decodeText "a string") }
  else if field == "tokenizer" then do
    return { draft with tokenizer := ← once field draft.tokenizer (Tokenizer.ofYaml value) }
  else return draft

/-- The configuration of the fields read. -/
def Draft.finish (draft : Draft) : Decoded EncoderConfig := do
  let modelPath ← required "model_path" draft.modelPath
  let standard : EncoderOptions := {}
  return {
    modelPath
    skipRows := draft.skipRows.getD standard.skipRows
    batchSize := draft.batchSize.getD standard.batchSize
    dimension := draft.dimension.getD standard.dimension
    pooling := draft.pooling.getD standard.pooling
    tokenizer := draft.tokenizer.getD standard.tokenizer }

/-- The configuration that a value is read as. -/
def ofYaml (value : Value) : Decoded EncoderConfig := do
  (← value.decodeFields "Word2VecConfig" Draft.read {}).finish

/-- The value that a configuration is captured as. -/
def toYaml (config : EncoderConfig) : Value :=
  .mapping [
    (.string "model_path", .string config.modelPath),
    (.string "skip_rows", .nat config.skipRows.toNat),
    (.string "batch_size", .nat config.batchSize.toNat),
    (.string "dimension", .nat config.dimension.toNat),
    (.string "pooling_strategy", .string config.pooling),
    (.string "tokenizer", config.tokenizer.toYaml)]

/-! ## The binary form -/

def putKind : TokenizerKind → Bytes
  | .whitespace => putNat 0
  | .unicodeWords => putNat 1

def takeKind : Reader TokenizerKind := fun bytes => do
  match ← takeNat 4 bytes with
  | (0, rest) => some (.whitespace, rest)
  | (1, rest) => some (.unicodeWords, rest)
  | _ => none

def putTokenizer (tokenizer : Tokenizer) : Bytes :=
  putKind tokenizer.kind ++ putBool tokenizer.normalizeUnicode ++ putBool tokenizer.lowercase

def takeTokenizer : Reader Tokenizer := fun bytes => do
  let (kind, bytes) ← takeKind bytes
  let (normalizeUnicode, bytes) ← takeBool bytes
  let (lowercase, bytes) ← takeBool bytes
  some (⟨kind, normalizeUnicode, lowercase⟩, bytes)

def put (config : EncoderConfig) : Bytes :=
  putText config.modelPath ++ putUInt64 config.skipRows ++ putUInt64 config.batchSize ++
    putUInt64 config.dimension ++ putText config.pooling ++ putTokenizer config.tokenizer

def take : Reader EncoderConfig := fun bytes => do
  let (modelPath, bytes) ← takeText bytes
  let (skipRows, bytes) ← takeUInt64 bytes
  let (batchSize, bytes) ← takeUInt64 bytes
  let (dimension, bytes) ← takeUInt64 bytes
  let (pooling, bytes) ← takeText bytes
  let (tokenizer, bytes) ← takeTokenizer bytes
  some ({ modelPath, skipRows, batchSize, dimension, pooling, tokenizer }, bytes)

end EncoderConfig

end TextVec
