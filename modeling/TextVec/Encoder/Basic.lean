import TextVec.Component.Scope
import TextVec.Encoder.Config
import TextVec.Encoder.Table

/-!
# Encoders

An encoder turns texts into vectors: it cuts a text into tokens, looks each of them up in its table,
and pools what it finds. The table is read when it is first needed and released when the encoder is
closed. An encoder counts as trained from the beginning; training it reads the table again.
-/

namespace TextVec

/-- An encoder. -/
structure Encoder where
  base : Base
  /-- How it was configured last. -/
  config : EncoderConfig
  /-- The tokens of a text. This may be any function, since a tokenizer can be replaced. -/
  tokenizer : String → List String
  /-- The table, once it has been read. -/
  table : Option VectorTable := none

namespace Encoder

/-- An encoder of a valid configuration. -/
def ofConfig (config : EncoderConfig) (base : Base) : Result Encoder := do
  config.validate
  return { base, config, tokenizer := config.tokenizer.tokenize }

/-- Makes a new encoder, which is trained and takes the inputs of a batch at a time. -/
def make (given : GivenConfig) (base : Base) : Result Encoder := do
  let config ← given.textual
  ofConfig config { base with properties := ⟨true, some config.batchSize⟩ }

/-- Releases the table. -/
def close (e : Encoder) : Step Encoder Unit :=
  match e.table with
  | some table => ⟨.ok (), { e with table := none }, [.tableReleased table.size]⟩
  | none => ⟨.ok (), e, []⟩

instance : Component Encoder GivenConfig EncoderConfig where
  kind := "Word2VecEncoder"
  toYaml given := given.textual.map EncoderConfig.toYaml
  ofYaml value := (EncoderConfig.ofYaml value).map EncoderConfig.given
  make config _ base := make config base
  base := Encoder.base
  withBase e base := { e with base }
  snapshot := Encoder.config
  putState := EncoderConfig.put
  takeState := EncoderConfig.take
  restore base config := ofConfig config base
  close := close

/-- Replaces the tokenizer of this encoder by any other, though not that of its configuration. -/
def withTokenizer (e : Encoder) (tokenizer : String → List String) : Encoder :=
  { e with tokenizer }

def isLoaded (e : Encoder) : Bool := e.table.isSome

/-- Configures an encoder again. Its table will be read again when it is needed. -/
def reconfigure (e : Encoder) (given : GivenConfig) : Step Encoder Unit :=
  match given.validate with
  | .error failure => ⟨.error failure, e, []⟩
  | .ok () =>
    let recaptured := Component.recapture e given {}
    -- A path that is no text stops it only here, when everything else has been checked.
    match (do recaptured.result; given.textual) with
    | .error failure => ⟨.error failure, recaptured.state, []⟩
    | .ok config =>
      let base := recaptured.state.base
      let properties := { base.properties with batchSize := some config.batchSize }
      ⟨.ok (), ⟨{ base with properties }, config, config.tokenizer.tokenize, none⟩, []⟩

/-- Reads the table that the configuration names. -/
def readTable (e : Encoder) (files : FileSystem) : Result (VectorTable × Event) :=
  ofDisk (VectorTable.load files e.config.modelPath e.config.skipRows e.config.dimension)

/-- The table, which is read if it has not been. -/
def needTable (e : Encoder) (files : FileSystem) : Step Encoder VectorTable :=
  match e.table with
  | some table => ⟨.ok table, e, []⟩
  | none =>
    match e.readTable files with
    | .error failure => ⟨.error failure, e, []⟩
    | .ok (table, parsed) =>
      ⟨.ok table, { e with table := some table },
        [parsed, .tableLoaded e.config.modelPath table.size table.dimension.toNat]⟩

/-- Reads the table again. -/
def fit (files : FileSystem) (e : Encoder) : Step Encoder Unit :=
  match e.readTable files with
  | .error failure => ⟨.error failure, e, []⟩
  | .ok (table, parsed) => ⟨.ok (), { e with table := some table }, [parsed]⟩

/-- Trains an encoder, which reads its table again. -/
def train (e : Encoder) (files : FileSystem) : Step Encoder Unit := Component.train e (fit files)

/-! ## Encoding -/

/-- The number of inputs that are taken at a time, which is at least one. -/
def batchSize (e : Encoder) : Nat :=
  max 1 (e.base.properties.batchSize.getD e.config.batchSize).toNat

/-- The pooling that the configuration names. -/
def pooling (e : Encoder) : Result Pooling :=
  match Pooling.ofName? e.config.pooling with
  | some pooling => .ok pooling
  | none => .error (.unsupported e.config.pooling)

/-- Cuts a list into pieces of `size`, of which the last may be shorter; `fuel` bounds their
number. -/
def piecesFrom (size : Nat) : (fuel : Nat) → List α → List (List α)
  | 0, _ => []
  | _, [] => []
  | fuel + 1, xs => xs.take size :: piecesFrom size fuel (xs.drop size)

/-- Cuts a list into pieces of `size`, of which the last may be shorter. -/
def pieces (size : Nat) (xs : List α) : List (List α) := piecesFrom size xs.length xs

/-- The vector of a text with the given tokens. -/
def vectorOf (pooling : Pooling) (table : VectorTable) (tokens : List String) : Vector32 :=
  pooling.pool (tokens.map table.lookup) table.dimension.toNat

/-- The vectors of the texts of one batch. -/
def encodeBatch (e : Encoder) (pooling : Pooling) (table : VectorTable) (texts : List String) :
    List Vector32 :=
  texts.map fun text => vectorOf pooling table (e.tokenizer text)

/-- The report of a batch. -/
def batchReport (e : Encoder) (batch : Nat) (texts : List String) : Event :=
  let tokens := texts.map fun text => (e.tokenizer text).length
  .batchEncoded batch texts.length (tokens.foldr (· + ·) 0)

/-- The reports of encoding texts in batches. -/
def encodingReports (e : Encoder) (texts : List String) : List Event :=
  let batches := pieces e.batchSize texts
  (if e.base.handles.verbose then
    batches.zipIdx.map fun (batch, number) => e.batchReport number batch
  else []) ++ [.textsEncoded texts.length e.batchSize]

/-- The vectors of texts, in order. -/
def encode (e : Encoder) (files : FileSystem) (texts : List String) :
    Step Encoder (List Vector32) :=
  match (do Component.requireTrained e "encode"; e.pooling) with
  | .error failure => ⟨.error failure, e, []⟩
  | .ok pooling =>
    let loaded := e.needTable files
    match loaded.result with
    | .error failure => ⟨.error failure, loaded.state, loaded.events⟩
    | .ok table =>
      ⟨.ok ((pieces e.batchSize texts).flatMap (e.encodeBatch pooling table)), loaded.state,
        loaded.events ++ e.encodingReports texts⟩

end Encoder

end TextVec
