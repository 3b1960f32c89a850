import TextVec.Json
import TextVec.Registry

/-!
# The pipeline

From lines of text to lines of JSON: an encoder is loaded from a file of either format, and every
line of the input becomes one array in the output. Lines are taken in batches, and the output of a
batch is written before the next batch is read.
-/

namespace TextVec

/-- Why the pipeline failed. -/
inductive PipelineFailure where
  | component (failure : Failure)
  | input (error : DiskError)
  | notAnEncoder (kind : String)
  deriving Repr

/-- The text of a failure of the pipeline. -/
def PipelineFailure.message : PipelineFailure → String
  | .component failure => failure.message
  | .input error => "io failure: " ++ error.message
  | .notAnEncoder kind => "`" ++ kind ++ "` is not an encoder"

/-- The format of a file by its name. -/
def formatOf (path : String) : Format :=
  if Path.extension? path == some "bin" then .binary else .structured

/-- Loads an encoder from a file of either format. -/
def loadEncoder [Compressor] (registry : Registry) (files : FileSystem) (path : String) :
    Logged (Except PipelineFailure Encoder) :=
  let loaded := registry.load (formatOf path) files path
  let result := match loaded.result with
    | .error failure => .error (.component failure)
    | .ok (.encoder e) => .ok e
    | .ok other => .error (.notAnEncoder other.kind.name)
  ⟨result, loaded.events⟩

/-- A line without the carriage return at its end. -/
def dropReturn (line : Bytes) : Bytes :=
  if line.getLast? == some 13 then line.dropLast else line

/-- Splits off the line that ends at the next line feed: `line` holds its bytes so far, last first.
Only a line feed takes a carriage return before it away. -/
def inputLinesFrom (line : Bytes) : Bytes → List Bytes
  | [] => if line.isEmpty then [] else [line.reverse]
  | b :: rest =>
    if b = 10 then dropReturn line.reverse :: inputLinesFrom [] rest
    else inputLinesFrom (b :: line) rest

/-- The lines of an input. -/
def inputLines (input : Bytes) : List Bytes := inputLinesFrom [] input

/-- What encoding lines has come to: the encoder, the lines written, and the output. -/
structure Encoded where
  /-- The encoder, with the table that it may have read by now. -/
  encoder : Encoder
  /-- How many lines were written. -/
  written : Nat := 0
  /-- The lines themselves. -/
  output : String := ""
  /-- What was reported. -/
  events : List Event := []

/-- Encodes one batch and appends its output. -/
def encodeBatchOf (files : FileSystem) (done : Encoded) (texts : List String) :
    Except PipelineFailure Unit × Encoded :=
  let step := done.encoder.encode files texts
  let done := { done with encoder := step.state, events := done.events ++ step.events }
  match step.result with
  | .error failure => (.error (.component failure), done)
  | .ok vectors =>
    (.ok (),
      { done with
        written := done.written + vectors.length
        output := done.output ++ String.join (vectors.map fun v => Json.writeVector v ++ "\n") })

/-- Encodes lines in batches of `size`; `pending` holds the texts of the batch so far, last
first. -/
def encodeFrom (files : FileSystem) (size : Nat) (pending : List String) (done : Encoded) :
    List Bytes → Except PipelineFailure Unit × Encoded
  | [] => if pending.isEmpty then (.ok (), done) else encodeBatchOf files done pending.reverse
  | line :: rest =>
    match Text.ofUtf8? line with
    | none => (.error (.input .notText), done)
    | some text =>
      if pending.length + 1 = size then
        match encodeBatchOf files done (text :: pending).reverse with
        | (.ok (), done) => encodeFrom files size [] done rest
        | failed => failed
      else encodeFrom files size (text :: pending) done rest

/-- Encodes every line of an input. -/
def encodeLines (files : FileSystem) (encoder : Encoder) (input : Bytes) :
    Except PipelineFailure Nat × Encoded :=
  match encodeFrom files encoder.batchSize [] { encoder } (inputLines input) with
  | (.error failure, done) => (.error failure, done)
  | (.ok (), done) =>
    (.ok done.written, { done with events := done.events ++ [.linesEncoded done.written] })

end TextVec
