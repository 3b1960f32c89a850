/-!
# Events

What components and the pipeline report while they work, and the record that stands for it in a log.
-/

namespace TextVec

/-- The formats in which a component is stored. -/
inductive Format where
  | binary
  | structured
  deriving DecidableEq, Repr

/-- A report. -/
inductive Event where
  | tableParsed (dimension kept skipped : Nat)
  | tableLoaded (path : String) (tokens dimension : Nat)
  | tableReleased (tokens : Nat)
  | batchEncoded (batch inputs tokens : Nat)
  | textsEncoded (inputs batchSize : Nat)
  | linesEncoded (lines : Nat)
  | retraining (kind : String)
  | trained (kind : String)
  | stored (format : Format) (kind path : String)
  | loaded (format : Format) (kind path : String)
  /-- A component was loaded whose kind only its file says. -/
  | recognized (format : Format) (kind path : String)
  | closeFailed (kind error : String)
  deriving DecidableEq, Repr

/-- How much a report matters. -/
inductive Level where
  | debug
  | info
  | warn
  deriving DecidableEq, Repr

/-- A field of a log record. -/
inductive FieldValue where
  | count (n : Nat)
  | text (s : String)
  deriving DecidableEq, Repr

namespace Event

/-- The level of a report. -/
def level : Event → Level
  | .tableParsed .. | .tableReleased .. | .batchEncoded .. | .textsEncoded .. => .debug
  | .retraining .. | .closeFailed .. => .warn
  | _ => .info

/-- The word for a format in a record. -/
def formatName : Format → String
  | .binary => "binary"
  | .structured => "structured"

/-- The message of a record. -/
def message : Event → String
  | .tableParsed .. => "vector_table_parsed"
  | .tableLoaded .. => "vector_table_loaded"
  | .tableReleased .. => "vector_table_released"
  | .batchEncoded .. => "encode_batch"
  | .textsEncoded .. => "encode_complete"
  | .linesEncoded .. => "encode_lines"
  | .retraining .. =>
    "retrain_override: already trained, training again overrides the previous training"
  | .trained .. => "train_success"
  | .stored format .. => "dump_" ++ formatName format
  | .loaded format .. => "load_" ++ formatName format
  | .recognized format .. => "registry_load_" ++ formatName format
  | .closeFailed .. => "close_failure"

/-- The fields of a record. -/
def fields : Event → List (String × FieldValue)
  | .tableParsed dimension kept skipped =>
    [("dimension", .count dimension), ("kept", .count kept), ("skipped", .count skipped)]
  | .tableLoaded path tokens dimension =>
    [("path", .text path), ("tokens", .count tokens), ("dimension", .count dimension)]
  | .tableReleased tokens => [("tokens", .count tokens)]
  | .batchEncoded batch inputs tokens =>
    [("batch", .count batch), ("inputs", .count inputs), ("tokens", .count tokens)]
  | .textsEncoded inputs batchSize => [("inputs", .count inputs), ("batch_size", .count batchSize)]
  | .linesEncoded lines => [("lines", .count lines)]
  | .retraining kind | .trained kind => [("kind", .text kind)]
  | .stored _ kind path | .loaded _ kind path | .recognized _ kind path =>
    [("kind", .text kind), ("path", .text path)]
  | .closeFailed kind error => [("kind", .text kind), ("error", .text error)]

end Event

/-- The result of an operation with the reports it made. -/
structure Logged (α : Type) where
  /-- What it gives. -/
  result : α
  /-- What it reports. -/
  events : List Event := []

end TextVec
