import Std.Data.HashMap
import TextVec.Component.Event
import TextVec.Disk.FileSystem
import TextVec.Encoder.Pooling
import TextVec.Number.Decimal

/-!
# Vector tables

A table gives tokens their vectors. It is read from a text with a row per line: a token and then its
numbers, of which the first ones count. Rows that are not of this form are skipped, and of two rows
for a token the later one counts.
-/

namespace TextVec

/-- A table of vectors of one dimension. -/
structure VectorTable where
  /-- How many numbers each vector has. -/
  dimension : UInt64
  /-- The last vector for each token. -/
  vectors : Std.HashMap String Vector32

namespace VectorTable

/-- Splits off the line that ends at the next line feed: `line` holds its bytes so far, last
first. -/
def linesFrom (line : Bytes) : Bytes → List Bytes
  | [] => if line.isEmpty then [] else [line.reverse]
  | b :: rest => if b = 10 then line.reverse :: linesFrom [] rest else linesFrom (b :: line) rest

/-- The lines of a file, without their line feeds. -/
def lines (content : Bytes) : List Bytes := linesFrom [] content

/-- A finite number. -/
def number? (field : List Char) : Option Float32 :=
  (Numeral.read? field).bind Numeral.toFiniteSingle?

/-- The token and the vector of a line. -/
def row? (dimension : Nat) (line : Bytes) : Option (String × Vector32) := do
  let text ← Text.ofUtf8? line
  match Text.fields text.toList with
  | [] => none
  | token :: fields =>
    let vector ← (fields.take dimension).mapM number?
    if vector.length = dimension then some (String.ofList token, vector) else none

/-- The rows that count and the number of lines that do not. -/
def rows (skip : UInt64) (dimension : UInt64) (content : Bytes) :
    List (String × Vector32) × Nat :=
  let read := ((lines content).drop skip.toNat).map (row? dimension.toNat)
  (read.filterMap id, (read.filter (·.isNone)).length)

/-- The table of rows, in which later rows replace earlier ones. -/
def ofRows (dimension : UInt64) (rows : List (String × Vector32)) : VectorTable :=
  ⟨dimension, rows.foldl (fun vectors row => vectors.insert row.1 row.2) ∅⟩

/-- The table in the content of a file, of which the first `skip` lines do not count. Reading makes
the vector of the tokens that it does not have as well, for which there is memory. -/
def parse (skip dimension : UInt64) (content : Bytes) : VectorTable × Event :=
  let (kept, skipped) := rows skip dimension content
  let table := ofRows dimension kept
  (table, .tableParsed dimension.toNat table.vectors.size skipped)

/-- The table in a file. -/
def load (files : FileSystem) (path : String) (skip dimension : UInt64) :
    DiskResult (VectorTable × Event) :=
  (files.read path).map (parse skip dimension)

/-- The vector of a token, if the table has it. -/
def get? (table : VectorTable) (token : String) : Option Vector32 := table.vectors[token]?

/-- The vector of a token; that of a token which the table does not have is zero. -/
def lookup (table : VectorTable) (token : String) : Vector32 :=
  (table.get? token).getD (Pooling.zeros table.dimension.toNat)

def contains (table : VectorTable) (token : String) : Bool := table.vectors.contains token

/-- The number of tokens. -/
def size (table : VectorTable) : Nat := table.vectors.size

def isEmpty (table : VectorTable) : Bool := table.vectors.isEmpty

end VectorTable

end TextVec
