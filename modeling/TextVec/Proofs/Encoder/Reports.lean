import Mathlib.Algebra.Order.Floor.Div
import TextVec.Proofs.Encoder.Handles

/-!
# Reports of encoding

An encoder reports what it has encoded, and before that every batch if it is told to. Main
statement: the reports of the batches are a partition of the texts. There are as many as are needed,
numbered from zero; all but the last are of full batches; and what they count adds up to all texts
and to all tokens. An encoder that is told not to report batches leaves out these reports and does
everything else alike.
-/

namespace TextVec

/-- What the report of a batch says: its number, and how many texts with how many tokens it has. -/
structure BatchReport where
  /-- Counted from zero. -/
  number : Nat
  /-- How many texts the batch has. -/
  inputs : Nat
  /-- How many tokens its texts have. -/
  tokens : Nat

/-- The report of a batch as an event. -/
def BatchReport.toEvent (report : BatchReport) : Event :=
  .batchEncoded report.number report.inputs report.tokens

namespace Encoder

/-! ## Pieces by their numbers -/

/-- The piece of a number, if a list is cut into pieces of `size`. -/
def pieceAt (size : Nat) (xs : List α) (number : Nat) : List α :=
  (xs.drop (number * size)).take size

/-- A piece but the first is a piece of what the first one leaves. -/
theorem pieceAt_succ (size : Nat) (xs : List α) (number : Nat) :
    pieceAt size xs (number + 1) = pieceAt size (xs.drop size) number := by
  rw [pieceAt, pieceAt, List.drop_drop, Nat.succ_mul, Nat.add_comm]

theorem length_pieceAt (size : Nat) (xs : List α) (number : Nat) :
    (pieceAt size xs number).length = min size (xs.length - number * size) := by
  rw [pieceAt, List.length_take, List.length_drop]

section

variable {size : Nat} (positive : 0 < size)

include positive

/-- There is a piece of a number if it begins before the end of the list. -/
theorem lt_ceilDiv_iff {length number : Nat} :
    number < length ⌈/⌉ size ↔ number * size < length := by
  rw [Nat.mul_comm]
  exact lt_iff_lt_of_le_iff_le (ceilDiv_le_iff_le_mul positive)

/-- A list with something in it has one piece more than what its first piece leaves. -/
theorem ceilDiv_eq_succ {length : Nat} (something : 0 < length) :
    length ⌈/⌉ size = (length - size) ⌈/⌉ size + 1 := by
  -- Both have the same upper bounds, of which zero is none.
  refine eq_of_forall_ge_iff fun bound => ?_
  cases bound with
  | zero =>
    rw [ceilDiv_le_iff_le_mul positive]
    omega
  | succ bound =>
    rw [Nat.add_le_add_iff_right, ceilDiv_le_iff_le_mul positive, ceilDiv_le_iff_le_mul positive,
      Nat.mul_succ]
    omega

/-- With enough steps a list is cut into its pieces in the order of their numbers. -/
theorem piecesFrom_eq_map_pieceAt {fuel : Nat} {xs : List α} (enough : xs.length ≤ fuel) :
    piecesFrom size fuel xs = (List.range (xs.length ⌈/⌉ size)).map (pieceAt size xs) := by
  have nothing (fuel : Nat) : piecesFrom size fuel ([] : List α) =
      (List.range (([] : List α).length ⌈/⌉ size)).map (pieceAt size []) := by
    rw [List.length_nil, zero_ceilDiv]
    cases fuel <;> rfl
  -- As with the pieces themselves, on how many steps are left.
  induction fuel generalizing xs with
  | zero =>
    rw [List.eq_nil_of_length_eq_zero (Nat.le_zero.mp enough)]
    exact nothing 0
  | succ fuel ih =>
    cases xs with
    | nil => exact nothing _
    | cons x rest =>
      have shorter : ((x :: rest).drop size).length ≤ fuel := by
        rw [List.length_drop]
        omega
      have count : (x :: rest).length ⌈/⌉ size =
          ((x :: rest).drop size).length ⌈/⌉ size + 1 := by
        rw [List.length_drop]
        exact ceilDiv_eq_succ positive (Nat.succ_pos _)
      have first : pieceAt size (x :: rest) 0 = (x :: rest).take size := by
        rw [pieceAt, Nat.zero_mul, List.drop_zero]
      -- The other pieces are those of what is left, with numbers that are greater by one.
      have others : pieceAt size (x :: rest) ∘ Nat.succ = pieceAt size ((x :: rest).drop size) :=
        funext (pieceAt_succ size (x :: rest))
      rw [piecesFrom, ih shorter, count, List.range_succ_eq_map, List.map_cons, List.map_map, first,
        others]
      exact List.cons_ne_nil x rest

/-- A list is cut into its pieces in the order of their numbers, and into as many as are needed. -/
theorem pieces_eq_map_pieceAt (xs : List α) :
    pieces size xs = (List.range (xs.length ⌈/⌉ size)).map (pieceAt size xs) :=
  piecesFrom_eq_map_pieceAt positive (Nat.le_refl _)

/-- Numbering the pieces gives each of them its own number. -/
theorem zipIdx_pieces (xs : List α) :
    (pieces size xs).zipIdx =
      (List.range (xs.length ⌈/⌉ size)).map fun number => (pieceAt size xs number, number) := by
  rw [pieces_eq_map_pieceAt positive, List.zipIdx_eq_zip_range', List.length_map, List.length_range,
    ← List.range_eq_range']
  -- The numbers of the pieces are their own places.
  have pairs :=
    List.zip_map' (f := pieceAt size xs) (g := id) (l := List.range (xs.length ⌈/⌉ size))
  rwa [List.map_id] at pairs

/-- A piece that another one follows is full. -/
theorem length_pieceAt_of_followed {xs : List α} {number : Nat}
    (followed : number + 1 < xs.length ⌈/⌉ size) : (pieceAt size xs number).length = size := by
  -- The next piece begins before the end, so this one is not cut short by it.
  have reached := (lt_ceilDiv_iff positive).mp followed
  rw [Nat.succ_mul] at reached
  rw [length_pieceAt]
  omega

/-- A piece has something in it, and no more than its size. -/
theorem length_pieceAt_bounds {xs : List α} {number : Nat}
    (present : number < xs.length ⌈/⌉ size) :
    1 ≤ (pieceAt size xs number).length ∧ (pieceAt size xs number).length ≤ size := by
  have reached := (lt_ceilDiv_iff positive).mp present
  rw [length_pieceAt]
  omega

/-- What is added up piece by piece is the sum over the whole list. -/
theorem sum_pieces (f : α → Nat) (xs : List α) :
    ((pieces size xs).map fun piece => (piece.map f).sum).sum = (xs.map f).sum := by
  have whole : xs.map f = ((pieces size xs).map (List.map f)).flatten := by
    rw [← List.map_flatten, flatten_pieces positive]
  rw [whole, List.sum_flatten, List.map_map]
  rfl

end

/-! ## Reports of batches -/

/-- The number of tokens of a text. -/
def tokenCount (e : Encoder) (text : String) : Nat := (e.tokenizer text).length

/-- The report of the batch of a number. -/
def reportAt (e : Encoder) (texts : List String) (number : Nat) : BatchReport :=
  let batch := pieceAt e.batchSize texts number
  ⟨number, batch.length, (batch.map e.tokenCount).sum⟩

/-- The reports of all batches. -/
def batchReports (e : Encoder) (texts : List String) : List BatchReport :=
  (List.range (texts.length ⌈/⌉ e.batchSize)).map (e.reportAt texts)

theorem length_batchReports (e : Encoder) (texts : List String) :
    (e.batchReports texts).length = texts.length ⌈/⌉ e.batchSize := by
  rw [batchReports, List.length_map, List.length_range]

/-- What a report says of its batch alone can be found without the report. -/
theorem map_batchReports (e : Encoder) (texts : List String) {view : BatchReport → Nat}
    {f : List String → Nat} (h : ∀ number, view (e.reportAt texts number) =
      f (pieceAt e.batchSize texts number)) :
    (e.batchReports texts).map view = (pieces e.batchSize texts).map f := by
  rw [pieces_eq_map_pieceAt e.batchSize_pos, batchReports, List.map_map, List.map_map]
  exact List.map_congr_left fun number _ => h number

/-- Reports that are a partition of texts into batches of `size`: none is missing or too many, only
the last may be of a batch that is not full, and together they count all texts and all tokens. -/
structure IsPartition (size : Nat) (texts : List String) (tokenCount : String → Nat)
    (reports : List BatchReport) : Prop where
  /-- As many as are needed. -/
  length : reports.length = texts.length ⌈/⌉ size
  /-- They are numbered from zero, without a gap. -/
  numbers : reports.map BatchReport.number = List.range reports.length
  /-- All but the last are of full batches. -/
  full : ∀ report ∈ reports.dropLast, report.inputs = size
  /-- The last one is of a batch with something in it, and not too much. -/
  last : ∀ report ∈ reports.getLast?, 1 ≤ report.inputs ∧ report.inputs ≤ size
  /-- Together they have all texts. -/
  inputs : (reports.map BatchReport.inputs).sum = texts.length
  /-- And all tokens. -/
  tokens : (reports.map BatchReport.tokens).sum = (texts.map tokenCount).sum
  /-- The tokens of a report are those of the texts of its batch. -/
  own : ∀ report ∈ reports,
    report.tokens = ((pieceAt size texts report.number).map tokenCount).sum

/-- The reports of an encoder are such a partition. -/
theorem isPartition_batchReports (e : Encoder) (texts : List String) :
    IsPartition e.batchSize texts e.tokenCount (e.batchReports texts) where
  length := e.length_batchReports texts
  numbers := by
    have same : BatchReport.number ∘ e.reportAt texts = id := rfl
    rw [length_batchReports, batchReports, List.map_map, same, List.map_id]
  full report member := by
    obtain ⟨number, bound, rfl⟩ := List.getElem_of_mem member
    rw [List.length_dropLast, length_batchReports] at bound
    -- It is not the last report, so the batch of another one follows.
    have followed : number + 1 < texts.length ⌈/⌉ e.batchSize := by omega
    simp only [List.getElem_dropLast, batchReports, List.getElem_map, List.getElem_range]
    exact length_pieceAt_of_followed e.batchSize_pos followed
  last report member := by
    obtain ⟨number, present, rfl⟩ := List.mem_map.mp (List.mem_of_getLast? member)
    exact length_pieceAt_bounds e.batchSize_pos (List.mem_range.mp present)
  inputs := by
    have counted : (e.batchReports texts).map BatchReport.inputs =
        (pieces e.batchSize texts).map List.length :=
      e.map_batchReports texts fun _ => rfl
    -- What the batches have together is what was cut into them.
    rw [counted, ← List.length_flatten, flatten_pieces e.batchSize_pos]
  tokens := by
    have counted : (e.batchReports texts).map BatchReport.tokens =
        (pieces e.batchSize texts).map fun batch => (batch.map e.tokenCount).sum :=
      e.map_batchReports texts fun _ => rfl
    rw [counted, sum_pieces e.batchSize_pos]
  own report member := by
    obtain ⟨number, -, rfl⟩ := List.mem_map.mp member
    rfl

/-! ## Events of encoding -/

/-- What is reported of texts: their batches, if the encoder is told to, and then all of them. -/
theorem encodingReports_eq (e : Encoder) (texts : List String) :
    e.encodingReports texts =
      (if e.base.handles.verbose then (e.batchReports texts).map BatchReport.toEvent else []) ++
        [.textsEncoded texts.length e.batchSize] := by
  simp only [encodingReports, zipIdx_pieces e.batchSize_pos, batchReports, List.map_map]
  rfl

/-- What is reported of the table is that it was read. -/
theorem message_of_mem_needTable {e : Encoder} {files : FileSystem} {event : Event}
    (h : event ∈ (e.needTable files).events) :
    event.message = "vector_table_parsed" ∨ event.message = "vector_table_loaded" := by
  unfold needTable at h
  -- There is something to report only if the table was not there and could be read.
  cases present : e.table with
  | some table => simp [present] at h
  | none =>
    cases found : files.read e.config.modelPath with
    | error error => simp [present, readTable_of_error found] at h
    | ok content =>
      simp only [present, readTable_of_read found, List.mem_cons, List.not_mem_nil, or_false] at h
      rcases h with rfl | rfl
      · exact .inl rfl
      · exact .inr rfl

/-- Reading the table is reported alike, whatever the handles are. -/
theorem events_needTable_withHandles (e : Encoder) (handles : Handles) (files : FileSystem) :
    ((e.withHandles handles).needTable files).events = (e.needTable files).events := by
  have sameTable : (e.withHandles handles).readTable files = e.readTable files := rfl
  have sameCell : (e.withHandles handles).table = e.table := rfl
  unfold needTable
  rw [sameCell, sameTable]
  cases e.table with
  | some table => rfl
  | none => cases e.readTable files <;> rfl

/-- Encoding reports the table first and then the texts. -/
theorem events_encode_of_ok {e : Encoder} {files : FileSystem} {texts : List String}
    {vectors : List Vector32} (h : (e.encode files texts).result = .ok vectors) :
    (e.encode files texts).events = (e.needTable files).events ++ e.encodingReports texts := by
  obtain ⟨vector, able, -⟩ := encode_eq_ok_iff.mp h
  obtain ⟨pooling, table, trained, hPooling, hTable, -⟩ := encoding_eq_ok_iff.mp able
  simp only [encode, trained, hPooling, hTable, bind, Except.bind]

/-- **The reports of the batches are a partition of the texts.** When an encoder that is told to
report batches has encoded texts, then it has reported, after the table if that was read, just the
batches of a partition of the texts, and after them once how many texts there were and how many a
batch takes. If it is told not to, then it encodes alike and leaves out the reports of the batches,
but none of the others. -/
theorem reports_partition_texts {e : Encoder} {files : FileSystem} {texts : List String}
    {vectors : List Vector32} (verbose : e.base.handles.verbose = true)
    (encoded : (e.encode files texts).result = .ok vectors) :
    let size := max 1 (e.base.properties.batchSize.getD e.config.batchSize).toNat
    let quiet : Handles := { e.base.handles with verbose := false }
    let quietly := (e.withHandles quiet).encode files texts
    ∃ (loading : List Event) (reports : List BatchReport),
      (∀ event ∈ loading,
        event.message ≠ "encode_batch" ∧ event.message ≠ "encode_complete") ∧
      (e.encode files texts).events =
        loading ++ reports.map BatchReport.toEvent ++ [.textsEncoded texts.length size] ∧
      IsPartition size texts e.tokenCount reports ∧
      quietly.events = loading ++ [.textsEncoded texts.length size] ∧
      quietly.result = .ok vectors ∧
      quietly.state = (e.encode files texts).state.withHandles quiet := by
  intro size quiet quietly
  obtain ⟨result, state⟩ := e.encode_withHandles quiet (rfl : files.read _ = files.read _) texts
  have alike : quietly.result = .ok vectors := result.trans encoded
  refine ⟨(e.needTable files).events, e.batchReports texts, ?_, ?_,
    e.isPartition_batchReports texts, ?_, alike, state⟩
  · intro event member
    rcases message_of_mem_needTable member with message | message <;> rw [message] <;> decide
  · rw [events_encode_of_ok encoded, encodingReports_eq, if_pos verbose, List.append_assoc]
    rfl
  · -- Other handles change neither what is reported of the table nor the report of all texts.
    rw [events_encode_of_ok alike, events_needTable_withHandles, encodingReports_eq]
    rfl

/-- Five texts in batches of two, one of which is empty. -/
theorem reports_partition_texts_odd :
    let e : Encoder :=
      { base := ⟨[], ⟨true, some 2⟩, .attach "Word2VecEncoder" { verbose := true }⟩
        config := { modelPath := "v.txt", dimension := 1 }
        tokenizer := Tokenizer.tokenize {}
        table := some (.ofRows 1 [("a", [1])]) }
    let texts := ["a b", "", "c", "D, e f", "a"]
    e.base.handles.verbose = true ∧
      (∃ vectors, (e.encode .empty texts).result = .ok vectors) ∧
      ∃ (loading : List Event) (reports : List BatchReport),
        (e.encode .empty texts).events =
          loading ++ reports.map BatchReport.toEvent ++ [.textsEncoded 5 2] ∧
        reports.length = 3 ∧ (reports.map BatchReport.inputs).sum = 5 ∧
        (reports.map BatchReport.tokens).sum = 7 := by
  intro e texts
  have pooling : e.pooling = .ok .mean := Encoder.pooling_of_name rfl
  have encoded : (e.encode .empty texts).result = .ok _ :=
    encode_eq_ok_iff.mpr
      ⟨_, encoding_eq_ok_iff.mpr ⟨.mean, _, rfl, pooling, rfl, rfl⟩, rfl⟩
  have verbose : e.base.handles.verbose = true := rfl
  have size : max 1 (e.base.properties.batchSize.getD e.config.batchSize).toNat = 2 := rfl
  have batches : texts.length ⌈/⌉ 2 = 3 := by
    simp only [texts, List.length_cons, List.length_nil, Nat.ceilDiv_eq_add_pred_div]
  have tokens : (texts.map e.tokenCount).sum = 7 := by decide +kernel
  -- What the encoder is made of would only be computed again from here on.
  clear_value e
  obtain ⟨loading, reports, -, events, partition, -⟩ := reports_partition_texts verbose encoded
  rw [size] at events partition
  exact ⟨verbose, ⟨_, encoded⟩, loading, reports, events, partition.length.trans batches,
    partition.inputs, partition.tokens.trans tokens⟩

end Encoder

end TextVec
