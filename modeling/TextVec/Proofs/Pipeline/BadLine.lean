import TextVec.Proofs.Pipeline.Batching

/-!
# A line that is no text

Encoding lines stops at the first line that is not a text. The batches that were full before that
line are written, and the lines that were waiting for others are lost. Main statement: the output is
that of the whole batches before the bad line, and the beginning of what the lines before it would
have given alone.
-/

namespace TextVec

/-- What whole batches there are among texts that wait, of which there are too few for a batch, and
others. -/
theorem take_whole_batches {size : Nat} (batch rest : List α) (full : batch.length = size)
    (positive : 0 < size) :
    (batch ++ rest).take ((batch ++ rest).length / size * size) =
      batch ++ rest.take (rest.length / size * size) := by
  have whole : (batch ++ rest).length / size * size =
      batch.length + rest.length / size * size := by
    rw [List.length_append, full, Nat.add_div_left _ positive, Nat.succ_mul, Nat.add_comm]
  rw [whole, List.take_append, List.take_of_length_le (Nat.le_add_right ..),
    Nat.add_sub_cancel_left]

/-- At a line that is no text, the whole batches before it are encoded and nothing else is. -/
theorem encodeFrom_notText {files : FileSystem} {vector : String → Vector32} {size : Nat}
    {texts : List String} {done : Encoded} (h : done.Holds files vector texts) {bad : Bytes}
    (notText : Text.ofUtf8? bad = none) (rest : List Bytes) (more : List String)
    {pending : List String} (waiting : pending.length < size) :
    ∃ after,
      encodeFrom files size pending done (more.map Text.toUtf8 ++ bad :: rest) =
        (.error (.input .notText), after) ∧
      after.Holds files vector
        (texts ++
          (pending.reverse ++ more).take ((pending.reverse ++ more).length / size * size)) := by
  -- On the texts before the bad line, with any that wait.
  induction more generalizing pending texts done with
  | nil =>
    -- The texts that wait are too few for a batch, and no other comes.
    have none : (pending.reverse ++ []).length / size = 0 := by
      rw [List.append_nil, List.length_reverse]
      exact Nat.div_eq_of_lt waiting
    refine ⟨done, by rw [List.map_nil, List.nil_append, encodeFrom, notText], ?_⟩
    rw [none, Nat.zero_mul, List.take_zero, List.append_nil]
    exact h
  | cons text others ih =>
    rw [List.map_cons, List.cons_append, encodeFrom, Text.ofUtf8?_toUtf8]
    have moved : pending.reverse ++ text :: others = (text :: pending).reverse ++ others := by simp
    simp only
    split
    · -- The batch is full: it is encoded, and then nothing is pending.
      rename_i full
      have nonePending : ([] : List String).length < size := full ▸ Nat.succ_pos _
      have fullBatch : (text :: pending).reverse.length = size := by simpa using full
      obtain ⟨middle, step, held⟩ := encodeBatchOf_holds h (text :: pending).reverse
      obtain ⟨after, run, allHeld⟩ := ih held nonePending
      rw [step]
      refine ⟨after, run, ?_⟩
      rw [moved, take_whole_batches _ _ fullBatch nonePending, ← List.append_assoc]
      exact allHeld
    · -- The text waits for others, and nothing is encoded yet.
      rename_i notFull
      rw [moved]
      exact ih h (Nat.lt_of_le_of_ne waiting notFull)

/-- An input that is cut before one of its lines has the lines before that. -/
theorem lines_cut {input : Bytes} {ended : List Bytes} {last : Bytes} (h : Lines input ended last)
    (n : Nat) : Lines ((ended.take n).flatMap (· ++ [10])) (ended.take n) [] where
  whole := by simp
  endedFree line member := h.endedFree line (List.mem_of_mem_take member)
  lastFree := by simp

/-- **What is written before a line that is no text.** If the encoder can encode, and the first line
that is not a text is preceded by `texts`, then the failure is that of the input, and the output is
that of the whole batches of `texts`: a line each, in order, which is a JSON array of numbers that
stand for those of a vector. It is what the output of an input which ends before the bad line begins
with. -/
theorem whole_batches_before_bad_line {e : Encoder} {files : FileSystem} {sample : List String}
    {sampled : List Vector32} (able : (e.encode files sample).result = .ok sampled)
    {input : Bytes} {ended : List Bytes} {last : Bytes} (lines : Lines input ended last)
    {texts : List String} {bad : Bytes} {rest : List Bytes}
    (split : (ended.map dropReturn ++ if last.isEmpty then [] else [last]) =
      texts.map Text.toUtf8 ++ bad :: rest)
    (notText : Text.ofUtf8? bad = none) :
    let batch := max 1 (e.base.properties.batchSize.getD e.config.batchSize).toNat
    let whole := texts.length / batch * batch
    let lineOf (v : Vector32) := Json.writeVector v ++ "\n"
    let cut := (ended.take texts.length).flatMap (· ++ [10])
    ∃ vectors, (e.encode files texts).result = .ok vectors ∧ vectors.length = texts.length ∧
      (encodeLines files e input).1 = .error (.input .notText) ∧
      (encodeLines files e input).2.output = String.join ((vectors.take whole).map lineOf) ∧
      (encodeLines files e cut).1 = .ok texts.length ∧
      (encodeLines files e cut).2.output = String.join (vectors.map lineOf) ∧
      ∀ v ∈ vectors, ∃ items,
        Json.writeVector v = "[" ++ ",".intercalate items ++ "]" ∧ Json.AreItemsOf v items := by
  intro batch whole lineOf cut
  obtain ⟨vector, encoding, -⟩ := Encoder.encode_eq_ok_iff.mp able
  have start : (Encoded.mk e 0 "" []).Holds files vector [] := ⟨encoding, rfl, rfl⟩
  refine ⟨texts.map vector, Encoder.encode_eq_ok_iff.mpr ⟨vector, encoding, rfl⟩,
    List.length_map _, ?_⟩
  have stopped : (encodeLines files e input).1 = .error (.input .notText) ∧
      (encodeLines files e input).2.output =
        String.join (((texts.map vector).take whole).map lineOf) := by
    have nonePending : ([] : List String).length < e.batchSize := e.batchSize_pos
    obtain ⟨after, run, held⟩ := encodeFrom_notText start notText rest texts nonePending
    unfold encodeLines
    rw [inputLines_eq lines, split, run]
    refine ⟨rfl, ?_⟩
    rw [← List.map_take]
    exact held.output
  -- The bad line is none of those before it, so they are ended; whatever comes after it goes too.
  have before : (ended.take texts.length).map dropReturn = texts.map Text.toUtf8 := by
    have within : texts.length ≤ (ended.map dropReturn).length := by
      have lengths := congrArg List.length split
      have tail : (if last.isEmpty then [] else [last]).length ≤ 1 := by split <;> simp
      simp only [List.length_append, List.length_map, List.length_cons] at lengths ⊢
      omega
    rw [List.map_take, ← List.take_append_of_le_length within, split,
      List.take_left' (List.length_map _)]
  have alone : (encodeLines files e cut).1 = .ok texts.length ∧
      (encodeLines files e cut).2.output = String.join ((texts.map vector).map lineOf) := by
    obtain ⟨after, run, held⟩ := encodeFrom_holds start []
    unfold encodeLines
    rw [inputLines_eq (lines_cut lines texts.length), before, List.isEmpty_nil, if_pos rfl,
      List.append_nil, run]
    exact ⟨congrArg Except.ok held.written, held.output⟩
  exact ⟨stopped.1, stopped.2, alone.1, alone.2, fun v _ => Json.exists_items v⟩

/-- Three lines and then a byte that no text begins with, in batches of two: the output is that of
the first two lines. -/
theorem whole_batches_before_bad_line_odd :
    let e : Encoder :=
      { base := ⟨[], ⟨true, some 2⟩, .attach "Word2VecEncoder" {}⟩
        config := { modelPath := "v.txt", dimension := 1 }
        tokenizer := Tokenizer.tokenize {}
        table := some (.ofRows 1 [("a", [1.5])]) }
    let input : Bytes := [97, 10, 98, 13, 10, 97, 10, 255, 10, 97]
    Lines input [[97], [98, 13], [97], [255]] [97] ∧ Text.ofUtf8? [255] = none ∧
      ∃ vectors, (e.encode .empty ["a", "b", "a"]).result = .ok vectors ∧
        (encodeLines .empty e input).1 = .error (.input .notText) ∧
        (encodeLines .empty e input).2.output =
          String.join ((vectors.take 2).map fun v => Json.writeVector v ++ "\n") ∧
        (encodeLines .empty e input).2.output = "[1.5]\n[0.0]\n" := by
  intro e input
  let table : VectorTable := .ofRows 1 [("a", [1.5])]
  have lines : Lines input [[97], [98, 13], [97], [255]] [97] := ⟨rfl, by decide, by decide⟩
  have notText : Text.ofUtf8? [255] = none := by decide +kernel
  have pooling : e.pooling = .ok .mean := Encoder.pooling_of_name rfl
  have single {text : String} {x : Float32} (tokens : Tokenizer.tokenize {} text = [text])
      (lookup : table.lookup text = [x]) :
      Encoder.vectorOf .mean table (Tokenizer.tokenize {} text) = [(0 + x) / Float32.ofNat 1] := by
    rw [tokens, Encoder.vectorOf, List.map_singleton, lookup]
    rfl
  have known := @single "a" 1.5 (by decide +kernel)
    (by simp [table, VectorTable.lookup, VectorTable.get?, VectorTable.ofRows])
  have unknown := @single "b" 0 (by decide +kernel)
    (by simp [table, VectorTable.lookup, VectorTable.get?, VectorTable.ofRows, Pooling.zeros])
  have able (texts : List String) : (e.encode .empty texts).result =
      .ok (texts.map fun text => Encoder.vectorOf .mean table (Tokenizer.tokenize {} text)) :=
    Encoder.encode_eq_ok_iff.mpr
      ⟨_, Encoder.encoding_eq_ok_iff.mpr ⟨.mean, _, rfl, pooling, rfl, rfl⟩, rfl⟩
  have split : ([[97], [98, 13], [97], [255]].map dropReturn ++
      if [97].isEmpty then [] else [[97]]) =
      ["a", "b", "a"].map Text.toUtf8 ++ [255] :: [[97]] := by decide +kernel
  have batch : max 1 (e.base.properties.batchSize.getD e.config.batchSize).toNat = 2 := rfl
  -- What the encoder is made of would only be computed again from here on.
  clear_value e
  obtain ⟨vectors, encoded, -, failed, written, -⟩ :=
    whole_batches_before_bad_line (able []) lines split notText
  rw [batch] at written
  obtain rfl := Except.ok.inj ((able _).symm.trans encoded)
  refine ⟨lines, notText, _, encoded, failed, written, written.trans ?_⟩
  rw [List.map_cons, List.map_cons, known, unknown]
  decide +kernel

end TextVec
