import TextVec.Proofs.Encoder.Batching
import TextVec.Proofs.Number.Numeral
import TextVec.Proofs.Pipeline.Lines

/-!
# Encoding lines in batches

Two loops take texts in batches: encoding itself, and the pipeline, which hands the encoder a batch
of lines at a time. Neither can be seen in the vectors. The lines of an input are encoded as if all
of them were encoded at once.
-/

namespace TextVec

/-- The output for vectors: a line of JSON each. -/
def outputOf (vectors : List Vector32) : String :=
  String.join (vectors.map fun v => Json.writeVector v ++ "\n")

theorem outputOf_append (xs ys : List Vector32) :
    outputOf (xs ++ ys) = outputOf xs ++ outputOf ys := by
  rw [outputOf, List.map_append, String.join_append]
  rfl

/-! ## What was encoded so far -/

/-- The state of encoding lines in which exactly some texts were encoded, by a function that the
encoder still has. -/
structure Encoded.Holds (files : FileSystem) (vector : String → Vector32) (texts : List String)
    (done : Encoded) : Prop where
  /-- What vector a text has is still decided by this function. -/
  encoding : done.encoder.encoding files = .ok vector
  /-- The lines are counted. -/
  written : done.written = texts.length
  /-- And they are those of the texts, in order. -/
  output : done.output = outputOf (texts.map vector)

/-- A batch adds its texts to those that were encoded. -/
theorem encodeBatchOf_holds {files : FileSystem} {vector : String → Vector32} {texts : List String}
    {done : Encoded} (h : done.Holds files vector texts) (batch : List String) :
    ∃ after, encodeBatchOf files done batch = (.ok (), after) ∧
      after.Holds files vector (texts ++ batch) := by
  have result : (done.encoder.encode files batch).result = .ok (batch.map vector) := by
    rw [Encoder.encode_result, h.encoding]
    rfl
  unfold encodeBatchOf
  simp only [result]
  refine ⟨_, rfl, Encoder.encoding_encode h.encoding batch files, ?_, ?_⟩
  · simp [h.written]
  · rw [List.map_append, outputOf_append, ← h.output]
    rfl

/-- Whatever the batches are, the texts that were pending and then the lines are encoded. -/
theorem encodeFrom_holds {files : FileSystem} {vector : String → Vector32} {size : Nat}
    {texts more : List String} {done : Encoded} (h : done.Holds files vector texts)
    (pending : List String) :
    ∃ after, encodeFrom files size pending done (more.map Text.toUtf8) = (.ok (), after) ∧
      after.Holds files vector (texts ++ pending.reverse ++ more) := by
  -- On the lines to come, with any that wait and whatever was encoded before.
  induction more generalizing pending texts done with
  | nil =>
    -- At the end of the input, what is pending is a batch of its own, unless it is nothing.
    rw [List.map_nil, encodeFrom, List.append_nil]
    split
    · rename_i nonePending
      rw [List.isEmpty_iff.mp nonePending, List.reverse_nil, List.append_nil]
      exact ⟨done, rfl, h⟩
    · exact encodeBatchOf_holds h pending.reverse
  | cons text rest ih =>
    rw [List.map_cons, encodeFrom, Text.ofUtf8?_toUtf8]
    simp only
    split
    · -- The batch is full: it is encoded, and then nothing is pending.
      obtain ⟨middle, step, held⟩ := encodeBatchOf_holds h (text :: pending).reverse
      obtain ⟨after, run, allHeld⟩ := ih held []
      rw [step]
      refine ⟨after, run, ?_⟩
      simpa using allHeld
    · -- The text waits for others, and nothing is encoded yet.
      obtain ⟨after, run, held⟩ := ih h (text :: pending)
      refine ⟨after, run, ?_⟩
      simpa using held

/-! ## An encoder that cannot encode -/

theorem encodeBatchOf_error {files : FileSystem} {failure : Failure} {done : Encoded}
    (h : done.encoder.encoding files = .error failure) (batch : List String) :
    ∃ after, encodeBatchOf files done batch = (.error (.component failure), after) ∧
      after.output = done.output := by
  have result : (done.encoder.encode files batch).result = .error failure := by
    rw [Encoder.encode_result, h]
    rfl
  unfold encodeBatchOf
  simp only [result]
  exact ⟨_, rfl, rfl⟩

/-- The first batch fails, and there is one if there is a text. -/
theorem encodeFrom_error {files : FileSystem} {failure : Failure} {size : Nat}
    {pending more : List String} {done : Encoded}
    (h : done.encoder.encoding files = .error failure) (someText : pending ≠ [] ∨ more ≠ []) :
    ∃ after, encodeFrom files size pending done (more.map Text.toUtf8) =
        (.error (.component failure), after) ∧
      after.output = done.output := by
  induction more generalizing pending with
  | nil =>
    -- There was a text, and no line is left, so it must be pending.
    have somePending : ¬ pending.isEmpty = true := by simpa using someText
    rw [List.map_nil, encodeFrom, if_neg somePending]
    exact encodeBatchOf_error h pending.reverse
  | cons text rest ih =>
    rw [List.map_cons, encodeFrom, Text.ofUtf8?_toUtf8]
    simp only
    split
    · -- The first batch that is full fails, and nothing comes after it.
      obtain ⟨after, step, kept⟩ := encodeBatchOf_error h (text :: pending).reverse
      rw [step]
      exact ⟨after, rfl, kept⟩
    · exact ih (.inl (List.cons_ne_nil text pending))

/-! ## Batches do not matter -/

/-- **Batches cannot be seen.** Texts are encoded one by one, in order, by a function that has
nothing to do with the batches, be they those of the configuration or those of the properties, and
reported or not; so encoding some texts and then others, which needs no file any more, is the same
as encoding all of them. And the lines of an input are encoded as all of them at once would be, if
there is one and all are texts: their number is returned and their output is written, or nothing is
written and the failure is the same. The output has a line for each vector, in order: a JSON array
of as many items, each a number which read again stands for the one at its place, or null if that is
not finite. -/
theorem batches_do_not_matter (e : Encoder) (files : FileSystem) :
    (∀ texts vectors, (e.encode files texts).result = .ok vectors →
      ∃ vector : String → Vector32,
        vectors = texts.map vector ∧ ∀ text, (e.encode files [text]).result = .ok [vector text]) ∧
    (∀ configured batchSize verbose texts,
      ((e.rebatched configured batchSize verbose).encode files texts).result =
        (e.encode files texts).result) ∧
    (∀ xs ys vectors, (e.encode files xs).result = .ok vectors →
      ∃ more,
        (e.encode files (xs ++ ys)).result = .ok (vectors ++ more) ∧
        ∀ later,
          ((e.encode files xs).state.encode later ys).result = .ok more ∧
          ((e.encode files xs).state.encode later (xs ++ ys)).result = .ok (vectors ++ more)) ∧
    (∀ input, ∃ ended last, Lines input ended last) ∧
    ∀ input ended last texts, Lines input ended last →
      (ended.map dropReturn ++ if last.isEmpty then [] else [last]) = texts.map Text.toUtf8 →
      texts ≠ [] →
      match (e.encode files texts).result with
      | .ok vectors =>
        (encodeLines files e input).1 = .ok texts.length ∧
        (encodeLines files e input).2.output =
          String.join (vectors.map fun v => Json.writeVector v ++ "\n") ∧
        ∀ v ∈ vectors, ∃ items,
          Json.writeVector v = "[" ++ ",".intercalate items ++ "]" ∧ Json.AreItemsOf v items
      | .error failure =>
        (encodeLines files e input).1 = .error (.component failure) ∧
        (encodeLines files e input).2.output = "" := by
  refine ⟨?_, ?_, ?_, exists_lines, ?_⟩
  · intro texts vectors h
    -- That any texts were encoded says what any other ones would be.
    obtain ⟨vector, able, rfl⟩ := Encoder.encode_eq_ok_iff.mp h
    exact ⟨vector, rfl, fun text => Encoder.encode_eq_ok_iff.mpr ⟨vector, able, rfl⟩⟩
  · intro configured batchSize verbose texts
    rw [Encoder.encode_result, Encoder.encode_result, Encoder.encoding_rebatched]
  · intro xs ys vectors h
    obtain ⟨vector, able, rfl⟩ := Encoder.encode_eq_ok_iff.mp h
    refine ⟨ys.map vector,
      Encoder.encode_eq_ok_iff.mpr ⟨vector, able, List.map_append⟩, fun later => ?_⟩
    -- Encoding the first texts has left the table in the encoder.
    have kept := Encoder.encoding_encode able xs later
    exact ⟨Encoder.encode_eq_ok_iff.mpr ⟨vector, kept, rfl⟩,
      Encoder.encode_eq_ok_iff.mpr ⟨vector, kept, List.map_append⟩⟩
  · intro input ended last texts hLines hTexts someText
    rw [Encoder.encode_result]
    unfold encodeLines
    rw [inputLines_eq hLines, hTexts]
    -- Whether anything is written is decided before the first batch, by the encoder alone.
    cases able : e.encoding files with
    | error failure =>
      have start : (Encoded.mk e 0 "" []).encoder.encoding files = .error failure := able
      obtain ⟨after, run, kept⟩ := encodeFrom_error start (.inr someText)
      rw [run]
      exact ⟨rfl, kept⟩
    | ok vector =>
      have start : (Encoded.mk e 0 "" []).Holds files vector [] := ⟨able, rfl, rfl⟩
      obtain ⟨after, run, held⟩ := encodeFrom_holds start []
      rw [run]
      exact ⟨congrArg Except.ok held.written, held.output, fun v _ => Json.exists_items v⟩

/-- Two lines, the first of which a carriage return and a line feed end, in batches of one. -/
theorem batches_do_not_matter_two_lines :
    let e : Encoder :=
      { base := ⟨[], ⟨true, some 1⟩, .attach "Word2VecEncoder" {}⟩
        config := { modelPath := "v.txt", dimension := 2 }
        tokenizer := Tokenizer.tokenize {}
        table := some (.ofRows 2 [("a", [1, -0.25])]) }
    let input : Bytes := [97, 13, 10, 98]
    Lines input [[97, 13]] [98] ∧
      (∃ vectors, (e.encode .empty ["a", "b"]).result = .ok vectors) ∧
      (encodeLines .empty e input).1 = .ok 2 ∧
      (encodeLines .empty e input).2.output = "[1.0,-0.25]\n[0.0,0.0]\n" := by
  intro e input
  let table : VectorTable := .ofRows 2 [("a", [1, -0.25])]
  have lines : Lines input [[97, 13]] [98] := ⟨rfl, by decide, by decide⟩
  have pooling : e.pooling = .ok .mean := Encoder.pooling_of_name rfl
  have single {text : String} {x y : Float32} (tokens : Tokenizer.tokenize {} text = [text])
      (lookup : table.lookup text = [x, y]) :
      Encoder.vectorOf .mean table (Tokenizer.tokenize {} text) =
        [(0 + x) / Float32.ofNat 1, (0 + y) / Float32.ofNat 1] := by
    rw [tokens, Encoder.vectorOf, List.map_singleton, lookup]
    rfl
  have known := @single "a" 1 (-0.25) (by decide +kernel)
    (by simp [table, VectorTable.lookup, VectorTable.get?, VectorTable.ofRows])
  have unknown := @single "b" 0 0 (by decide +kernel)
    (by simp [table, VectorTable.lookup, VectorTable.get?, VectorTable.ofRows, Pooling.zeros])
  have able : (e.encode .empty ["a", "b"]).result =
      .ok (["a", "b"].map fun text => Encoder.vectorOf .mean table (Tokenizer.tokenize {} text)) :=
    Encoder.encode_eq_ok_iff.mpr
      ⟨_, Encoder.encoding_eq_ok_iff.mpr ⟨.mean, _, rfl, pooling, rfl, rfl⟩, rfl⟩
  have texts : ([[97, 13]].map dropReturn ++ if [98].isEmpty then [] else [[98]]) =
      ["a", "b"].map Text.toUtf8 := by decide +kernel
  -- What the encoder is made of would only be computed again from here on.
  clear_value e
  obtain ⟨counted, output, -⟩ : _ ∧ _ ∧ _ := by
    have run := (batches_do_not_matter e .empty).2.2.2.2 input [[97, 13]] [98] ["a", "b"] lines
      texts (by decide)
    rw [able] at run
    exact run
  rw [List.map_cons, List.map_singleton, known, unknown] at output
  refine ⟨lines, ⟨_, able⟩, counted, output.trans ?_⟩
  decide +kernel

end TextVec
