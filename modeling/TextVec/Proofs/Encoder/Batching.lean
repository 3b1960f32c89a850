import TextVec.Proofs.Encoder.Run
import TextVec.Proofs.Outcome

/-!
# Encoding in batches

An encoder that can encode at all has a function from texts to vectors, and encoding applies that to
one text after the other. How many texts are taken at a time, and whether batches are reported, does
not matter. Main statements: the result of encoding is given by that function, and the function
stays the same once the table is there.
-/

namespace TextVec

/-- A pooling is found by its name. -/
theorem Pooling.ofName?_name (pooling : Pooling) : ofName? pooling.name = some pooling := by
  cases pooling
  decide +kernel

namespace Encoder

/-! ## Pieces -/

theorem flatten_piecesFrom {size fuel : Nat} {xs : List α} (positive : 0 < size)
    (enough : xs.length ≤ fuel) : (piecesFrom size fuel xs).flatten = xs := by
  -- On how many steps are left, since what a step leaves is no part of the list by its
  -- constructors.
  induction fuel generalizing xs with
  | zero =>
    rw [List.eq_nil_of_length_eq_zero (Nat.le_zero.mp enough)]
    rfl
  | succ fuel ih =>
    cases xs with
    | nil => rfl
    | cons x rest =>
      -- A piece takes away at least one item, so the fuel is enough for what it leaves.
      have shorter : ((x :: rest).drop size).length ≤ fuel := by
        rw [List.length_drop]
        omega
      rw [piecesFrom, List.flatten_cons, ih shorter, List.take_append_drop]
      exact List.cons_ne_nil x rest

/-- Cutting a list into pieces neither drops nor repeats an item, nor changes their order. -/
theorem flatten_pieces {size : Nat} (positive : 0 < size) (xs : List α) :
    (pieces size xs).flatten = xs :=
  flatten_piecesFrom positive (Nat.le_refl _)

/-- What is done to one item after the other can be done piece by piece. -/
theorem flatMap_pieces {size : Nat} (positive : 0 < size) (f : α → β) (xs : List α) :
    (pieces size xs).flatMap (List.map f) = xs.map f := by
  rw [List.flatMap_def, ← List.map_flatten, flatten_pieces positive]

theorem batchSize_pos (e : Encoder) : 0 < e.batchSize :=
  Nat.lt_of_lt_of_le Nat.one_pos (Nat.le_max_left ..)

/-! ## The function of an encoder -/

/-- The vectors that an encoder gives to texts, if it can encode at all. -/
def encoding (e : Encoder) (files : FileSystem) : Result (String → Vector32) := do
  Component.requireTrained e "encode"
  let pooling ← e.pooling
  let table ← (e.needTable files).result
  return fun text => vectorOf pooling table (e.tokenizer text)

/-- **Encoding applies the function of the encoder** to one text after the other. It fails exactly
if the encoder has none, whatever the texts are. -/
theorem encode_result (e : Encoder) (files : FileSystem) (texts : List String) :
    (e.encode files texts).result = (e.encoding files).map fun vector => texts.map vector := by
  unfold encode encoding
  cases Component.requireTrained e "encode" with
  | error failure => rfl
  | ok _ =>
    cases e.pooling with
    | error failure => rfl
    | ok pooling =>
      simp only [bind, Except.bind]
      cases (e.needTable files).result with
      | error failure => rfl
      -- The batches are pieces of the texts, and what is done to each text is the same in all of
      -- them.
      | ok table => exact congrArg Except.ok (flatMap_pieces e.batchSize_pos _ texts)

/-- Texts are encoded if the encoder has a function, and then by that. -/
theorem encode_eq_ok_iff {e : Encoder} {files : FileSystem} {texts : List String}
    {vectors : List Vector32} :
    (e.encode files texts).result = .ok vectors ↔
      ∃ vector, e.encoding files = .ok vector ∧ texts.map vector = vectors := by
  rw [encode_result, Outcome.map_eq_ok_iff]

theorem pooling_of_name {e : Encoder} {pooling : Pooling} (h : e.config.pooling = pooling.name) :
    e.pooling = .ok pooling := by
  simp only [Encoder.pooling, h, Pooling.ofName?_name]

/-- The table that is needed is the one which is there, or else the one which is read. -/
theorem needTable_result (e : Encoder) (files : FileSystem) :
    (e.needTable files).result =
      match e.table with
      | some table => .ok table
      | none => (e.readTable files).map Prod.fst := by
  unfold needTable
  cases e.table with
  | some table => rfl
  | none => cases e.readTable files <;> rfl

/-- A table that was needed is there. -/
theorem needTable_state_of_ok {e : Encoder} {files : FileSystem} {table : VectorTable}
    (h : (e.needTable files).result = .ok table) :
    (e.needTable files).state = { e with table := some table } := by
  obtain ⟨base, config, tokenizer, present⟩ := e
  unfold needTable at h ⊢
  -- A table that is there is needed as it is, and then nothing changes at all.
  cases present with
  | some present =>
    cases h
    rfl
  | none =>
    simp only at h ⊢
    split at h
    · cases h
    · cases h
      simp

/-- An encoder has a function exactly if it is trained and has a pooling and a table. -/
theorem encoding_eq_ok_iff {e : Encoder} {files : FileSystem} {vector : String → Vector32} :
    e.encoding files = .ok vector ↔
      ∃ pooling table,
        Component.requireTrained e "encode" = .ok () ∧ e.pooling = .ok pooling ∧
        (e.needTable files).result = .ok table ∧
        vector = fun text => vectorOf pooling table (e.tokenizer text) := by
  unfold encoding
  rw [Outcome.bind_eq_ok_iff]
  -- The three conditions are checked one after the other, and the table is read last.
  constructor
  · rintro ⟨⟨⟩, trained, h⟩
    obtain ⟨pooling, hPooling, h⟩ := Outcome.bind_eq_ok_iff.mp h
    obtain ⟨table, hTable, h⟩ := Outcome.bind_eq_ok_iff.mp h
    exact ⟨pooling, table, trained, hPooling, hTable, (Outcome.pure_eq_ok_iff.mp h).symm⟩
  · rintro ⟨pooling, table, trained, hPooling, hTable, rfl⟩
    refine ⟨(), trained, ?_⟩
    rw [hPooling, Outcome.ok_bind, hTable]
    rfl

/-- Encoding keeps the function of the encoder, and then it needs no file any more. -/
theorem encoding_encode {e : Encoder} {files : FileSystem} {vector : String → Vector32}
    (h : e.encoding files = .ok vector) (texts : List String) (later : FileSystem) :
    (e.encode files texts).state.encoding later = .ok vector := by
  obtain ⟨pooling, table, trained, hPooling, hTable, rfl⟩ := encoding_eq_ok_iff.mp h
  -- Only the table has changed: it is the one that was needed, and now it is there.
  have loaded : (e.encode files texts).state = { e with table := some table } := by
    simp only [encode, trained, hPooling, hTable, bind, Except.bind]
    exact needTable_state_of_ok hTable
  have samePooling : Encoder.pooling { e with table := some table } = e.pooling := by
    simp only [Encoder.pooling]
  -- From here on the files have no part, since the table is there.
  rw [loaded]
  exact encoding_eq_ok_iff.mpr ⟨pooling, table, trained, samePooling.trans hPooling, rfl, rfl⟩

/-! ## Batches do not matter -/

/-- The same encoder with other batches: by its configuration, by its properties, or reported or
not. -/
def rebatched (e : Encoder) (configured : UInt64) (batchSize : Option UInt64) (verbose : Bool) :
    Encoder :=
  { e with
    config := { e.config with batchSize := configured }
    base :=
      { e.base with
        properties := { e.base.properties with batchSize }
        handles := { e.base.handles with verbose } } }

/-- Batches are no part of the function of an encoder. -/
theorem encoding_rebatched (e : Encoder) (configured : UInt64) (batchSize : Option UInt64)
    (verbose : Bool) (files : FileSystem) :
    (e.rebatched configured batchSize verbose).encoding files = e.encoding files := by
  unfold encoding
  -- The table depends on the other fields of the configuration only.
  rw [needTable_result, needTable_result]
  rfl

end Encoder

end TextVec
