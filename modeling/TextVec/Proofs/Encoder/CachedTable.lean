import TextVec.Proofs.Encoder.Batching
import TextVec.Proofs.Encoder.Captured

/-!
# The table of an encoder

An encoder reads its table when it is first needed, and keeps it until it is closed or configured
again; training reads it anew. The files may change at any time in between. Main statement: whatever
has happened to an encoder, its table is the one that its present configuration finds in the files
as they were when a table was due to be read for the last time.
-/

namespace TextVec

/-! ## Tables and vectors -/

/-- A table was built, as a configuration says, from the bytes that files have at its path. -/
def VectorTable.IsFrom (table : VectorTable) (config : EncoderConfig) (files : FileSystem) : Prop :=
  ∃ content, files.read config.modelPath = .ok content ∧
    table = (parse config.skipRows config.dimension content).1

namespace Pooling

/-- Adding keeps the length of the sum, however long the other vector is. -/
theorem length_addTo (xs ys : Vector32) : (addTo xs ys).length = xs.length := by
  induction xs generalizing ys with
  | nil => cases ys <;> rfl
  | cons x xs ih =>
    cases ys with
    | nil => rfl
    | cons y ys => simp [addTo, ih]

/-- A pooled vector has the dimension that was asked for, whatever the vectors are. -/
theorem length_pool (pooling : Pooling) (vectors : List Vector32) (dimension : Nat) :
    (pooling.pool vectors dimension).length = dimension := by
  have sum (start : Vector32) : (vectors.foldl addTo start).length = start.length := by
    induction vectors generalizing start with
    | nil => rfl
    | cons v rest ih => rw [List.foldl_cons, ih, length_addTo]
  have zero : (vectors.foldl addTo (zeros dimension)).length = dimension := by
    rw [sum, zeros, List.length_replicate]
  simp only [pool]
  split
  · exact zero
  · rw [List.length_map, zero]

end Pooling

namespace Encoder

/-! ## Uses of the table -/

theorem readTable_of_read {e : Encoder} {files : FileSystem} {content : Bytes}
    (h : files.read e.config.modelPath = .ok content) :
    e.readTable files = .ok (VectorTable.parse e.config.skipRows e.config.dimension content) := by
  simp only [readTable, VectorTable.load, h, Except.map, ofDisk]

theorem readTable_of_error {e : Encoder} {files : FileSystem} {error : DiskError}
    (h : files.read e.config.modelPath = .error error) :
    e.readTable files = .error (.disk error) := by
  simp only [readTable, VectorTable.load, h, Except.map, ofDisk]

theorem needTable_of_table {e : Encoder} {table : VectorTable} (h : e.table = some table)
    (files : FileSystem) : e.needTable files = ⟨.ok table, e, []⟩ := by
  simp only [needTable, h]

theorem needTable_of_read {e : Encoder} {files : FileSystem} {content : Bytes}
    (h : e.table = none) (found : files.read e.config.modelPath = .ok content) :
    (e.needTable files).result =
      .ok (VectorTable.parse e.config.skipRows e.config.dimension content).1 := by
  simp only [needTable_result, h, readTable_of_read found, Except.map]

theorem needTable_of_error {e : Encoder} {files : FileSystem} {error : DiskError}
    (h : e.table = none) (missing : files.read e.config.modelPath = .error error) :
    e.needTable files = ⟨.error (.disk error), e, []⟩ := by
  simp only [needTable, h, readTable_of_error missing]

/-- What a use of the table comes to: it fails and changes nothing, or the encoder has a table then,
which is the one it had or else the one that it finds in the files. -/
inductive Use (e : Encoder) (files : FileSystem) {β : Type} (step : Step Encoder β) : Prop where
  /-- It fails, and the encoder is as before. -/
  | failed (result : step.result.isOk = false) (state : step.state = e)
  /-- It succeeds, and the table is there. -/
  | served (table : VectorTable) (result : step.result.isOk = true)
      (state : step.state = { e with table := some table })
      (source : e.table = some table ∨ e.table = none ∧ table.IsFrom e.config files)

theorem use_needTable (e : Encoder) (files : FileSystem) : Use e files (e.needTable files) := by
  cases present : e.table with
  | some table =>
    rw [needTable_of_table present]
    exact .served table rfl (by rw [← present]) (.inl present)
  | none =>
    cases found : files.read e.config.modelPath with
    | error error =>
      rw [needTable_of_error present found]
      exact .failed rfl rfl
    | ok content =>
      have read := needTable_of_read present found
      refine .served _ ?_ (needTable_state_of_ok read) (.inr ⟨present, content, found, rfl⟩)
      rw [read]
      rfl

/-- Encoding uses the table last, when nothing else can fail any more. -/
theorem use_encode (e : Encoder) (files : FileSystem) (texts : List String) :
    Use e files (e.encode files texts) := by
  unfold encode
  split
  · exact .failed rfl rfl
  · have use := e.use_needTable files
    simp only
    split
    -- The table was not to be had, and then nothing was encoded.
    · rename_i failed
      rcases use with ⟨-, state⟩ | ⟨table, result, -, -⟩
      · exact .failed rfl state
      · rw [failed] at result
        cases result
    · rename_i served
      rcases use with ⟨result, -⟩ | ⟨table, -, state, source⟩
      · rw [served] at result
        cases result
      · exact .served table rfl state source

/-! ## Histories -/

/-- The files in which the table is due to have been read, after an operation: they are those at the
latest successful training. Where none has succeeded since the encoder was made, closed or
configured again, they are those at the first successful use since then. -/
def loadPoint (e : Encoder) (before : Option FileSystem) : Operation → Option FileSystem
  | .own (.train files) => if (e.train files).result.isOk then some files else before
  | .own (.needTable files) =>
    if (e.needTable files).result.isOk then before.or (some files) else before
  | .own (.encode files texts) =>
    if (e.encode files texts).result.isOk then before.or (some files) else before
  | .own (.reconfigure given) => if (e.reconfigure given).result.isOk then none else before
  | .own (.withTokenizer _) => before
  | .close => none
  | .recapture .. | .setTrained _ | .setBatchSize _ | .attach _ => before

/-- What may have happened to an encoder since it was built or loaded, and the files in which its
table is due to have been read, if it is. Every operation meets the files as they are by then, so
that they may change at any time. -/
inductive History : Encoder → Option FileSystem → Prop where
  /-- No table is due in the beginning. -/
  | made {e : Encoder} (h : Component.Made e) : History e none
  /-- An operation, which may make a table due. -/
  | performed {e : Encoder} {point : Option FileSystem} (h : History e point)
      (operation : Operation) : History (e.perform operation) (e.loadPoint point operation)
  /-- What is done in a scope may fail, and the encoder is closed in any case. -/
  | used {e : Encoder} {point : Option FileSystem} {β : Type} (use : Encoder → Step Encoder β)
      (h : History (use e).state point) : History (Component.within e use).state none
  /-- A scope is left, which closes the encoder. -/
  | left {e : Encoder} {point : Option FileSystem} (h : History e point) :
      History (Component.leave e).1 none

/-- The table is there exactly if it is due, and it is the one that was due. -/
structure InStep (e : Encoder) (point : Option FileSystem) : Prop where
  /-- None is due, and there is none. -/
  unloaded : point = none → e.table = none
  /-- One is due, and it is there and from those files. -/
  loaded : ∀ files, point = some files → ∃ table, e.table = some table ∧ table.IsFrom e.config files

/-- It is in step after changes that leave the table and the configuration alone. -/
theorem InStep.of_eq {e e' : Encoder} {point : Option FileSystem} (h : InStep e point)
    (config : e'.config = e.config) (table : e'.table = e.table) : InStep e' point where
  unloaded none := by rw [table, h.unloaded none]
  loaded := by
    rw [table, config]
    exact h.loaded

theorem inStep_none {e : Encoder} (h : e.table = none) : InStep e none := ⟨fun _ => h, nofun⟩

/-- An encoder that was made has not read its table yet. -/
theorem inStep_of_made {e : Encoder} (h : Component.Made e) : InStep e none := by
  apply inStep_none
  cases h with
  | constructed h =>
    cases h with
    | built h =>
      obtain ⟨_, -, -, rfl⟩ := build_eq_ok_iff.mp h
      rfl
    | loaded h =>
      obtain ⟨_, _, _, _, -, -, -, -, -, rfl⟩ := ofBody_eq_ok_iff.mp h
      rfl
  | restored h =>
    obtain ⟨-, -, _, _, _, -, -, hRestored⟩ := Component.ofEnvelope_eq_ok_iff.mp h
    obtain ⟨-, rfl⟩ := restore_eq_ok_iff.mp hRestored
    rfl

/-- A use leaves the table in step: if it was not there, it was due only if the use succeeds. -/
theorem InStep.use {e : Encoder} {point : Option FileSystem} (h : InStep e point)
    {files : FileSystem} {β : Type} {step : Step Encoder β} (use : Use e files step) :
    InStep step.state (if step.result.isOk then point.or (some files) else point) := by
  rcases use with ⟨result, state⟩ | ⟨table, result, state, source⟩
  · rw [state, result]
    exact h
  · rw [state, result, if_pos rfl]
    cases point with
    | some first =>
      -- The table was there, so it is still the one from the first files.
      obtain ⟨present, there, isFrom⟩ := h.loaded first rfl
      rcases source with same | ⟨missing, -⟩
      · rw [there] at same
        cases same
        refine ⟨nofun, fun files due => ?_⟩
        cases due
        exact ⟨table, rfl, isFrom⟩
      · rw [there] at missing
        cases missing
    | none =>
      -- None was due, so none was there and it is the one from these files.
      have missing := h.unloaded rfl
      rcases source with same | ⟨-, isFrom⟩
      · rw [missing] at same
        cases same
      · refine ⟨nofun, fun files due => ?_⟩
        cases due
        exact ⟨table, rfl, isFrom⟩

/-- Training reads the table in any case, unless the file is missing. -/
theorem InStep.train {e : Encoder} {point : Option FileSystem} (h : InStep e point)
    (files : FileSystem) :
    InStep (e.train files).state (if (e.train files).result.isOk then some files else point) := by
  unfold Encoder.train Component.train fit
  cases found : files.read e.config.modelPath with
  | error error =>
    simp only [readTable_of_error found]
    exact h
  | ok content =>
    -- The table that is read now replaces any other.
    simp only [readTable_of_read found]
    refine ⟨nofun, fun now due => ?_⟩
    cases due
    exact ⟨_, rfl, content, found, rfl⟩

/-- Configuring again forgets the table, unless it is refused. -/
theorem InStep.reconfigure {e : Encoder} {point : Option FileSystem} (h : InStep e point)
    (given : GivenConfig) :
    InStep (e.reconfigure given).state
      (if (e.reconfigure given).result.isOk then none else point) := by
  rcases e.reconfigure_cases given with ⟨config, rfl, valid⟩ | ⟨failure, failed⟩
  · rw [e.reconfigure_of_valid valid]
    exact inStep_none rfl
  · rw [failed]
    exact h

/-- Every operation leaves the table in step with the files in which it is due to be read. -/
theorem InStep.perform {e : Encoder} {point : Option FileSystem} (h : InStep e point)
    (operation : Operation) : InStep (e.perform operation) (e.loadPoint point operation) := by
  cases operation with
  | recapture given raw =>
    obtain ⟨arguments, state⟩ := e.recapture_state given raw
    have recaptured : e.perform (.recapture given raw) = _ := state
    rw [recaptured]
    exact h.of_eq rfl rfl
  | setTrained value => exact h.of_eq rfl rfl
  | setBatchSize value => exact h.of_eq rfl rfl
  | attach settings => exact h.of_eq rfl rfl
  | close =>
    have closed : e.perform .close = { e with table := none } := e.close_state
    rw [closed]
    exact inStep_none rfl
  | own action =>
    cases action with
    | reconfigure given => exact h.reconfigure given
    | train files => exact h.train files
    | encode files texts => exact h.use (e.use_encode files texts)
    | needTable files => exact h.use (e.use_needTable files)
    | withTokenizer tokenizer => exact h.of_eq rfl rfl

/-- After any history the table is in step with the files in which it is due. -/
theorem inStep_of_history {e : Encoder} {point : Option FileSystem} (h : History e point) :
    InStep e point := by
  -- On the history; a scope ends by closing.
  induction h with
  | made h => exact inStep_of_made h
  | performed _ operation ih => exact ih.perform operation
  | used use _ ih => exact ih.perform .close
  | left _ ih =>
    rw [Component.state_leave]
    exact ih.perform .close

/-! ## No table is stale -/

/-- With a table the files do not count. -/
theorem encode_of_table {e : Encoder} {table : VectorTable} (h : e.table = some table)
    (now later : FileSystem) (texts : List String) : e.encode now texts = e.encode later texts := by
  simp only [encode, needTable_of_table h]

/-- Without one, and without a file to read it from, encoding fails. -/
theorem encode_of_error {e : Encoder} {files : FileSystem} {error : DiskError}
    (h : e.table = none) (missing : files.read e.config.modelPath = .error error)
    (texts : List String) :
    (∃ failure, (e.encode files texts).result = .error failure) ∧
      (e.encode files texts).state = e := by
  unfold encode
  split
  · exact ⟨⟨_, rfl⟩, rfl⟩
  · simp only [needTable_of_error h missing]
    exact ⟨⟨_, rfl⟩, trivial⟩

/-- The table that is needed is one of the files in which it was due to be read, by this use if not
before. -/
theorem InStep.needed {e : Encoder} {point : Option FileSystem} (h : InStep e point)
    {files : FileSystem} {table : VectorTable} (needed : (e.needTable files).result = .ok table) :
    ∃ source, point.or (some files) = some source ∧ table.IsFrom e.config source := by
  have ok : (e.needTable files).result.isOk = true := by rw [needed]; rfl
  have after := h.use (e.use_needTable files)
  -- After this use a table is due, so there is one and it is the one that was served.
  rw [if_pos ok, needTable_state_of_ok needed] at after
  obtain ⟨source, due⟩ : ∃ source, point.or (some files) = some source := by
    cases point <;> exact ⟨_, rfl⟩
  obtain ⟨there, same, isFrom⟩ := after.loaded source due
  cases same
  exact ⟨source, due, isFrom⟩

/-- **The table of an encoder is never stale.** Whatever has happened to the encoder, and to the
files in between, its table is there exactly if it is due, and then it is the one that its
configuration finds in the files in which it was due to be read. Until another one is due, no change
of the files counts. If none is due, a use that finds no file fails and changes nothing, and one
that finds a file reads that. So a text is encoded as one vector of the configured dimension, by
such a table. -/
theorem table_never_stale {e : Encoder} {point : Option FileSystem} (history : History e point) :
    (point = none → e.table = none) ∧
    (∀ source, point = some source → ∃ content,
      source.read e.config.modelPath = .ok content ∧
      e.table = some (VectorTable.parse e.config.skipRows e.config.dimension content).1) ∧
    (∀ source, point = some source → ∀ now later,
      e.needTable now = e.needTable later ∧ ∀ texts, e.encode now texts = e.encode later texts) ∧
    (point = none → ∀ files,
      (∀ error, files.read e.config.modelPath = .error error →
        e.needTable files = ⟨.error (.disk error), e, []⟩ ∧
        ∀ texts, (∃ failure, (e.encode files texts).result = .error failure) ∧
          (e.encode files texts).state = e) ∧
      ∀ content, files.read e.config.modelPath = .ok content →
        (e.needTable files).result =
          .ok (VectorTable.parse e.config.skipRows e.config.dimension content).1) ∧
    ∀ files texts vectors, (e.encode files texts).result = .ok vectors →
      vectors.length = texts.length ∧
      (∀ v ∈ vectors, v.length = e.config.dimension.toNat) ∧
      ∃ source content pooling,
        e.loadPoint point (.own (.encode files texts)) = some source ∧
        source.read e.config.modelPath = .ok content ∧
        vectors = texts.map fun text =>
          vectorOf pooling (VectorTable.parse e.config.skipRows e.config.dimension content).1
            (e.tokenizer text) := by
  have inStep := inStep_of_history history
  refine ⟨inStep.unloaded, ?_, ?_, ?_, ?_⟩
  · intro source due
    obtain ⟨table, there, content, read, rfl⟩ := inStep.loaded source due
    exact ⟨content, read, there⟩
  · intro source due now later
    obtain ⟨table, there, -⟩ := inStep.loaded source due
    refine ⟨?_, encode_of_table there now later⟩
    rw [needTable_of_table there, needTable_of_table there]
  · intro none files
    have missing := inStep.unloaded none
    exact ⟨fun error noFile =>
      ⟨needTable_of_error missing noFile, encode_of_error missing noFile⟩,
      fun content found => needTable_of_read missing found⟩
  · intro files texts vectors ok
    obtain ⟨vector, able, rfl⟩ := encode_eq_ok_iff.mp ok
    obtain ⟨pooling, table, -, -, needed, rfl⟩ := encoding_eq_ok_iff.mp able
    -- The vectors were made by the table that was served, which is from the files where it was due.
    obtain ⟨source, due, content, read, rfl⟩ := inStep.needed needed
    refine ⟨List.length_map _, ?_, source, content, pooling, ?_, read, rfl⟩
    · intro v member
      obtain ⟨text, -, rfl⟩ := List.mem_map.mp member
      exact Pooling.length_pool pooling _ _
    · have succeeded : (e.encode files texts).result.isOk = true := by rw [ok]; rfl
      simp only [loadPoint, succeeded, if_true]
      exact due

/-- The table is needed in vain, then found, and needed again when the file has changed. -/
theorem table_never_stale_changed :
    let e₀ := fresh {} { modelPath := "v.txt", dimension := 1 } ⟨true, some 64⟩
    let content : Bytes := [97, 32, 49, 10, 98, 32, 49, 10]
    let old : FileSystem := ⟨[(["v.txt"], .file content)]⟩
    let new : FileSystem := ⟨[(["v.txt"], .file [98, 32, 50, 10])]⟩
    let e := (e₀.perform (.own (.needTable .empty))).perform (.own (.needTable old))
    History e (some old) ∧
      e.table = some (VectorTable.parse 1 1 content).1 ∧
      e.needTable new = e.needTable old ∧
      ∀ texts vectors, (e.encode new texts).result = .ok vectors → ∀ v ∈ vectors, v.length = 1 := by
  intro e₀ content old new e
  have built : Component.build {} (EncoderConfig.given { modelPath := "v.txt", dimension := 1 }) {} =
      .ok e₀ := build_given rfl {}
  have path : e₀.config.modelPath = "v.txt" := rfl
  have missing : FileSystem.empty.read e₀.config.modelPath = .error .notFound := by
    rw [path]
    rfl
  have found : old.read e₀.config.modelPath = .ok content := by
    rw [path]
    rfl
  have vain := needTable_of_error (e := e₀) rfl missing
  have served := needTable_of_read (e := e₀) rfl found
  -- The first attempt finds no file and leaves everything as it was.
  have first : e₀.perform (.own (.needTable .empty)) = e₀ := congrArg Step.state vain
  have unread : e₀.loadPoint none (.own (.needTable .empty)) = none := by
    simp only [loadPoint, vain]
    rfl
  have due : e₀.loadPoint none (.own (.needTable old)) = some old := by
    simp only [loadPoint, served]
    rfl
  have again : e = e₀.perform (.own (.needTable old)) := by
    show (e₀.perform (.own (.needTable .empty))).perform (.own (.needTable old)) = _
    rw [first]
  have history : History e (some old) := by
    have start : History e₀ none := .made (.constructed (.built built))
    have steps := (start.performed (.own (.needTable .empty))).performed (.own (.needTable old))
    rw [unread, first, due] at steps
    rw [again]
    exact steps
  have same : e.config = e₀.config := by
    have state : e₀.perform (.own (.needTable old)) = _ := needTable_state_of_ok served
    rw [again, state]
  obtain ⟨-, loaded, unchanged, -, encoded⟩ := table_never_stale history
  obtain ⟨bytes, read, there⟩ := loaded old rfl
  rw [same, found, Except.ok.injEq] at read
  subst read
  rw [same] at there encoded
  exact ⟨history, there, (unchanged old rfl new old).1,
    fun texts vectors ok => (encoded new texts vectors ok).2.1⟩

end Encoder

end TextVec
