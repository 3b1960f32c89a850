import TextVec.Proofs.Centroid.Run
import TextVec.Proofs.Encoder.CachedTable

/-!
# Operations that fail

An operation may fail half-way: after good rows comes a bad one, the file of a table is gone while
an older table is still there, a configuration is refused. Main statement: a component on which
training, configuring again, encoding or a look-up failed is what it was before, so that in a run
all operations that fail can be left out. And whether an encoder can encode is decided by the
encoder and the files alone, never by the texts.
-/

namespace TextVec

namespace Component

variable {α Config State Own : Type} [Component α Config State]

/-! ## Runs without the operations that fail -/

/-- The operations of a run but for those that fail. -/
def effective (act : Own → α → α) (fails : α → Operation Config Own → Bool) (component : α) :
    List (Operation Config Own) → List (Operation Config Own)
  | [] => []
  | operation :: rest =>
    let later := effective act fails (perform act component operation) rest
    if fails component operation then later else operation :: later

/-- If operations that fail change nothing, a run without them leads to the same component. -/
theorem run_effective {act : Own → α → α} {fails : α → Operation Config Own → Bool}
    (unchanged : ∀ c operation, fails c operation = true → perform act c operation = c)
    (component : α) (operations : List (Operation Config Own)) :
    run act component (effective act fails component operations) =
      run act component operations := by
  -- By induction on the run, from each component that it comes to.
  induction operations generalizing component with
  | nil => rfl
  | cons operation rest ih =>
    have whole : run act component (operation :: rest) =
        run act (perform act component operation) rest := rfl
    cases failed : fails component operation with
    | true =>
      -- The next operation meets the same component, whether this one was tried or not.
      have same := unchanged component operation failed
      have tail := ih component
      simp only [effective, failed, if_true, same]
      rw [whole, same, tail]
    | false =>
      -- This operation stays, and does the same in both runs.
      simp only [effective, failed, Bool.false_eq_true, if_false]
      rw [whole]
      exact ih (perform act component operation)

end Component

/-! ## Centroids -/

namespace Centroid

/-- Whether an operation on a centroid is a training that fails. -/
def fails (c : Centroid) : Operation → Bool
  | .own (.train rows) => !(c.train rows).result.isOk
  | _ => false

theorem train_state_of_error {c : Centroid} {rows : List (List Double)} {failure : Failure}
    (h : (c.train rows).result = .error failure) : (c.train rows).state = c := by
  rcases c.train_cases rows with ⟨mean, -, ok, -⟩ | ⟨_, -, state⟩
  · rw [ok] at h
    cases h
  · exact state

theorem perform_of_fails {c : Centroid} {operation : Operation} (h : c.fails operation = true) :
    c.perform operation = c := by
  cases operation with
  | own action =>
    cases action with
    | train rows =>
      cases result : (c.train rows).result with
      | ok _ => simp [fails, result, Except.isOk, Except.toBool] at h
      | error failure => exact train_state_of_error result
    | distance point => simp [fails] at h
    | failToClose value => simp [fails] at h
  | _ => simp [fails] at h

end Centroid

/-! ## Encoders -/

namespace Encoder

/-- Whether an operation on an encoder is one of its own that fails. -/
def fails (e : Encoder) : Operation → Bool
  | .own (.reconfigure given) => !(e.reconfigure given).result.isOk
  | .own (.train files) => !(e.train files).result.isOk
  | .own (.encode files texts) => !(e.encode files texts).result.isOk
  | .own (.needTable files) => !(e.needTable files).result.isOk
  | _ => false

/-- Training reads the table before anything is touched, so an older table stays if that fails. -/
theorem train_state_of_error {e : Encoder} {files : FileSystem} {failure : Failure}
    (h : (e.train files).result = .error failure) : (e.train files).state = e := by
  unfold train Component.train fit at h ⊢
  cases read : e.readTable files with
  | ok table =>
    simp only [read] at h
    cases h
  | error _ => rfl

/-- A configuration is refused because it is not valid, or, after that was checked, because its path
is no text; either is found before anything is touched. -/
theorem reconfigure_state_of_error {e : Encoder} {given : GivenConfig} {failure : Failure}
    (h : (e.reconfigure given).result = .error failure) : (e.reconfigure given).state = e := by
  rcases e.reconfigure_cases given with ⟨config, rfl, valid⟩ | ⟨_, failed⟩
  · rw [e.reconfigure_of_valid valid] at h
    cases h
  · rw [failed]

/-- A use of the table that fails has changed nothing. -/
theorem Use.state_of_error {e : Encoder} {files : FileSystem} {β : Type} {step : Step Encoder β}
    (use : Use e files step) {failure : Failure} (h : step.result = .error failure) :
    step.state = e := by
  rcases use with ⟨-, state⟩ | ⟨table, served, -, -⟩
  · exact state
  · rw [h] at served
    cases served

theorem perform_of_fails {e : Encoder} {operation : Operation} (h : e.fails operation = true) :
    e.perform operation = e := by
  -- Each operation of its own either succeeds, and then does not count as failed, or changes
  -- nothing.
  have failed {β : Type} {result : Result β} (h : (!result.isOk) = true) :
      ∃ failure, result = .error failure := by
    cases result with
    | ok _ => simp [Except.isOk, Except.toBool] at h
    | error failure => exact ⟨failure, rfl⟩
  cases operation with
  | own action =>
    cases action with
    | reconfigure given =>
      obtain ⟨_, result⟩ := failed h
      exact reconfigure_state_of_error result
    | train files =>
      obtain ⟨_, result⟩ := failed h
      exact train_state_of_error result
    | encode files texts =>
      obtain ⟨_, result⟩ := failed h
      exact (e.use_encode files texts).state_of_error result
    | needTable files =>
      obtain ⟨_, result⟩ := failed h
      exact (e.use_needTable files).state_of_error result
    | withTokenizer tokenizer => simp [fails] at h
  | _ => simp [fails] at h

/-! ## Whether an encoder can encode -/

/-- What encoding comes to by the encoder and the files, for all texts alike. The checks are made in
this order. That encoding succeeds in every other case takes for granted that vectors of the
configured dimension fit into memory. -/
structure EncodingDecided (e : Encoder) (files : FileSystem) : Prop where
  /-- That it is trained is checked first. -/
  untrained : e.base.properties.isTrained = false → ∀ texts,
    (e.encode files texts).result = .error (.untrained "encode")
  /-- Then that its way of pooling is known. -/
  unsupported : e.base.properties.isTrained = true → Pooling.ofName? e.config.pooling = none →
    ∀ texts, (e.encode files texts).result = .error (.unsupported e.config.pooling)
  /-- Then the table is needed, and its file may be missing. -/
  unread : e.base.properties.isTrained = true → Pooling.ofName? e.config.pooling ≠ none →
    e.table = none → ∀ error, files.read e.config.modelPath = .error error →
    ∀ texts, (e.encode files texts).result = .error (.disk error)
  /-- In all other cases there are vectors. -/
  encoded : e.base.properties.isTrained = true → Pooling.ofName? e.config.pooling ≠ none →
    (e.table ≠ none ∨ ∃ content, files.read e.config.modelPath = .ok content) →
    ∀ texts, ∃ vectors, (e.encode files texts).result = .ok vectors

theorem requireTrained_of_trained {e : Encoder} (h : e.base.properties.isTrained = true)
    (operation : String) : Component.requireTrained e operation = .ok () := if_pos h

theorem requireTrained_of_untrained {e : Encoder} (h : e.base.properties.isTrained = false)
    (operation : String) : Component.requireTrained e operation = .error (.untrained operation) :=
  if_neg (by rw [show (Component.properties e).isTrained = false from h]; decide)

/-- A table is served if it is there, or if there is a file to read it from. -/
theorem exists_needTable {e : Encoder} {files : FileSystem}
    (h : e.table ≠ none ∨ ∃ content, files.read e.config.modelPath = .ok content) :
    ∃ table, (e.needTable files).result = .ok table := by
  cases present : e.table with
  | some table => exact ⟨table, by rw [needTable_of_table present]⟩
  | none =>
    rcases h with there | ⟨content, found⟩
    · exact absurd present there
    · exact ⟨_, needTable_of_read present found⟩

/-- Each check is reached if those before it succeed. -/
theorem encodingDecided (e : Encoder) (files : FileSystem) : EncodingDecided e files where
  untrained h texts := by
    rw [encode_result, encoding, requireTrained_of_untrained h]
    rfl
  unsupported trained unknown texts := by
    rw [encode_result, encoding, requireTrained_of_trained trained]
    simp only [pooling, unknown]
    rfl
  unread trained known missing error noFile texts := by
    obtain ⟨strategy, named⟩ := Option.ne_none_iff_exists'.mp known
    rw [encode_result, encoding, requireTrained_of_trained trained]
    simp only [pooling, named, needTable_of_error missing noFile]
    rfl
  encoded trained known source texts := by
    obtain ⟨strategy, named⟩ := Option.ne_none_iff_exists'.mp known
    obtain ⟨table, served⟩ := exists_needTable source
    have hPooling : e.pooling = .ok strategy := by simp only [pooling, named]
    -- All that encoding needs is there, and then it does not fail on any text.
    have able := encoding_eq_ok_iff.mpr
      ⟨strategy, table, requireTrained_of_trained trained "encode", hPooling, served, rfl⟩
    exact ⟨_, encode_eq_ok_iff.mpr ⟨_, able, rfl⟩⟩

end Encoder

/-! ## Nothing of a failure remains -/

/-- **A failed operation changes nothing.** A centroid on which training fails, and an encoder on
which training, configuring again, encoding or a look-up fails, is exactly what it was before; so in
every run the operations that fail can be left out. Training a centroid fails exactly if there is no
row or one of a wrong length. Whether an encoder can encode, and why not, does not depend on the
texts; where there is memory for vectors of the configured dimension, there is no other reason why
not. -/
theorem failed_operation_changes_nothing :
    (∀ (c : Centroid) (rows : List (List Double)),
      ((c.train rows).result = .ok () ↔
        rows ≠ [] ∧ ∀ row ∈ rows, row.length = c.config.dims.toNat) ∧
      ∀ failure, (c.train rows).result = .error failure → (c.train rows).state = c) ∧
    (∀ (c : Centroid) (operations : List Centroid.Operation),
      c.run (Component.effective Centroid.act Centroid.fails c operations) = c.run operations) ∧
    (∀ (e : Encoder) (files : FileSystem) (failure : Failure),
      ((e.train files).result = .error failure → (e.train files).state = e) ∧
      (∀ given, (e.reconfigure given).result = .error failure →
        (e.reconfigure given).state = e) ∧
      (∀ texts, (e.encode files texts).result = .error failure →
        (e.encode files texts).state = e) ∧
      ((e.needTable files).result = .error failure → (e.needTable files).state = e)) ∧
    (∀ (e : Encoder) (operations : List Encoder.Operation),
      e.run (Component.effective Encoder.act Encoder.fails e operations) = e.run operations) ∧
    ∀ (e : Encoder) (files : FileSystem), Encoder.EncodingDecided e files := by
  refine ⟨?_, ?_, ?_, ?_, Encoder.encodingDecided⟩
  · intro c rows
    exact ⟨c.train_eq_ok_iff rows, fun failure => Centroid.train_state_of_error⟩
  · intro c operations
    exact Component.run_effective (fun c operation => Centroid.perform_of_fails) c operations
  · intro e files failure
    refine ⟨Encoder.train_state_of_error, fun given => Encoder.reconfigure_state_of_error, ?_, ?_⟩
    · intro texts
      exact (e.use_encode files texts).state_of_error
    · exact (e.use_needTable files).state_of_error
  · intro e operations
    exact Component.run_effective (fun e operation => Encoder.perform_of_fails) e operations

/-- A bad row after a good one, and an encoder with an older table whose file is gone and whose
pooling is not a known one, which is configured again without a dimension, and with a path that is
no text: everything fails, and nothing has changed. -/
theorem failed_operation_changes_nothing_bad_row :
    let c : Centroid :=
      { base := ⟨[], {}, .attach "Centroid" {}⟩, config := ⟨1, none, .one⟩, centroid := [.one] }
    let rows : List (List Double) := [[.one], [.one, .one]]
    let unread := Encoder.fresh {} { modelPath := "v.txt", pooling := "max" } ⟨true, some 64⟩
    let e : Encoder := { unread with table := some (.ofRows 1 [("a", [1])]) }
    let refused := EncoderConfig.given { modelPath := "w.txt", dimension := 0 }
    let noText : GivenConfig := { modelPath := [0xFF] }
    (c.train rows).result = .error (.misconfigured (.rowLength 2 1)) ∧
      (c.train rows).state = c ∧
      (e.train .empty).result = .error (.disk .notFound) ∧ (e.train .empty).state = e ∧
      (e.reconfigure refused).result = .error (.misconfigured .zeroDimension) ∧
      (e.reconfigure refused).state = e ∧
      (e.reconfigure noText).result = .error (.misconfigured .pathNotText) ∧
      (e.reconfigure noText).state = e ∧
      (∀ texts, (e.encode .empty texts).result = .error (.unsupported "max") ∧
        (e.encode .empty texts).state = e) ∧
      (unread.needTable .empty).result = .error (.disk .notFound) ∧
      (unread.needTable .empty).state = unread ∧
      e.run [.own (.train .empty), .own (.reconfigure refused), .close] = e.run [.close] := by
  intro c rows unread e refused noText
  obtain ⟨centroids, -, encoders, runs, decided⟩ := failed_operation_changes_nothing
  have badRow : (c.train rows).result = .error (.misconfigured (.rowLength 2 1)) := rfl
  have gone : FileSystem.empty.read "v.txt" = .error .notFound := rfl
  have untrainable : (e.train .empty).result = .error (.disk .notFound) := by
    simp only [Encoder.train, Component.train, Encoder.fit, Encoder.readTable_of_error (e := e) gone]
  have invalid : (e.reconfigure refused).result = .error (.misconfigured .zeroDimension) := rfl
  have unwritable : (e.reconfigure noText).result = .error (.misconfigured .pathNotText) := by
    rw [e.reconfigure_of_notText rfl (GivenConfig.textual_of_none (by decide +kernel))]
  have unknown : Pooling.ofName? e.config.pooling = none := by decide +kernel
  have unsupported := (decided e .empty).unsupported rfl unknown
  have missing : (unread.needTable .empty).result = .error (.disk .notFound) := by
    rw [Encoder.needTable_of_error (e := unread) rfl gone]
  refine ⟨badRow, (centroids c rows).2 _ badRow, untrainable, (encoders e .empty _).1 untrainable,
    invalid, (encoders e .empty _).2.1 _ invalid, unwritable,
    (encoders e .empty _).2.1 _ unwritable, ?_, missing,
    (encoders unread .empty _).2.2.2 missing, ?_⟩
  · intro texts
    exact ⟨unsupported texts, (encoders e .empty _).2.2.1 texts (unsupported texts)⟩
  · have left := runs e [.own (.train .empty), .own (.reconfigure refused), .close]
    have trained : e.fails (.own (.train .empty)) = true := by
      simp only [Encoder.fails, untrainable]
      rfl
    have kept : e.perform (.own (.train .empty)) = e := Encoder.perform_of_fails trained
    have alone : Component.effective Encoder.act Encoder.fails e
        [.own (.train .empty), .own (.reconfigure refused), .close] = [.close] := by
      simp only [Component.effective, trained, kept, if_true]
      rfl
    rw [← left, alone]

end TextVec
