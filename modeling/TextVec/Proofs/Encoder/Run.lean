import TextVec.Encoder.Basic
import TextVec.Proofs.Component.Run

/-!
# Runs of encoders

The operations of an encoder, and what each of them leaves alone: only configuring an encoder again
changes its configuration, and using or training it touches no more than its table and the property
that says it is trained.
-/

namespace TextVec.Encoder

/-- What an encoder allows beside the operations of all components. Files may differ from one
operation to the next. -/
inductive Action where
  /-- Takes another configuration, which may be refused. -/
  | reconfigure (given : GivenConfig)
  /-- Reads the table anew. -/
  | train (files : FileSystem)
  /-- Encodes texts, for which the table may have to be read. -/
  | encode (files : FileSystem) (texts : List String)
  /-- Reads the table if it is not there. -/
  | needTable (files : FileSystem)
  /-- Takes any other way to cut texts into tokens. -/
  | withTokenizer (tokenizer : String → List String)

/-- The encoder after an operation of its own, which may have failed. -/
def act (action : Action) (e : Encoder) : Encoder :=
  match action with
  | .reconfigure given => (e.reconfigure given).state
  | .train files => (e.train files).state
  | .encode files texts => (e.encode files texts).state
  | .needTable files => (e.needTable files).state
  | .withTokenizer tokenizer => e.withTokenizer tokenizer

/-- An operation on an encoder. -/
abbrev Operation := Component.Operation GivenConfig Action

/-- The encoder after one operation. -/
abbrev perform (e : Encoder) (operation : Operation) : Encoder :=
  Component.perform act e operation

/-- The encoder after a run of operations. -/
abbrev run (e : Encoder) (operations : List Operation) : Encoder :=
  Component.run act e operations

/-! ## What operations leave alone -/

/-- Needing the table changes no more than the table. -/
theorem needTable_state (e : Encoder) (files : FileSystem) :
    ∃ table, (e.needTable files).state = { e with table } := by
  unfold needTable
  split
  · exact ⟨e.table, rfl⟩
  -- Without one, it is read, and the encoder changes only if that succeeds.
  · split
    · exact ⟨e.table, rfl⟩
    · exact ⟨_, rfl⟩

/-- Encoding changes no more than the table. -/
theorem encode_state (e : Encoder) (files : FileSystem) (texts : List String) :
    ∃ table, (e.encode files texts).state = { e with table } := by
  unfold encode
  split
  · exact ⟨e.table, rfl⟩
  · -- Whether the table is there in the end or not, nothing else was touched.
    obtain ⟨table, h⟩ := e.needTable_state files
    simp only
    split <;> exact ⟨table, h⟩

/-- Training changes no more than the table, and the property that says that the encoder is
trained. -/
theorem train_state (e : Encoder) (files : FileSystem) :
    ∃ table trained, (e.train files).state =
      { e with
        table
        base :=
          { e.base with
            properties := { e.base.properties with isTrained := trained } } } := by
  unfold train Component.train fit
  cases h : e.readTable files with
  | error failure => exact ⟨e.table, e.base.properties.isTrained, rfl⟩
  | ok read => exact ⟨some read.1, true, rfl⟩

/-- Closing changes no more than the table. -/
theorem close_state (e : Encoder) : e.close.state = { e with table := none } := by
  obtain ⟨base, config, tokenizer, table⟩ := e
  cases table <;> rfl

/-- Capturing other arguments changes no more than those. -/
theorem recapture_state (e : Encoder) (given : GivenConfig) (raw : RawArguments) :
    ∃ arguments, (Component.recapture e given raw).state =
      { e with base := { e.base with arguments } } := by
  unfold Component.recapture
  split
  · exact ⟨_, rfl⟩
  · exact ⟨e.base.arguments, rfl⟩

/-- Only configuring an encoder again changes its configuration, and only that or capturing other
arguments changes the captured ones. -/
theorem perform_frame (e : Encoder) (operation : Operation) :
    (∃ given, operation = .own (.reconfigure given)) ∨
      (e.perform operation).config = e.config ∧
        (operation.isRecapture = false →
          (e.perform operation).base.arguments = e.base.arguments) := by
  -- Each operation but configuring again is one of the frames above, or a change of the base alone.
  cases operation with
  | recapture given raw =>
    obtain ⟨arguments, h⟩ := e.recapture_state given raw
    have state : e.perform (.recapture given raw) = _ := h
    rw [state]
    -- Here the arguments do change, but this is what the condition leaves out.
    exact .inr ⟨rfl, fun h => by simp [Component.Operation.isRecapture] at h⟩
  | setTrained value => exact .inr ⟨rfl, fun _ => rfl⟩
  | setBatchSize value => exact .inr ⟨rfl, fun _ => rfl⟩
  | attach settings => exact .inr ⟨rfl, fun _ => rfl⟩
  | close =>
    have state : e.perform .close = { e with table := none } := e.close_state
    rw [state]
    exact .inr ⟨rfl, fun _ => rfl⟩
  | own action =>
    cases action with
    | reconfigure given => exact .inl ⟨given, rfl⟩
    | train files =>
      obtain ⟨table, trained, h⟩ := e.train_state files
      have state : e.perform (.own (.train files)) = _ := h
      rw [state]
      exact .inr ⟨rfl, fun _ => rfl⟩
    | encode files texts =>
      obtain ⟨table, h⟩ := e.encode_state files texts
      have state : e.perform (.own (.encode files texts)) = _ := h
      rw [state]
      exact .inr ⟨rfl, fun _ => rfl⟩
    | needTable files =>
      obtain ⟨table, h⟩ := e.needTable_state files
      have state : e.perform (.own (.needTable files)) = _ := h
      rw [state]
      exact .inr ⟨rfl, fun _ => rfl⟩
    | withTokenizer tokenizer => exact .inr ⟨rfl, fun _ => rfl⟩

end TextVec.Encoder
