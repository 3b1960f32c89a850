import TextVec.Proofs.Centroid.Run
import TextVec.Proofs.Encoder.NoDrift

/-!
# When a centroid is trained

Training is all that makes a centroid trained, and nothing makes it untrained again: not a training
that fails, not closing it, and not storing and loading it, though a binary file has the property
among all others and a structured file has it only where it is not as in a new component. What a
binary file keeps of the learned numbers a structured file forgets, so a centroid can be trained and
yet be at the origin; but it always has one number for each dimension, and training it gives what
training a new centroid would.
-/

namespace TextVec

open Yaml (Value Mapping)

namespace Component

variable {α Config State Own : Type} [Component α Config State]

/-! ## Storing and loading again -/

/-- The document of a component reads back as it was printed, if it can be printed. -/
def DocumentReadsBack (component : α) : Prop :=
  ∀ text, (document component).print? = some text → Value.read? text = some (document component)

/-- What has to be assumed of a file in which a component is stored, so that no text and no count in
it gets lost. -/
def Faithful (component : α) : Format → Prop
  | .binary => EnvelopeFits component
  | .structured => DocumentReadsBack component

/-- A file with the text of a document of a component holds the sections of that, under the tag of
the kind. -/
theorem readFile_document {component : α} {files : FileSystem} {path text : String}
    (held : files.read path = .ok (Text.toUtf8 text))
    (read : Value.read? text = some (document component)) :
    Document.readFile files path =
      .ok ⟨some (Document.kindOfTag (kind α)), body component⟩ := by
  simp only [Document.readFile, FileSystem.readText, held, Text.ofUtf8?_toUtf8, ofDisk, read,
    ofValue_document, bind, Except.bind]

/-- What is loaded from a structured file of a component is constructed from its sections. -/
theorem ReloadedAs.ofBody [Compressor] {component loaded : α}
    (h : ReloadedAs .structured component loaded) (faithful : DocumentReadsBack component) :
    ∃ settings, Component.ofBody α settings (body component) = .ok loaded := by
  obtain ⟨files, path, written, later, settings, stored, kept, hLoaded⟩ := h
  obtain ⟨content, encoded, held⟩ := read_of_store stored
  -- Storing has printed a document, or there would be no file.
  obtain ⟨text, printed, rfl⟩ : ∃ text, (document component).print? = some text ∧
      Text.toUtf8 text = content := by
    obtain ⟨text, hText, rfl⟩ := Outcome.map_eq_ok_iff.mp encoded
    unfold encodeStructured at hText
    split at hText
    · cases hText
      exact ⟨text, ‹_›, rfl⟩
    · cases hText
  -- The document in the file is the one that was printed.
  have found := readFile_document (kept.trans held) (faithful text printed)
  obtain ⟨document, read, made⟩ := ofBody_of_loadStructured hLoaded
  cases found.symm.trans read
  exact ⟨settings, made⟩

/-- Wherever a file can be written, a component whose document reads back is stored and loaded again
as what is constructed from its sections. -/
theorem reloadedAs_structured [Compressor] {component loaded : α} {settings : HandleSettings}
    {text : String} (printed : (document component).print? = some text)
    (read : Value.read? text = some (document component))
    (named : Document.kindOfTag (kind α) = kind α)
    (h : Component.ofBody α settings (body component) = .ok loaded) (files : FileSystem)
    (path : String) (writable : ∀ content, ∃ written, files.write path content = .ok written) :
    ReloadedAs .structured component loaded := by
  obtain ⟨written, write⟩ := writable (Text.toUtf8 text)
  -- Loading meets the file as storing left it.
  have found := readFile_document (FileSystem.read_of_write write) read
  refine ⟨files, path, written, written, settings, ?_, rfl, ?_⟩
  · simp only [store, encode, encodeStructured, printed, Except.map, write, ofDisk, bind,
      Except.bind]
  · simp only [load, loadStructured, found, named, beq_self_eq_true, if_true, h, bind, Except.bind]

/-- What is loaded from a binary file of a component is restored from its state and properties. -/
theorem ReloadedAs.restore [Compressor] {component loaded : α}
    (h : ReloadedAs .binary component loaded) (fits : EnvelopeFits component)
    (state : (putState α (snapshot component)).length < UInt64.size →
      takeState α (putState α (snapshot component) ++ []) = some (snapshot component, [])) :
    ∃ settings arguments,
      Component.restore ⟨arguments, properties component, .attach (kind α) settings⟩
        (snapshot component) = .ok loaded := by
  obtain ⟨files, path, written, later, settings, stored, kept, hLoaded⟩ := h
  obtain ⟨content, encoded, held⟩ := read_of_store stored
  obtain ⟨e, hEnvelope, hContent⟩ := Outcome.bind_eq_ok_iff.mp encoded
  cases Outcome.pure_eq_ok_iff.mp hContent
  have bound := fits e hEnvelope
  -- The envelope has a text for the arguments, since it was written.
  unfold envelope at hEnvelope
  split at hEnvelope
  · cases hEnvelope
  · rename_i text printed
    cases hEnvelope
    have hRead := Envelope.read_compress_put rfl bound
    have hFile : Envelope.readFile later path =
        .ok ⟨layoutVersion, kind α, version α, text, properties component,
          putState α (snapshot component)⟩ := by
      simp only [Envelope.readFile, kept, held]
      exact hRead
    have hBinary : loadBinary α settings later path = .ok loaded := hLoaded
    rw [loadBinary, hFile, Outcome.ok_bind] at hBinary
    obtain ⟨-, -, taken, rest, arguments, hTaken, -, restored⟩ := ofEnvelope_eq_ok_iff.mp hBinary
    -- The state in the envelope is the one that was put there, so it is not too long either.
    have shorter := Envelope.length_state_le ⟨layoutVersion, kind α, version α, text,
      properties component, putState α (snapshot component)⟩
    have whole := state (Nat.lt_of_le_of_lt shorter bound)
    rw [List.append_nil] at whole
    rw [whole] at hTaken
    cases hTaken
    exact ⟨settings, arguments, restored⟩

end Component

namespace Centroid

open Component (Faithful ReloadedAs)

/-! ## New centroids -/

/-- The arguments that stand for a configuration. -/
def parameters (config : CentroidConfig) : Mapping :=
  [(.string "dims", .nat config.dims.toNat),
    (.string "label", config.label.elim .null .string),
    (.string "scale", .number (.ofDouble config.scale))]

/-- A new centroid, which is at the origin. -/
def fresh (environment : Environment) (config : CentroidConfig) : Centroid where
  base :=
    { arguments := parameters config
      handles := .attach (Component.kind Centroid) (.ofEnvironment environment) }
  config
  centroid := List.replicate config.dims.toNat .zero

/-- A centroid is made of every configuration with a dimension. -/
theorem build_eq_ok_iff {environment : Environment} {config : CentroidConfig} {raw : RawArguments}
    {c : Centroid} :
    Component.build environment config raw = .ok c ↔
      config.dims ≠ 0 ∧ fresh environment config = c := by
  have made : Component.build (α := Centroid) environment config raw =
      if config.dims = 0 then .error (.misconfigured .zeroDims)
      else .ok (fresh environment config) := rfl
  rw [made]
  split
  · rename_i zero
    simp [zero]
  · rename_i some
    simp [some]

/-! ## Lives of centroids -/

/-- The rows of the trainings that succeeded, after an operation. -/
def record (c : Centroid) (past : List (List (List Double))) :
    Operation → List (List (List Double))
  | .own (.train rows) => if (c.train rows).result.isOk then past ++ [rows] else past
  | _ => past

/-- Whether an operation says of a component that it is trained or not, without training it. -/
def setsTrained : Operation → Bool
  | .setTrained _ => true
  | _ => false

/-- What may happen to a centroid, with the rows of the trainings that succeeded on the way. All
operations may fail. Where the centroid is stored in a file and cannot be loaded from there, the old
one stays, so that nothing has happened. -/
inductive Leads [Compressor] (c₀ : Centroid) : List (List (List Double)) → Centroid → Prop where
  /-- Nothing has happened yet. -/
  | start : Leads c₀ [] c₀
  /-- An operation that does not say of the centroid whether it is trained. -/
  | performed {past : List (List (List Double))} {c : Centroid} (h : Leads c₀ past c)
      (operation : Operation) (trains : setsTrained operation = false) :
      Leads c₀ (c.record past operation) (c.perform operation)
  /-- What is done in a scope may fail, and the centroid is closed in any case. -/
  | used {past : List (List (List Double))} {c : Centroid} {β : Type}
      (use : Centroid → Step Centroid β) (h : Leads c₀ past (use c).state) :
      Leads c₀ past (Component.within c use).state
  /-- A scope is left, which closes the centroid. -/
  | left {past : List (List (List Double))} {c : Centroid} (h : Leads c₀ past c) :
      Leads c₀ past (Component.leave c).1
  /-- The centroid is stored in a file and loaded from there. -/
  | reloaded {past : List (List (List Double))} {c loaded : Centroid} (h : Leads c₀ past c)
      {format : Format} (faithful : Faithful c format) (again : ReloadedAs format c loaded) :
      Leads c₀ past loaded

/-- A centroid has a dimension, and one number for each. -/
structure WellFormed (c : Centroid) : Prop where
  /-- There is a dimension. -/
  dims : c.config.dims ≠ 0
  /-- And a number for each. -/
  whole : c.centroid.length = c.config.dims.toNat

theorem wellFormed_of_build {environment : Environment} {config : CentroidConfig}
    {raw : RawArguments} {c : Centroid} (h : Component.build environment config raw = .ok c) :
    WellFormed c := by
  obtain ⟨some, rfl⟩ := build_eq_ok_iff.mp h
  exact ⟨some, List.length_replicate⟩

/-! ## What a step keeps -/

/-- What is loaded from a file of a centroid is trained exactly if that was. From a binary file
comes the same centroid, from a structured one a new one. -/
theorem reloaded_cases [Compressor] {c loaded : Centroid} {format : Format}
    (faithful : Faithful c format) (again : ReloadedAs format c loaded) :
    loaded.base.properties.isTrained = c.base.properties.isTrained ∧
      (WellFormed c → WellFormed loaded) := by
  cases format with
  | binary =>
    obtain ⟨settings, arguments, restored⟩ :=
      again.restore faithful (fun bound => CentroidState.take_put bound [])
    cases restored
    exact ⟨rfl, fun h => ⟨h.dims, h.whole⟩⟩
  | structured =>
    obtain ⟨settings, hLoaded⟩ := again.ofBody faithful
    obtain ⟨arguments, overrides, config, raw, new, set, -, hOverrides, -, hNew, hSet, rfl⟩ :=
      Component.ofBody_eq_ok_iff.mp hLoaded
    have built := wellFormed_of_build hNew
    obtain ⟨-, rfl⟩ := build_eq_ok_iff.mp hNew
    -- The properties in the document are set over those of a new centroid, which is not trained.
    rw [Component.sectionOf_body_property, Except.ok.injEq] at hOverrides
    subst hOverrides
    rw [Properties.apply_overrides] at hSet
    cases hSet
    refine ⟨?_, fun _ => ⟨built.dims, built.whole⟩⟩
    show (c.base.properties.isTrained || false) = c.base.properties.isTrained
    exact Bool.or_false _

/-- An operation is a training that succeeds, or else it leaves alone what the centroid has learned
and whether it is trained. -/
theorem perform_cases (c : Centroid) (past : List (List (List Double))) (operation : Operation)
    (trains : setsTrained operation = false) :
    (∃ rows mean,
      c.record past operation = past ++ [rows] ∧
      meanOf c.config rows = .ok mean ∧
      c.perform operation =
        { c with
          centroid := mean
          base :=
            { c.base with properties := { c.base.properties with isTrained := true } } }) ∨
      c.record past operation = past ∧
        (c.perform operation).base.properties.isTrained = c.base.properties.isTrained ∧
        (c.perform operation).config = c.config ∧ (c.perform operation).centroid = c.centroid := by
  cases operation with
  | recapture config raw =>
    -- Arguments of a centroid can always be captured, and that is all that changes.
    exact .inr ⟨rfl, rfl, rfl, rfl⟩
  | setTrained value => simp [setsTrained] at trains
  | setBatchSize value => exact .inr ⟨rfl, rfl, rfl, rfl⟩
  | attach settings => exact .inr ⟨rfl, rfl, rfl, rfl⟩
  | close => exact .inr ⟨rfl, rfl, rfl, rfl⟩
  | own action =>
    cases action with
    | train rows =>
      rcases c.train_cases rows with ⟨mean, averaged, ok, state⟩ | ⟨failure, failed, state⟩
      · refine .inl ⟨rows, mean, ?_, averaged, state⟩
        simp only [record, ok, Except.isOk, Except.toBool, if_true]
      · have kept : c.perform (.own (.train rows)) = c := state
        have recorded : c.record past (.own (.train rows)) = past := by
          simp only [record, failed, Except.isOk, Except.toBool, Bool.false_eq_true, if_false]
        rw [kept]
        exact .inr ⟨recorded, rfl, rfl, rfl⟩
    | distance point => exact .inr ⟨rfl, rfl, rfl, rfl⟩
    | failToClose value => exact .inr ⟨rfl, rfl, rfl, rfl⟩

/-- Operations keep it so, since a mean has as many numbers as there are dimensions. -/
theorem WellFormed.perform {c : Centroid} (h : WellFormed c) (operation : Operation)
    (trains : setsTrained operation = false) : WellFormed (c.perform operation) := by
  rcases c.perform_cases [] operation trains with
    ⟨rows, mean, -, averaged, state⟩ | ⟨-, -, sameConfig, sameCentroid⟩
  · rw [state]
    exact ⟨h.dims, (meanOf_eq_ok averaged).2⟩
  · exact ⟨by rw [sameConfig]; exact h.dims, by rw [sameCentroid, sameConfig]; exact h.whole⟩

/-- An operation makes it trained exactly if it adds a training to the record. -/
theorem isTrained_perform {c : Centroid} {past : List (List (List Double))} {before : Bool}
    (h : c.base.properties.isTrained = true ↔ before = true ∨ past ≠ []) (operation : Operation)
    (trains : setsTrained operation = false) :
    (c.perform operation).base.properties.isTrained = true ↔
      before = true ∨ c.record past operation ≠ [] := by
  rcases c.perform_cases past operation trains with
    ⟨rows, mean, recorded, -, state⟩ | ⟨recorded, same, -, -⟩
  -- After a training that succeeded both sides are true.
  · rw [state, recorded]
    simp
  · rw [same, recorded]
    exact h

/-! ## Whole lives -/

/-- A centroid is trained exactly if it was at the beginning or a training has succeeded since. -/
theorem isTrained_of_leads [Compressor] {c₀ c : Centroid} {past : List (List (List Double))}
    (h : Leads c₀ past c) :
    c.base.properties.isTrained = true ↔ c₀.base.properties.isTrained = true ∨ past ≠ [] := by
  -- On what has happened; a scope is what was done in it, and closing.
  induction h with
  | start => simp
  | performed _ operation trains ih => exact isTrained_perform ih operation trains
  | used use _ ih => exact ih
  | left _ ih =>
    rw [Component.state_leave]
    exact ih
  | reloaded _ faithful again ih =>
    rw [(reloaded_cases faithful again).1]
    exact ih

/-- Whatever happens, a centroid that was well formed stays so. -/
theorem wellFormed_of_leads [Compressor] {c₀ c : Centroid} {past : List (List (List Double))}
    (made : WellFormed c₀) (h : Leads c₀ past c) : WellFormed c := by
  induction h with
  | start => exact made
  | performed _ operation trains ih => exact ih.perform operation trains
  | used use _ ih => exact ih.perform .close rfl
  | left _ ih =>
    rw [Component.state_leave]
    exact ih.perform .close rfl
  | reloaded _ faithful again ih => exact (reloaded_cases faithful again).2 ih

/-- The distance of a point is defined exactly for a centroid that is trained. -/
theorem distance_of_trained {c : Centroid} (h : c.base.properties.isTrained = true)
    (point : List Double) : ∃ d, c.distance point = .ok d := by
  have required : Component.requireTrained c "distance" = .ok () := if_pos h
  unfold distance
  rw [required]
  exact ⟨_, rfl⟩

theorem distance_of_untrained {c : Centroid} (h : c.base.properties.isTrained = false)
    (point : List Double) : c.distance point = .error (.untrained "distance") := by
  have refused : Component.requireTrained c "distance" = .error (.untrained "distance") :=
    if_neg (by rw [show (Component.properties c).isTrained = false from h]; decide)
  unfold distance
  rw [refused]
  rfl

/-- Training moves a centroid where it would move a new one of the same configuration, whatever the
centroid has learned before. -/
theorem train_eq_fresh {c : Centroid} {rows : List (List Double)}
    (h : (c.train rows).result = .ok ()) (environment : Environment) :
    ((fresh environment c.config).train rows).result = .ok () ∧
      ((fresh environment c.config).train rows).state.centroid =
        (c.train rows).state.centroid := by
  obtain ⟨mean, averaged⟩ := exists_meanOf ((c.train_eq_ok_iff rows).mp h)
  -- The mean is that of the rows, which old numbers have no part in.
  have moved := c.train_of_meanOf averaged
  have new := (fresh environment c.config).train_of_meanOf averaged
  refine ⟨new.1, ?_⟩
  rw [new.2, moved.2]

/-- **When a centroid is trained.** Whatever happens to a centroid after it was built, stored and
loaded again in between or not, it is trained exactly if some training has succeeded, and then it
stays so; exactly then there are distances from it. It always has one number for each dimension.
A training that succeeds moves it where the same training would move a new centroid of the same
configuration. -/
theorem trained_by_training [Compressor] {environment : Environment} {config : CentroidConfig}
    {raw : RawArguments} {c₀ c : Centroid} {past : List (List (List Double))}
    (built : Component.build environment config raw = .ok c₀) (life : Leads c₀ past c) :
    (c.base.properties.isTrained = true ↔ past ≠ []) ∧
    (∀ more later, Leads c more later → c.base.properties.isTrained = true →
      later.base.properties.isTrained = true) ∧
    (∀ point,
      ((∃ d, c.distance point = .ok d) ↔ c.base.properties.isTrained = true) ∧
      (c.base.properties.isTrained = false →
        c.distance point = .error (.untrained "distance"))) ∧
    c.centroid.length = c.config.dims.toNat ∧
    ∀ rows, (c.train rows).result = .ok () → ∀ environment raw,
      ∃ new : Centroid,
        Component.build environment c.config raw = .ok new ∧
        (new.train rows).result = .ok () ∧
        (new.train rows).state.centroid = (c.train rows).state.centroid := by
  have wellFormed := wellFormed_of_leads (wellFormed_of_build built) life
  refine ⟨?_, ?_, ?_, wellFormed.whole, ?_⟩
  · obtain ⟨-, rfl⟩ := build_eq_ok_iff.mp built
    have trained := isTrained_of_leads life
    simpa [fresh] using trained
  · intro more later onward trained
    exact (isTrained_of_leads onward).mpr (.inl trained)
  · intro point
    refine ⟨⟨?_, fun trained => distance_of_trained trained point⟩,
      fun untrained => distance_of_untrained untrained point⟩
    rintro ⟨d, defined⟩
    -- Were it not trained, the distance would be refused.
    cases trained : c.base.properties.isTrained with
    | true => rfl
    | false =>
      rw [distance_of_untrained trained] at defined
      cases defined
  · intro rows ok environment raw
    obtain ⟨able, same⟩ := train_eq_fresh ok environment
    exact ⟨fresh environment c.config, build_eq_ok_iff.mpr ⟨wellFormed.dims, rfl⟩, able, same⟩

open Compression in
/-- A centroid is trained in vain, then with success, and then stored in a structured file and
loaded from there: it is trained still, though it is at the origin again. -/
theorem trained_by_training_reloaded :
    let config : CentroidConfig := ⟨1, none, .one⟩
    let rows : List (List Double) := [[.one]]
    let c₀ : Centroid := fresh {} config
    ∃ c₁ loaded : Centroid,
      Component.build {} config {} = .ok c₀ ∧
      Leads c₀ [] (c₀.perform (.own (.train [[.one, .one]]))) ∧
      Leads c₀ [rows] c₁ ∧ ReloadedAs .structured c₁ loaded ∧ Leads c₀ [rows] loaded ∧
      loaded.base.properties.isTrained = true ∧ loaded.centroid = [.zero] ∧
      ∃ d, loaded.distance [.one] = .ok d := by
  intro config rows c₀
  have built : Component.build {} config {} = .ok c₀ := build_eq_ok_iff.mpr ⟨by decide, rfl⟩
  have vain : c₀.perform (.own (.train [[.one, .one]])) = c₀ := rfl
  have first : Leads c₀ [] (c₀.perform (.own (.train [[.one, .one]]))) :=
    .performed .start (.own (.train [[.one, .one]])) rfl
  obtain ⟨mean, averaged⟩ : ∃ mean, meanOf config rows = .ok mean :=
    exists_meanOf ⟨by simp [rows], by simp [rows, config]⟩
  obtain ⟨ok, moved⟩ := c₀.train_of_meanOf averaged
  have second := first.performed (.own (.train rows)) rfl
  have recorded : c₀.record [] (.own (.train rows)) = [rows] := by
    simp only [record, ok, Except.isOk, Except.toBool, if_true]
    rfl
  have state : c₀.perform (.own (.train rows)) = _ := moved
  rw [vain, recorded, state] at second
  let c₁ : Centroid := { c₀ with
    centroid := mean
    base := { c₀.base with properties := { c₀.base.properties with isTrained := true } } }
  let loaded : Centroid := { c₁ with centroid := [.zero] }
  -- What is written does not depend on the mean, which is not in the document.
  let text := "!Centroid\nparameter:\n  dims: 1\n  label: null\n  scale: 1.0\n" ++
    "property:\n  is_trained: true\n"
  let sections : Mapping :=
    [(.string "parameter", .mapping (parameters config)),
      (.string "property", .mapping [(.string "is_trained", .bool true)])]
  have document : Component.document c₁ = .tagged "Centroid" (.mapping sections) := rfl
  have printed : (Component.document c₁).print? = some text := by
    rw [document]
    decide +kernel
  have read : Value.read? text = some (Component.document c₁) := by
    rw [document]
    decide +kernel
  have made : Component.ofBody Centroid {} (Component.body c₁) = .ok loaded := by
    show Component.ofBody Centroid {} [(.string "parameter",
      .mapping (parameters ⟨1, none, .one⟩)), _] = .ok loaded
    rfl
  have named : Document.kindOfTag (Component.kind Centroid) = Component.kind Centroid := by decide
  have again : ReloadedAs .structured c₁ loaded :=
    Component.reloadedAs_structured printed read named made .empty "c.yml" fun _ => ⟨_, rfl⟩
  have faithful : Faithful c₁ .structured := by
    intro other hOther
    rw [printed, Option.some.injEq] at hOther
    rw [← hOther, read]
  have third : Leads c₀ [rows] loaded := .reloaded second faithful again
  obtain ⟨trained, -, distances, -, -⟩ := trained_by_training built third
  have isTrained := trained.mpr (List.cons_ne_nil rows [])
  exact ⟨c₁, loaded, built, first, second, again, third, isTrained, rfl,
    (distances [.one]).1.mpr isTrained⟩

end Centroid

end TextVec
