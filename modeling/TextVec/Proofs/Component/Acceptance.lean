import TextVec.Proofs.Binary.Front
import TextVec.Proofs.Encoder.Captured
import TextVec.Proofs.Splat.Recorded

/-!
# Which binary files are loaded

A binary file is loaded exactly if it holds everything that a component of the kind is restored
from, and the kind does not refuse to be restored from that. A file that lacks some of it is
unreadable, and one that holds all of it and is refused nevertheless is misconfigured; loading fails
in no other way. This is proved for any kind first, from two facts about it: that its reader of
states takes a front of the bytes, and when it refuses to be restored.
-/

namespace TextVec

open Binary Yaml

/-! ## The readers of envelopes and states -/

theorem Envelope.takesFront_takeProperties : TakesFront takeProperties :=
  takesFront_takeBool.bind fun isTrained =>
    (takesFront_takeOption takesFront_takeUInt64).bind fun batchSize =>
      .done (Properties.mk isTrained batchSize)

/-- An envelope is read field by field, each from where the one before it ended. -/
theorem Envelope.takesFront_take : TakesFront take :=
  takesFront_takeUInt16.bind fun layout =>
    takesFront_takeText.bind fun kind =>
      takesFront_takeUInt16.bind fun version =>
        takesFront_takeText.bind fun arguments =>
          takesFront_takeProperties.bind fun properties =>
            takesFront_takeCounted.bind fun state =>
              .done (Envelope.mk layout kind version arguments properties state)

theorem CentroidConfig.takesFront_take : TakesFront take :=
  takesFront_takeUInt64.bind fun dims =>
    (takesFront_takeOption takesFront_takeText).bind fun label =>
      takesFront_takeDouble.bind fun scale => .done (CentroidConfig.mk dims label scale)

theorem CentroidState.takesFront_take : TakesFront take :=
  CentroidConfig.takesFront_take.bind fun config =>
    (takesFront_takeList takesFront_takeDouble).bind fun centroid =>
      .done (CentroidState.mk config centroid)

theorem SplatConfig.takesFront_take : TakesFront take := takesFront_takeText.map SplatConfig.mk

namespace EncoderConfig

/-- The kind of tokenizer that a number stands for, if any. -/
def numberedKind (n : Nat) : Option TokenizerKind :=
  if n = 0 then some .whitespace else if n = 1 then some .unicodeWords else none

/-- What follows the number of a kind has no part in which kind it is. -/
theorem takeKind_eq : takeKind = fun bytes => (takeNat 4 bytes).bind fun taken =>
    (numberedKind taken.1).bind fun kind => some (kind, taken.2) := by
  funext bytes
  unfold takeKind
  rcases takeNat 4 bytes with _ | ⟨_ | _ | n, rest⟩ <;> rfl

theorem takesFront_takeKind : TakesFront takeKind := by
  rw [takeKind_eq]
  exact (takesFront_takeNat 4).bind fun n => .ofOption (numberedKind n) id

theorem takesFront_takeTokenizer : TakesFront takeTokenizer :=
  takesFront_takeKind.bind fun kind =>
    takesFront_takeBool.bind fun normalizeUnicode =>
      takesFront_takeBool.bind fun lowercase =>
        .done (Tokenizer.mk kind normalizeUnicode lowercase)

theorem takesFront_take : TakesFront take :=
  takesFront_takeText.bind fun modelPath =>
    takesFront_takeUInt64.bind fun skipRows =>
      takesFront_takeUInt64.bind fun batchSize =>
        takesFront_takeUInt64.bind fun dimension =>
          takesFront_takeText.bind fun pooling =>
            takesFront_takeTokenizer.bind fun tokenizer =>
              .done (EncoderConfig.mk ⟨skipRows, batchSize, dimension, pooling, tokenizer⟩ modelPath)

end EncoderConfig

/-! ## Envelopes in files -/

namespace Envelope

variable [Compressor]

/-- Content is an envelope exactly if it decompresses to bytes that begin with one of the present
layout. -/
theorem read_eq_ok_iff {content : Bytes} {e : Envelope} :
    read content = .ok e ↔
      (∃ bytes, Compressor.decompress content = some bytes ∧ Begins take bytes e) ∧
        e.layout = layoutVersion := by
  simp only [takesFront_take.begins_iff]
  unfold read
  cases Compressor.decompress content with
  | none => simp
  | some bytes =>
    simp only [Option.bind_some, Option.some.injEq, exists_eq_left']
    cases take bytes with
    | none => simp
    | some taken =>
      obtain ⟨found, rest⟩ := taken
      -- The layout is compared when all of the envelope has been read.
      simp only [Option.some.injEq, Prod.mk.injEq, exists_and_left, exists_eq', and_true]
      constructor
      · intro h
        split at h
        · rename_i present
          cases h
          exact ⟨rfl, present⟩
        · cases h
      · rintro ⟨rfl, present⟩
        rw [if_pos present]

theorem readFile_eq_ok_iff {files : FileSystem} {path : String} {e : Envelope} :
    readFile files path = .ok e ↔
      ∃ content, files.read path = .ok content ∧ read content = .ok e := by
  unfold readFile
  cases files.read path <;> simp

/-- Whatever keeps an envelope from being read makes the file unreadable. -/
theorem unreadable_of_readFile {files : FileSystem} {path : String} {failure : Failure}
    (h : readFile files path = .error failure) : ∃ why, failure = .unreadable why := by
  unfold readFile at h
  split at h
  · unfold read at h
    split at h
    · cases h
      exact ⟨_, rfl⟩
    · split at h
      · cases h
      · cases h
        exact ⟨_, rfl⟩
  · cases h
    exact ⟨_, rfl⟩

end Envelope

/-! ## Which files are loaded -/

namespace Component

section

variable [Compressor] {α Config State : Type} [Component α Config State]

/-- A file holds what a component of a kind is restored from. Its content is compressed bytes that
begin with an envelope. That has the present layout, the name of the kind and its version, and in it
are bytes that begin with a state, and a text that is a mapping. -/
structure HeldIn (α : Type) {Config State : Type} [Component α Config State] (files : FileSystem)
    (path : String) (e : Envelope) (state : State) (arguments : Mapping) : Prop where
  /-- The content decompresses to bytes that begin with the envelope. -/
  envelope : ∃ content bytes,
    files.read path = .ok content ∧ Compressor.decompress content = some bytes ∧
      Begins Envelope.take bytes e
  /-- The only layout there is. -/
  layout : e.layout = 1
  /-- It was written for a component of this kind. -/
  kind : e.kind = Component.kind α
  /-- And by this version of it. -/
  version : e.version = Component.version α
  /-- Its state begins with a state of the kind. -/
  state : Begins (takeState α) e.state state
  /-- Its arguments are the text of a mapping. -/
  arguments : Mapping.read? e.arguments = some arguments

/-- A kind loads a binary file exactly if the file holds all that is needed and the kind accepts it.
What is held and not accepted is misconfigured, and what is not held is unreadable; there are no
other failures. -/
structure LoadsExactly (α : Type) {Config State : Type} [Component α Config State]
    (settings : HandleSettings) (files : FileSystem) (path : String)
    (accepts : State → Mapping → Prop) : Prop where
  /-- What is held and accepted is loaded, and nothing else. -/
  loaded : (∃ component, loadBinary α settings files path = .ok component) ↔
    ∃ e state arguments, HeldIn α files path e state arguments ∧ accepts state arguments
  /-- What is held and not accepted is misconfigured. -/
  misconfigured : (∃ why, loadBinary α settings files path = .error (.misconfigured why)) ↔
    ∃ e state arguments, HeldIn α files path e state arguments ∧ ¬ accepts state arguments
  /-- What is not held is unreadable, whatever is missing. -/
  unreadable : (∃ why, loadBinary α settings files path = .error (.unreadable why)) ↔
    ¬ ∃ e state arguments, HeldIn α files path e state arguments
  /-- There are no other failures. -/
  otherwise : ∀ failure, loadBinary α settings files path = .error failure →
    (∃ why, failure = .misconfigured why) ∨ ∃ why, failure = .unreadable why
  /-- Of a file that cannot be read it is said why. -/
  absent : ∀ error, files.read path = .error error →
    loadBinary α settings files path = .error (.unreadable (.absent path error))

/-- What a file holds is restored, with the handles of the settings. -/
theorem HeldIn.loadBinary_eq (front : TakesFront (takeState α)) {files : FileSystem}
    {path : String} {e : Envelope} {state : State} {arguments : Mapping}
    (h : HeldIn α files path e state arguments) (settings : HandleSettings) :
    loadBinary α settings files path =
      restore ⟨arguments, e.properties, .attach (Component.kind α) settings⟩ state := by
  obtain ⟨content, bytes, hRead, hBytes, hTake⟩ := h.envelope
  obtain ⟨rest, hState⟩ := front.begins_iff.mp h.state
  have stored : Envelope.readFile files path = .ok e :=
    Envelope.readFile_eq_ok_iff.mpr
      ⟨content, hRead, Envelope.read_eq_ok_iff.mpr ⟨⟨bytes, hBytes, hTake⟩, h.layout⟩⟩
  simp only [loadBinary, stored, bind, Except.bind, ofEnvelope, h.kind, h.version, hState,
    h.arguments, bne_self_eq_false, Bool.false_eq_true, if_false]

/-- A file holds one component of a kind at most. -/
theorem HeldIn.unique (front : TakesFront (takeState α)) {files : FileSystem} {path : String}
    {e e' : Envelope} {state state' : State} {arguments arguments' : Mapping}
    (h : HeldIn α files path e state arguments) (h' : HeldIn α files path e' state' arguments') :
    state = state' ∧ arguments = arguments' := by
  obtain ⟨content, bytes, hRead, hBytes, hTake⟩ := h.envelope
  obtain ⟨content', bytes', hRead', hBytes', hTake'⟩ := h'.envelope
  obtain rfl : content = content' := by simpa [hRead] using hRead'
  obtain rfl : bytes = bytes' := by simpa [hBytes] using hBytes'
  -- What bytes begin with is decided by the bytes, at both levels.
  obtain rfl := Envelope.takesFront_take.eq_of_begins hTake hTake'
  refine ⟨front.eq_of_begins h.state h'.state, ?_⟩
  simpa [h.arguments] using h'.arguments

/-- A file that does not hold a component is unreadable, whatever is missing. -/
theorem unreadable_of_not_held (front : TakesFront (takeState α)) {files : FileSystem}
    {path : String} (h : ¬ ∃ e state arguments, HeldIn α files path e state arguments)
    (settings : HandleSettings) :
    ∃ why, loadBinary α settings files path = .error (.unreadable why) := by
  unfold loadBinary
  cases stored : Envelope.readFile files path with
  | error failure =>
    obtain ⟨why, rfl⟩ := Envelope.unreadable_of_readFile stored
    exact ⟨why, rfl⟩
  | ok e =>
    -- The checks are made in this order; had all of them succeeded, the file would hold all.
    simp only [bind, Except.bind, ofEnvelope]
    split
    · exact ⟨_, rfl⟩
    · rename_i sameKind
      split
      · exact ⟨_, rfl⟩
      · rename_i sameVersion
        split
        · rename_i state rest arguments hState hArguments
          obtain ⟨content, hRead, hEnvelope⟩ := Envelope.readFile_eq_ok_iff.mp stored
          obtain ⟨⟨bytes, hBytes, hTake⟩, layout⟩ := Envelope.read_eq_ok_iff.mp hEnvelope
          exact absurd ⟨e, state, arguments, ⟨content, bytes, hRead, hBytes, hTake⟩, layout,
            by simpa using sameKind, by simpa using sameVersion,
            front.begins_iff.mpr ⟨rest, hState⟩, hArguments⟩ h
        · exact ⟨_, rfl⟩

/-- A kind loads exactly the right files if restoring succeeds where the kind accepts what it is
given, and calls anything else misconfigured. -/
theorem loadsExactly_of_restore {accepts : State → Mapping → Prop}
    (front : TakesFront (takeState α))
    (accepted : ∀ base state, accepts state base.arguments →
      ∃ component : α, restore base state = .ok component)
    (refused : ∀ base state, ¬ accepts state base.arguments →
      ∃ why, restore base state = (.error (.misconfigured why) : Result α))
    (settings : HandleSettings) (files : FileSystem) (path : String) :
    LoadsExactly α settings files path accepts := by
  have absent (error : DiskError) (noFile : files.read path = .error error) :
      loadBinary α settings files path = .error (.unreadable (.absent path error)) := by
    simp only [loadBinary, Envelope.readFile, noFile, bind, Except.bind]
  by_cases held : ∃ e state arguments, HeldIn α files path e state arguments
  · obtain ⟨e, state, arguments, held⟩ := held
    have some : ∃ e state arguments, HeldIn α files path e state arguments := ⟨_, _, _, held⟩
    -- So what is asked of some component in the file is asked of this one.
    have only (P : State → Mapping → Prop) :
        (∃ e state arguments, HeldIn α files path e state arguments ∧ P state arguments) ↔
          P state arguments := by
      constructor
      · rintro ⟨_, _, _, other, holds⟩
        obtain ⟨rfl, rfl⟩ := held.unique front other
        exact holds
      · exact fun holds => ⟨e, state, arguments, held, holds⟩
    have result := held.loadBinary_eq front settings
    -- What is restored is all that the file holds, so the kind alone decides.
    by_cases accepts : accepts state arguments
    · obtain ⟨component, ok⟩ := accepted ⟨arguments, e.properties, _⟩ state accepts
      rw [ok] at result
      constructor <;> simp_all
    · obtain ⟨why, error⟩ := refused ⟨arguments, e.properties, _⟩ state accepts
      rw [error] at result
      constructor <;> simp_all
  · obtain ⟨why, result⟩ := unreadable_of_not_held front held settings
    constructor <;> simp_all

end

end Component

/-! ## The three kinds -/

/-- Only a value that is neither a mapping nor null is refused as one. -/
theorem exists_mappingOr_iff {why : String → Misconfiguration} {value : Value} :
    (∃ entries, mappingOr why value = .ok entries) ↔
      value = .null ∨ ∃ entries, value = .mapping entries := by
  cases value <;> simp [mappingOr]

theorem misconfigured_of_mappingOr {why : String → Misconfiguration} {value : Value}
    {failure : Failure} (h : mappingOr why value = .error failure) :
    ∃ why, failure = .misconfigured why := by
  cases value <;> simp_all [mappingOr] <;> exact ⟨_, h.symm⟩

namespace RawArguments

theorem misconfigured_of_collect {stored named : Mapping} {raw : RawArguments} {failure : Failure}
    (h : collect stored named raw = .error failure) : ∃ why, failure = .misconfigured why := by
  induction stored generalizing named raw with
  | nil => cases h
  | cons entry rest ih =>
    obtain ⟨key, value⟩ := entry
    -- Positional arguments are taken as they come.
    unfold collect at h
    split at h
    · exact ih h
    · split at h
      · -- Keyword arguments are all that can be refused.
        cases kwargs : mappingOr .keywordsNotMapping value with
        | error refused =>
          rw [kwargs] at h
          cases h
          exact misconfigured_of_mappingOr kwargs
        | ok kwargs' =>
          rw [kwargs] at h
          exact ih h
      · exact ih h

/-- Arguments that cannot be split are misconfigured. -/
theorem misconfigured_of_split {stored : Mapping} {failure : Failure}
    (h : split stored = .error failure) : ∃ why, failure = .misconfigured why := by
  unfold split at h
  cases collected : collect stored [] {} with
  | error refused =>
    rw [collected] at h
    cases h
    exact misconfigured_of_collect collected
  | ok result =>
    rw [collected] at h
    cases h

end RawArguments

end TextVec
