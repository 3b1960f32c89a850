import TextVec.Proofs.Component.Envelope
import TextVec.Proofs.Component.Run
import TextVec.Proofs.Component.Sections

/-!
# The recorded arguments of a splat

A splat keeps its raw arguments, and records them among its captured arguments. Splitting the latter
gives the former back, as long as no arguments are captured again; and splitting them always
succeeds, since keyword arguments are only ever recorded as a mapping.
-/

namespace TextVec

open Yaml (Value Mapping)

/-! ## Splitting -/

/-- A key that is the same as a name is that name, without a tag. -/
theorem Yaml.Value.eq_string_of_same {key : Value} {name : String}
    (h : key.same (.string name) = true) : key = .string name := by
  cases key <;> simp_all [Value.same]

namespace RawArguments

/-- Whatever is recorded as keyword arguments is a mapping, or nothing. -/
def KeywordsAreMappings (stored : Mapping) : Prop :=
  ∀ entry ∈ stored, entry.1.text? = some kwargsKey →
    ∃ kwargs, mappingOr .keywordsNotMapping entry.2 = .ok kwargs

/-- Collecting succeeds exactly if whatever is recorded as keyword arguments is a mapping. -/
theorem exists_collect_iff (stored named : Mapping) (raw : RawArguments) :
    (∃ result, collect stored named raw = .ok result) ↔ KeywordsAreMappings stored := by
  -- Whether collecting goes on does not depend on what was collected, so that is left open.
  induction stored generalizing named raw with
  | nil => simp [collect, KeywordsAreMappings]
  | cons entry rest ih =>
    obtain ⟨key, value⟩ := entry
    have split : KeywordsAreMappings ((key, value) :: rest) ↔
        (key.text? = some kwargsKey → ∃ kwargs, mappingOr .keywordsNotMapping value = .ok kwargs) ∧
          KeywordsAreMappings rest := by
      simp [KeywordsAreMappings]
    rw [split]
    unfold collect
    -- Positional arguments can be anything; only keyword arguments may be refused.
    by_cases isArgs : key.text? = some argsKey
    · simp [isArgs, ih, argsKey, kwargsKey]
    · by_cases isKwargs : key.text? = some kwargsKey
      · cases mappingOr Misconfiguration.keywordsNotMapping value with
        | error failure => simp [isKwargs, argsKey, kwargsKey, bind, Except.bind]
        | ok kwargs => simp [isKwargs, argsKey, kwargsKey, bind, Except.bind, ih]
      · simp [isArgs, isKwargs, ih]

/-- Splitting succeeds exactly if whatever is recorded as keyword arguments is a mapping. -/
theorem exists_split_iff {stored : Mapping} :
    (∃ result, split stored = .ok result) ↔ KeywordsAreMappings stored := by
  rw [← exists_collect_iff stored [] {}]
  unfold split
  constructor
  · rintro ⟨_, h⟩
    obtain ⟨result, collected, -⟩ := Outcome.bind_eq_ok_iff.mp h
    exact ⟨result, collected⟩
  · rintro ⟨result, collected⟩
    exact ⟨_, Outcome.bind_eq_ok_iff.mpr ⟨result, collected, rfl⟩⟩

/-- Setting a name changes no other entry. -/
theorem mem_insert_string {stored : Mapping} {name : String} {value : Value} {entry : Value × Value}
    (h : entry ∈ Mapping.insert stored (.string name) value) :
    entry ∈ stored ∨ entry = (.string name, value) := by
  induction stored with
  | nil => exact .inr (List.mem_singleton.mp h)
  | cons first rest ih =>
    obtain ⟨key, old⟩ := first
    -- The entry is where the name was, or behind all others.
    unfold Mapping.insert at h
    by_cases same : key.same (.string name) = true
    · -- The entry has the name already, so only its value is replaced.
      rw [if_pos same, Value.eq_string_of_same same] at h
      rcases List.mem_cons.mp h with here | there
      · exact .inr here
      · exact .inl (List.mem_cons_of_mem _ there)
    · rw [if_neg same] at h
      rcases List.mem_cons.mp h with here | there
      · exact .inl (here ▸ List.mem_cons_self ..)
      · exact (ih there).imp_left (List.mem_cons_of_mem _)

/-- Capturing other arguments over those recorded keeps keyword arguments mappings, if those
captured are. -/
theorem keywordsAreMappings_overlay {stored later : Mapping}
    (named : ∀ entry ∈ later, ∃ name, entry.1 = .string name) (h : KeywordsAreMappings stored)
    (new : KeywordsAreMappings later) : KeywordsAreMappings (Mapping.overlay stored later) := by
  -- Arguments are set one after the other, each over what those before it have left.
  induction later generalizing stored with
  | nil => exact h
  | cons entry rest ih =>
    obtain ⟨key, value⟩ := entry
    obtain ⟨name, rfl⟩ := named (key, value) (List.mem_cons_self ..)
    have inserted : KeywordsAreMappings (Mapping.insert stored (.string name) value) := by
      intro entry member keyword
      rcases mem_insert_string member with old | rfl
      · exact h entry old keyword
      · exact new _ (List.mem_cons_self ..) keyword
    exact ih (fun entry member => named entry (List.mem_cons_of_mem _ member)) inserted
      fun entry member => new entry (List.mem_cons_of_mem _ member)

end RawArguments

/-! ## Splats -/

namespace Splat

/-- The arguments that are captured for a configuration and raw arguments. -/
theorem captureFor_eq (config : SplatConfig) (raw : RawArguments) :
    Component.captureFor Splat config raw = .ok (
      [(.string "name", .string config.name)] ++
        (if raw.args.isEmpty then [] else [(.string argsKey, .sequence raw.args)]) ++
        if raw.kwargs.isEmpty then [] else [(.string kwargsKey, .mapping raw.kwargs)]) := by
  show Except.ok (raw.store [(.string "name", .string config.name)]) = _
  congr 1
  -- No key is written for raw arguments of a sort of which there are none.
  obtain ⟨args, kwargs⟩ := raw
  cases args <;> cases kwargs <;>
    simp [RawArguments.store, Mapping.put, Mapping.insert, Value.same, argsKey, kwargsKey]

/-- What is captured for raw arguments records them, and the name of the configuration counts more
than one among the keyword arguments. -/
theorem split_captureFor {config : SplatConfig} {raw : RawArguments} {arguments : Mapping}
    (h : Component.captureFor Splat config raw = .ok arguments) :
    RawArguments.split arguments =
      .ok (Mapping.put raw.kwargs "name" (.string config.name), raw) := by
  rw [captureFor_eq, Except.ok.injEq] at h
  subst h
  obtain ⟨args, kwargs⟩ := raw
  cases args <;> cases kwargs <;>
    simp [RawArguments.split, RawArguments.collect, Value.text?, Value.untagged, argsKey,
      kwargsKey, mappingOr, RawArguments.positional, Mapping.overlay, Mapping.put, Mapping.insert,
      bind, Except.bind, pure, Except.pure]

/-- The captured arguments record the raw ones. -/
def Recorded (s : Splat) : Prop := ∃ named, RawArguments.split s.base.arguments = .ok (named, s.raw)

/-- The captured arguments record some raw arguments, perhaps not those of the splat. -/
def Splittable (s : Splat) : Prop := RawArguments.KeywordsAreMappings s.base.arguments

theorem Recorded.splittable {s : Splat} (h : Recorded s) : Splittable s := by
  obtain ⟨named, split⟩ := h
  exact RawArguments.exists_split_iff.mp ⟨_, split⟩

/-- Splats allow nothing that other components do not. -/
def act (operation : Empty) (_ : Splat) : Splat := operation.elim

/-- An operation on a splat. -/
abbrev Operation := Component.Operation SplatConfig Empty

/-- The splat after a run of operations. -/
abbrev run (s : Splat) (operations : List Operation) : Splat := Component.run act s operations

/-- A splat is restored with the raw arguments that are recorded. -/
theorem restore_eq_ok_iff {base : Base} {config : SplatConfig} {s : Splat} :
    Component.restore base config = .ok s ↔
      ∃ named,
        RawArguments.split base.arguments = .ok (named, s.raw) ∧ s = ⟨base, config, s.raw⟩ := by
  show (RawArguments.split base.arguments >>= fun result => pure ⟨base, config, result.2⟩) =
    .ok s ↔ _
  rw [Outcome.bind_eq_ok_iff]
  constructor
  · rintro ⟨⟨named, raw⟩, split, h⟩
    cases Outcome.pure_eq_ok_iff.mp h
    exact ⟨named, split, rfl⟩
  · rintro ⟨named, split, whole⟩
    exact ⟨(named, s.raw), split, Outcome.pure_eq_ok_iff.mpr whole.symm⟩

/-- Every splat, wherever it comes from, has recorded its raw arguments. -/
theorem recorded_of_made {s : Splat} (h : Component.Made s) : Recorded s := by
  have built {environment : Environment} {config : SplatConfig} {raw : RawArguments} {s : Splat}
      (h : Component.build environment config raw = .ok s) : Recorded s := by
    unfold Component.build at h
    obtain ⟨arguments, captured, made⟩ := Outcome.bind_eq_ok_iff.mp h
    cases made
    exact ⟨_, split_captureFor captured⟩
  cases h with
  | constructed h =>
    cases h with
    | built h => exact built h
    | loaded h =>
      -- Handles and properties are given to a splat that was built.
      obtain ⟨_, _, _, _, new, _, _, _, _, hNew, _, rfl⟩ := Component.ofBody_eq_ok_iff.mp h
      have recorded : Recorded new := built hNew
      exact recorded
  | restored h =>
    -- The raw arguments of a restored splat are split off those that were captured.
    obtain ⟨-, -, config, _, arguments, -, -, hRestored⟩ := Component.ofEnvelope_eq_ok_iff.mp h
    obtain ⟨named, split, hRaw⟩ := restore_eq_ok_iff.mp hRestored
    exact ⟨named, by rw [hRaw]; exact split⟩

/-- No operation parts the recorded arguments from the raw ones, but for capturing others. -/
theorem recorded_perform (s : Splat) (operation : Operation)
    (records : operation.isRecapture = false) (h : Recorded s) :
    Recorded (Component.perform act s operation) := by
  cases operation with
  | recapture config raw => simp [Component.Operation.isRecapture] at records
  | setTrained value => exact h
  | setBatchSize value => exact h
  | attach settings => exact h
  | close => exact h
  | own operation => exact operation.elim

/-- Capturing other arguments records other raw ones. -/
theorem splittable_perform (s : Splat) (operation : Operation) (h : Splittable s) :
    Splittable (Component.perform act s operation) := by
  cases operation with
  | recapture config raw =>
    have captured := captureFor_eq config raw
    simp only [Component.perform, Component.recapture, captured]
    -- All keys that are captured are names, and setting a name leaves all other entries alone.
    refine RawArguments.keywordsAreMappings_overlay ?_ h ?_
    · obtain ⟨args, kwargs⟩ := raw
      cases args <;> cases kwargs <;> simp
    · exact RawArguments.exists_split_iff.mp ⟨_, split_captureFor captured⟩
  | setTrained value => exact h
  | setBatchSize value => exact h
  | attach settings => exact h
  | close => exact h
  | own operation => exact operation.elim

/-- After any run, the recorded arguments can be split; they are still the raw ones if no others
were captured. -/
theorem splittable_run {s : Splat} (h : Splittable s) (operations : List Operation) :
    Splittable (s.run operations) :=
  Component.run_induction (fun _ => True)
    (fun c operation _ kept => splittable_perform c operation kept) (fun _ _ => trivial) h

theorem recorded_run {s : Splat} (h : Recorded s) {operations : List Operation}
    (records : ∀ operation ∈ operations, operation.isRecapture = false) :
    Recorded (s.run operations) :=
  Component.run_induction (fun operation => operation.isRecapture = false)
    (fun c operation allowed kept => recorded_perform c operation allowed kept) records h

end Splat

end TextVec
