import TextVec.Proofs.Component.Acceptance
import TextVec.Proofs.Splat.Recorded
import TextVec.Proofs.Yaml.Fields
import TextVec.Proofs.Yaml.Overlay

/-!
# Splitting captured arguments

Raw arguments are captured as two more entries beside those of the configuration, and splitting
takes them off again. What comes out does not depend on where these two entries are: it is said here
by what is stored under either name, and by the other entries in their order.
-/

namespace TextVec.RawArguments

open Yaml (Value Mapping)

/-! ## What is stored -/

/-- Whether an entry holds raw arguments, which is a matter of what its key reads as. -/
def isRaw (entry : Value × Value) : Bool :=
  entry.1.text? == some argsKey || entry.1.text? == some kwargsKey

/-- The entries that hold no raw arguments, in order. -/
def named (stored : Mapping) : Mapping := stored.filter fun entry => !isRaw entry

/-- The raw arguments that are stored, where nothing else is stored in place of `raw`. -/
def storedIn (stored : Mapping) (raw : RawArguments) : Result RawArguments := do
  let kwargs ← (stored.valuesOf kwargsKey).head?.elim (.ok raw.kwargs)
    (mappingOr .keywordsNotMapping)
  return ⟨(stored.valuesOf argsKey).head?.elim raw.args positional, kwargs⟩

/-- There is at most one entry for either sort of raw arguments. -/
structure Single (stored : Mapping) : Prop where
  /-- No two entries read as positional arguments. -/
  args : (stored.valuesOf argsKey).length ≤ 1
  /-- No two entries read as keyword arguments, be one of them under a tag. -/
  kwargs : (stored.valuesOf kwargsKey).length ≤ 1

theorem length_valuesOf_le (key value : Value) (rest : Mapping) (name : String) :
    (rest.valuesOf name).length ≤ (Mapping.valuesOf ((key, value) :: rest) name).length := by
  rw [Mapping.valuesOf_cons]
  split
  · apply Nat.le_succ
  · apply Nat.le_refl

theorem Single.of_cons {entry : Value × Value} {rest : Mapping} (h : Single (entry :: rest)) :
    Single rest where
  args := Nat.le_trans (length_valuesOf_le ..) h.args
  kwargs := Nat.le_trans (length_valuesOf_le ..) h.kwargs

/-- After the only entry under a name there is no other one. -/
theorem valuesOf_of_cons {key value : Value} {rest : Mapping} {name : String}
    (single : (Mapping.valuesOf ((key, value) :: rest) name).length ≤ 1)
    (here : key.text? = some name) : rest.valuesOf name = [] := by
  rw [Mapping.valuesOf_cons, if_pos here, List.length_cons] at single
  apply List.eq_nil_of_length_eq_zero
  omega

/-! ## What comes out -/

section

variable {key value : Value} {rest : Mapping}

theorem named_cons_of_raw (raw : isRaw (key, value) = true) :
    named ((key, value) :: rest) = named rest := by
  simp [named, raw]

theorem named_cons_of_not_raw (other : isRaw (key, value) = false) :
    named ((key, value) :: rest) = (key, value) :: named rest := by
  simp [named, other]

/-- An entry for positional arguments is what is stored of them, if no later entry is one too. -/
theorem storedIn_cons_args (isArgs : key.text? = some argsKey) (last : rest.valuesOf argsKey = [])
    (raw : RawArguments) :
    storedIn ((key, value) :: rest) raw = storedIn rest { raw with args := positional value } := by
  have notKwargs : key.text? ≠ some kwargsKey := by
    rw [isArgs]
    decide
  simp only [storedIn, Mapping.valuesOf_cons, if_pos isArgs, if_neg notKwargs, last, List.head?_cons,
    List.head?_nil, Option.elim_some, Option.elim_none]

/-- An entry for keyword arguments is what is stored of them, and it may be refused as that. -/
theorem storedIn_cons_kwargs (isKwargs : key.text? = some kwargsKey)
    (last : rest.valuesOf kwargsKey = []) (raw : RawArguments) :
    storedIn ((key, value) :: rest) raw =
      mappingOr .keywordsNotMapping value >>= fun kwargs => storedIn rest { raw with kwargs } := by
  have notArgs : key.text? ≠ some argsKey := by
    rw [isKwargs]
    decide
  simp only [storedIn, Mapping.valuesOf_cons, if_pos isKwargs, if_neg notArgs, last, List.head?_cons,
    List.head?_nil, Option.elim_some, Option.elim_none, Outcome.ok_bind]

/-- Other entries have no part in the raw arguments. -/
theorem storedIn_cons_named (notArgs : key.text? ≠ some argsKey)
    (notKwargs : key.text? ≠ some kwargsKey) (raw : RawArguments) :
    storedIn ((key, value) :: rest) raw = storedIn rest raw := by
  simp only [storedIn, Mapping.valuesOf_cons, if_neg notArgs, if_neg notKwargs]

end

/-- Collecting lays the named entries over those collected before, and finds what is stored as raw
arguments. -/
theorem collect_eq {stored : Mapping} (single : Single stored) (before : Mapping)
    (raw : RawArguments) :
    collect stored before raw =
      (storedIn stored raw).map fun raw => (Mapping.overlay before (named stored), raw) := by
  -- What was collected is left open, since every entry adds to it.
  induction stored generalizing before raw with
  | nil => rfl
  | cons entry rest ih =>
    obtain ⟨key, value⟩ := entry
    have step := ih single.of_cons
    unfold collect
    -- As in the program, a key is compared with the name of positional arguments first.
    by_cases isArgs : key.text? = some argsKey
    · have raws : isRaw (key, value) = true := by simp [isRaw, isArgs]
      rw [if_pos (beq_iff_eq.mpr isArgs), step, named_cons_of_raw raws,
        storedIn_cons_args isArgs (valuesOf_of_cons single.args isArgs)]
    · by_cases isKwargs : key.text? = some kwargsKey
      · have raws : isRaw (key, value) = true := by simp [isRaw, isKwargs]
        rw [if_neg (mt beq_iff_eq.mp isArgs), if_pos (beq_iff_eq.mpr isKwargs),
          named_cons_of_raw raws,
          storedIn_cons_kwargs isKwargs (valuesOf_of_cons single.kwargs isKwargs)]
        -- Both sides stop here, and for the same reason, or go on with the same keyword arguments.
        cases mappingOr Misconfiguration.keywordsNotMapping value with
        | error failure => rfl
        | ok kwargs =>
          rw [Outcome.ok_bind, Outcome.ok_bind]
          exact step before { raw with kwargs }
      · have other : isRaw (key, value) = false := by simp [isRaw, isArgs, isKwargs]
        rw [if_neg (mt beq_iff_eq.mp isArgs), if_neg (mt beq_iff_eq.mp isKwargs), step,
          named_cons_of_not_raw other, storedIn_cons_named isArgs isKwargs, Mapping.overlay_cons]

theorem differ_named {stored : Mapping} (differ : Yaml.Differ (Mapping.keys stored)) :
    Yaml.Differ (Mapping.keys (named stored)) :=
  List.Pairwise.sublist (List.Sublist.map _ List.filter_sublist) differ

/-- **What splitting gives**: the raw arguments that are stored, and the named ones laid over the
keyword arguments. -/
theorem split_eq {stored : Mapping} (differ : Yaml.keysDiffer stored = true)
    (single : Single stored) :
    split stored =
      (storedIn stored {}).map fun raw => (Mapping.overlay raw.kwargs (named stored), raw) := by
  have collected := collect_eq single [] {}
  rw [Mapping.nil_overlay (differ_named (Mapping.keysDiffer_iff.mp differ))] at collected
  unfold split
  rw [collected]
  cases storedIn stored {} <;> rfl

/-! ## When splitting fails -/

/-- What is neither a mapping nor null is refused, and only that. -/
theorem mappingOr_eq_error_iff {why : String → Misconfiguration} {value : Value}
    {failure : Failure} :
    mappingOr why value = .error failure ↔
      ¬ value.IsMappingOrNull ∧ failure = .misconfigured (why value.kindName) := by
  cases value <;> simp [mappingOr, Value.IsMappingOrNull, eq_comm]

/-- Splitting fails exactly if something else is stored as keyword arguments, and says what. -/
theorem split_eq_error_iff {stored : Mapping} (differ : Yaml.keysDiffer stored = true)
    (single : Single stored) {failure : Failure} :
    split stored = .error failure ↔
      ∃ value ∈ stored.valuesOf kwargsKey,
        ¬ value.IsMappingOrNull ∧
          failure = .misconfigured (.keywordsNotMapping value.kindName) := by
  have one := single.kwargs
  rw [split_eq differ single, storedIn]
  -- Whether it fails is a matter of the one entry for keyword arguments, if that is there at all.
  cases values : stored.valuesOf kwargsKey with
  | nil => simp [bind, Except.bind, pure, Except.pure, Except.map]
  | cons value rest =>
    rw [values, List.length_cons] at one
    have last : rest = [] :=
      List.length_eq_zero_iff.mp (Nat.le_zero.mp (Nat.le_of_succ_le_succ one))
    subst last
    simp only [List.head?_cons, Option.elim_some, List.mem_singleton, exists_eq_left,
      ← mappingOr_eq_error_iff]
    cases mappingOr Misconfiguration.keywordsNotMapping value <;>
      simp [bind, Except.bind, pure, Except.pure, Except.map]

/-! ## Where the entries stand -/

/-- Of one value at most there is one order only. -/
theorem eq_of_perm_of_single {xs ys : List Value} (perm : xs.Perm ys) (single : ys.length ≤ 1) :
    xs = ys := by
  match ys, single with
  | [], _ => exact perm.eq_nil
  | [y], _ => exact List.perm_singleton.mp perm

theorem valuesOf_perm {moved stored : Mapping} (perm : moved.Perm stored) (name : String) :
    (moved.valuesOf name).Perm (stored.valuesOf name) :=
  (perm.filter _).map _

/-- Moving the entries of raw arguments about among the others changes nothing. -/
theorem split_of_perm {moved stored : Mapping} (differ : Yaml.keysDiffer stored = true)
    (single : Single stored) (perm : moved.Perm stored) (others : named moved = named stored) :
    split moved = split stored := by
  have args := eq_of_perm_of_single (valuesOf_perm perm argsKey) single.args
  have kwargs := eq_of_perm_of_single (valuesOf_perm perm kwargsKey) single.kwargs
  have singleMoved : Single moved := ⟨args ▸ single.args, kwargs ▸ single.kwargs⟩
  have differMoved : Yaml.keysDiffer moved = true := by
    rw [Mapping.keysDiffer_iff] at differ ⊢
    -- That two keys differ does not depend on which of them comes first.
    refine (List.Perm.pairwise_iff ?_ (perm.map _)).mpr differ
    intro key other away
    rw [Value.same_comm]
    exact away
  rw [split_eq differMoved singleMoved, split_eq differ single, others, storedIn, storedIn, args,
    kwargs]

/-! ## Splitting what was captured -/

/-- A configuration without entries of raw arguments has neither of their two keys. -/
theorem not_isAmong_of_not_raw {configuration : Mapping}
    (plain : ∀ entry ∈ configuration, isRaw entry = false) {name : String}
    (isName : name = argsKey ∨ name = kwargsKey) :
    Yaml.isAmong (Mapping.keys configuration) (.string name) = false := by
  rw [Yaml.isAmong, List.any_eq_false]
  intro key member same
  obtain ⟨entry, memberEntry, rfl⟩ := List.mem_map.mp member
  have raw := plain entry memberEntry
  rw [isRaw, Value.eq_string_of_same same] at raw
  rcases isName with rfl | rfl <;> simp [Value.text?, Value.untagged] at raw

/-- A key that is new is set at the end. -/
theorem insert_of_not_isAmong {entries : Mapping} {key : Value}
    (missing : Yaml.isAmong (Mapping.keys entries) key = false) (value : Value) :
    Mapping.insert entries key value = entries ++ [(key, value)] := by
  induction entries with
  | nil => rfl
  | cons entry rest ih =>
    obtain ⟨first, old⟩ := entry
    rw [Mapping.keys_cons, Yaml.isAmong, List.any_cons, Bool.or_eq_false_iff] at missing
    rw [Mapping.insert, missing.1, ih missing.2]
    rfl

/-- Raw arguments are captured behind the configuration, except those of which there are none. -/
theorem store_eq {configuration : Mapping}
    (plain : ∀ entry ∈ configuration, isRaw entry = false) (raw : RawArguments) :
    store raw configuration =
      configuration ++
        ((if raw.args.isEmpty then [] else [(.string argsKey, .sequence raw.args)]) ++
          if raw.kwargs.isEmpty then [] else [(.string kwargsKey, .mapping raw.kwargs)]) := by
  have noArgs := not_isAmong_of_not_raw plain (.inl rfl)
  have noKwargs := not_isAmong_of_not_raw plain (.inr rfl)
  -- The entry that was set first does not stand in the way of the second.
  have noKwargsThen : Yaml.isAmong
      (Mapping.keys (configuration ++ [(.string argsKey, .sequence raw.args)]))
      (.string kwargsKey) = false := by
    simp only [Yaml.isAmong, Mapping.keys, List.map_append, List.any_append, List.map_cons,
      List.map_nil, List.any_cons, List.any_nil] at noKwargs ⊢
    rw [noKwargs]
    simp [Value.same, argsKey, kwargsKey]
  simp only [store, Mapping.put]
  split <;> split <;>
    simp only [insert_of_not_isAmong noArgs, insert_of_not_isAmong noKwargs,
      insert_of_not_isAmong noKwargsThen, List.append_nil, List.nil_append, List.append_assoc]

/-- Entries of the configuration are collected as they are. -/
theorem collect_append {configuration : Mapping}
    (plain : ∀ entry ∈ configuration, isRaw entry = false) (stored before : Mapping)
    (raw : RawArguments) :
    collect (configuration ++ stored) before raw =
      collect stored (Mapping.overlay before configuration) raw := by
  induction configuration generalizing before with
  | nil => rfl
  | cons entry rest ih =>
    obtain ⟨key, value⟩ := entry
    obtain ⟨here, there⟩ := List.forall_mem_cons.mp plain
    rw [isRaw, Bool.or_eq_false_iff] at here
    rw [List.cons_append, collect, here.1, here.2, Mapping.overlay_cons]
    exact ih there _

/-- What was captured splits into the raw arguments and the configuration, which is laid over the
keyword arguments. -/
theorem split_store {configuration : Mapping} (differ : Yaml.keysDiffer configuration = true)
    (plain : ∀ entry ∈ configuration, isRaw entry = false) (raw : RawArguments) :
    split (store raw configuration) = .ok (Mapping.overlay raw.kwargs configuration, raw) := by
  rw [split, store_eq plain, collect_append plain,
    Mapping.nil_overlay (Mapping.keysDiffer_iff.mp differ)]
  obtain ⟨args, kwargs⟩ := raw
  cases args <;> cases kwargs <;>
    simp [collect, Value.text?, Value.untagged, argsKey, kwargsKey, mappingOr, positional, bind,
      Except.bind, pure, Except.pure]

/-- **Splitting undoes capturing.** If no key of a configuration reads as a name of raw arguments,
then what is captured for it splits into just those raw arguments, whatever they are, and into the
union of the keyword arguments with the configuration, in which the configuration counts more. More
generally, arguments with at most one entry for either sort of raw ones cannot be split exactly if
what they have as keyword arguments is neither a mapping nor null; and it does not matter where
among the others these entries stand. -/
theorem splitting_undoes_capturing :
    (∀ (configuration : Mapping) (raw : RawArguments),
      Yaml.keysDiffer configuration = true → Yaml.keysDiffer raw.kwargs = true →
      (∀ entry ∈ configuration, isRaw entry = false) →
      ∃ captured parameters,
        capture (.mapping configuration) raw true = .ok captured ∧
        split captured = .ok (parameters, raw) ∧
        (∀ key, Mapping.find? parameters key =
          (Mapping.find? configuration key).or (Mapping.find? raw.kwargs key)) ∧
        Mapping.keys parameters =
          Mapping.keys raw.kwargs ++
            (Mapping.keys configuration).filter fun key => !Mapping.hasKey raw.kwargs key) ∧
    ∀ stored : Mapping, Yaml.keysDiffer stored = true → Single stored →
      (∀ failure, split stored = .error failure ↔
        ∃ entry ∈ stored, entry.1.text? = some kwargsKey ∧ ¬ entry.2.IsMappingOrNull ∧
          failure = .misconfigured (.keywordsNotMapping entry.2.kindName)) ∧
      ∀ moved : Mapping, moved.Perm stored → named moved = named stored →
        split moved = split stored := by
  constructor
  -- Capturing puts the raw arguments behind the configuration, so splitting meets that first.
  · intro configuration raw differ differKwargs plain
    have differConfiguration := Mapping.keysDiffer_iff.mp differ
    refine ⟨store raw configuration, _, rfl, split_store differ plain raw, fun key => ?_, ?_⟩
    · exact Mapping.find?_overlay raw.kwargs differConfiguration key
    · simp only [Mapping.hasKey_eq]
      exact Mapping.keys_overlay_of_differ (Mapping.keysDiffer_iff.mp differKwargs)
        differConfiguration
  · intro stored differ single
    refine ⟨fun failure => ?_, fun moved perm others => split_of_perm differ single perm others⟩
    rw [split_eq_error_iff differ single]
    simp only [Mapping.mem_valuesOf]
    constructor
    · rintro ⟨value, ⟨entry, member, reads, rfl⟩, refused, why⟩
      exact ⟨entry, member, reads, refused, why⟩
    · rintro ⟨entry, member, reads, refused, why⟩
      exact ⟨entry.2, ⟨entry, member, reads, rfl⟩, refused, why⟩

/-- A keyword argument has the name of a parameter, a parameter has its name under a tag, and the
raw arguments are moved to the front. A number in place of keyword arguments cannot be split off. -/
theorem splitting_undoes_capturing_clash :
    let configuration : Mapping := [(.string "dims", .nat 4), (.tagged "t" (.string "dims"), .null)]
    let raw : RawArguments :=
      ⟨[.string "x", .null], [(.string "extra", .bool true), (.string "dims", .nat 9)]⟩
    let entries : Mapping :=
      [(.string "args", .sequence raw.args), (.string "kwargs", .mapping raw.kwargs)]
    let scalar : Mapping := [(.tagged "t" (.string "kwargs"), .nat 3), (.string "dims", .nat 4)]
    Yaml.keysDiffer configuration = true ∧ Yaml.keysDiffer raw.kwargs = true ∧
      isRaw (.string "dims", .nat 4) = false ∧
      Yaml.keysDiffer (configuration ++ entries) = true ∧ Single (configuration ++ entries) ∧
      Single scalar ∧
      (∃ parameters,
        capture (.mapping configuration) raw true = .ok (configuration ++ entries) ∧
        split (configuration ++ entries) = .ok (parameters, raw) ∧
        split (entries ++ configuration) = .ok (parameters, raw) ∧
        Mapping.find? parameters (.string "dims") = some (.nat 4) ∧
        Mapping.keys parameters =
          [.string "extra", .string "dims", .tagged "t" (.string "dims")]) ∧
      split scalar = .error (.misconfigured (.keywordsNotMapping "a number")) := by
  intro configuration raw entries scalar
  have differ : Yaml.keysDiffer configuration = true := by
    simp [configuration, Yaml.keysDiffer, Mapping.hasKey, Value.same]
  have differKwargs : Yaml.keysDiffer raw.kwargs = true := by
    simp [raw, Yaml.keysDiffer, Mapping.hasKey, Value.same]
  have differStored : Yaml.keysDiffer (configuration ++ entries) = true := by
    simp [configuration, entries, Yaml.keysDiffer, Mapping.hasKey, Value.same]
  have differScalar : Yaml.keysDiffer scalar = true := by
    simp [scalar, Yaml.keysDiffer, Mapping.hasKey, Value.same]
  have plain : ∀ entry ∈ configuration, isRaw entry = false := by
    simp [configuration, isRaw, Value.text?, Value.untagged, argsKey, kwargsKey]
  have single : Single (configuration ++ entries) := by
    constructor <;>
      simp [configuration, entries, Mapping.valuesOf, Value.text?, Value.untagged, argsKey,
        kwargsKey]
  have singleScalar : Single scalar := by
    constructor <;> simp [scalar, Mapping.valuesOf, Value.text?, Value.untagged, argsKey, kwargsKey]
  have others : named (entries ++ configuration) = named (configuration ++ entries) := by
    simp [configuration, entries, named, isRaw, Value.text?, Value.untagged, argsKey, kwargsKey]
  obtain ⟨undoes, anywhere⟩ := splitting_undoes_capturing
  obtain ⟨captured, parameters, hCaptured, hSplit, under, order⟩ :=
    undoes configuration raw differ differKwargs plain
  have whole : capture (.mapping configuration) raw true = .ok (configuration ++ entries) :=
    congrArg Except.ok (store_eq plain raw)
  rw [whole] at hCaptured
  cases hCaptured
  refine ⟨differ, differKwargs, plain _ (List.mem_cons_self ..), differStored, single, singleScalar,
    ⟨parameters, whole, hSplit, ?_, ?_, ?_⟩, ?_⟩
  · rw [(anywhere _ differStored single).2 _ List.perm_append_comm others]
    exact hSplit
  · rw [under]
    simp [configuration, Mapping.find?, Value.same]
  · rw [order]
    simp [configuration, raw, Mapping.keys, Mapping.hasKey, Value.same]
  · refine ((anywhere scalar differScalar singleScalar).1 _).mpr
      ⟨_, List.mem_cons_self .., rfl, ?_, rfl⟩
    simp [Value.IsMappingOrNull, Value.nat]

end TextVec.RawArguments
