import TextVec.Proofs.Yaml.SameValue
import TextVec.Yaml.Read

/-!
# Mappings laid over each other

A mapping is known by its keys, in their order, and by what it has under each of them. Laying
another one over it is a union: it has the keys of both in the order of their first occurrence, and
under each of them what the later mapping has, if that has anything. All laws of laying mappings
over each other are read off these two facts.
-/

namespace TextVec.Yaml

/-! ## Keys in the order of their first occurrence -/

/-- The keys among values: of those that are one key, only the first. -/
def firstOf : List Value → List Value
  | [] => []
  | key :: rest => key :: (firstOf rest).filter fun other => !key.same other

/-- Whether a key is among values. -/
def isAmong (keys : List Value) (key : Value) : Bool := keys.any fun other => other.same key

/-- Whether a key is among values does not depend on its spelling. -/
theorem isAmong_congr {key other : Value} (h : key.same other = true) (keys : List Value) :
    isAmong keys key = isAmong keys other := by
  unfold isAmong
  congr 1
  funext first
  rw [Value.same_comm first key, Value.same_congr h, Value.same_comm other first]

/-- What none of some values is as a key, no other spelling of it is among them either. -/
theorem not_isAmong_of_same {first key : Value} {others : List Value}
    (away : ∀ other ∈ others, first.same other = false) (same : first.same key = true) :
    isAmong others key = false := by
  rw [← isAmong_congr same, isAmong, List.any_eq_false]
  intro other member
  rw [Value.same_comm, away other member]
  simp

/-- Every value is still there as a key. -/
theorem isAmong_firstOf (keys : List Value) (key : Value) :
    isAmong (firstOf keys) key = isAmong keys key := by
  induction keys with
  | nil => rfl
  | cons first rest ih =>
    unfold isAmong at ih
    simp only [firstOf, isAmong, List.any_cons, List.any_filter, ← ih]
    cases same : first.same key with
    | true => simp
    | false =>
      -- Only such values are left out as are the first one, and the key is not.
      rw [Bool.false_or, Bool.false_or]
      congr 1
      funext other
      cases sameOther : other.same key with
      | false => simp
      | true =>
        rw [Value.same_comm first other, Value.same_congr sameOther, Value.same_comm, same]
        rfl

/-- Of two lists of values, the keys of the first come first, and then those that are new. -/
theorem firstOf_append (before after : List Value) :
    firstOf (before ++ after) =
      firstOf before ++ (firstOf after).filter fun key => !isAmong before key := by
  induction before with
  | nil =>
    have all : (firstOf after).filter (fun key => !isAmong [] key) = firstOf after :=
      List.filter_eq_self.mpr fun _ _ => rfl
    rw [all]
    rfl
  | cons first rest ih =>
    simp only [List.cons_append, firstOf, ih, List.filter_append, List.filter_filter, isAmong,
      List.any_cons, Bool.not_or]

/-- Values of which no two are one key. -/
def Differ (keys : List Value) : Prop := keys.Pairwise fun first later => first.same later = false

/-- No two keys among values are one key. -/
theorem differ_firstOf (keys : List Value) : Differ (firstOf keys) := by
  induction keys with
  | nil => exact List.Pairwise.nil
  | cons key rest ih =>
    refine List.Pairwise.cons ?_ (List.Pairwise.filter _ ih)
    intro other member
    have kept := (List.mem_filter.mp member).2
    rwa [Bool.not_eq_true'] at kept

/-- Where no two values are one key, nothing is left out. -/
theorem firstOf_of_differ {keys : List Value} (differ : Differ keys) : firstOf keys = keys := by
  induction keys with
  | nil => rfl
  | cons key rest ih =>
    obtain ⟨others, differ⟩ := List.pairwise_cons.mp differ
    have all : rest.filter (fun other => !key.same other) = rest :=
      List.filter_eq_self.mpr fun other member => by rw [others other member]; rfl
    rw [firstOf, ih differ, all]

/-- Keys that differ already are left as they are. -/
theorem firstOf_firstOf (keys : List Value) : firstOf (firstOf keys) = firstOf keys :=
  firstOf_of_differ (differ_firstOf keys)

theorem firstOf_append_left (before after : List Value) :
    firstOf (firstOf before ++ after) = firstOf (before ++ after) := by
  rw [firstOf_append, firstOf_append, firstOf_firstOf]
  simp only [isAmong_firstOf]

theorem firstOf_append_right (before after : List Value) :
    firstOf (before ++ firstOf after) = firstOf (before ++ after) := by
  rw [firstOf_append, firstOf_append, firstOf_firstOf]

namespace Mapping

/-! ## Keys and what is under them -/

/-- The keys of a mapping, in order. -/
def keys (entries : Mapping) : List Value := entries.map (·.1)

@[simp]
theorem keys_nil : keys [] = [] := rfl

@[simp]
theorem keys_cons (key value : Value) (rest : Mapping) :
    keys ((key, value) :: rest) = key :: keys rest := rfl

theorem hasKey_eq (entries : Mapping) (key : Value) :
    hasKey entries key = isAmong (keys entries) key := by
  simp [hasKey, isAmong, keys, List.any_map, Function.comp_def]

theorem keysDiffer_iff {entries : Mapping} : keysDiffer entries = true ↔ Differ (keys entries) := by
  induction entries with
  | nil => simp [keysDiffer, Differ]
  | cons entry rest ih =>
    obtain ⟨key, value⟩ := entry
    simp only [keysDiffer, Bool.and_eq_true, ih, Differ, keys_cons, List.pairwise_cons,
      Bool.not_eq_true', hasKey_eq, isAmong, List.any_eq_false, Bool.not_eq_true]
    -- The reader compares later keys with earlier ones, which comes to the same.
    simp only [Value.same_comm key]

@[simp]
theorem find?_nil (key : Value) : find? [] key = none := rfl

theorem find?_cons (first value : Value) (rest : Mapping) (key : Value) :
    find? ((first, value) :: rest) key =
      if first.same key then some value else find? rest key := by
  unfold find?
  rw [List.find?_cons]
  cases first.same key <;> rfl

/-- Something is found exactly under the keys of the mapping. -/
theorem isSome_find? (entries : Mapping) (key : Value) :
    (find? entries key).isSome = isAmong (keys entries) key := by
  induction entries with
  | nil => rfl
  | cons entry rest ih =>
    obtain ⟨first, value⟩ := entry
    unfold isAmong at ih
    rw [find?_cons, keys_cons, isAmong, List.any_cons, ← ih]
    cases first.same key <;> simp

theorem find?_eq_none_iff {entries : Mapping} {key : Value} :
    find? entries key = none ↔ isAmong (keys entries) key = false := by
  rw [← isSome_find?, Option.isSome_eq_false_iff, Option.isNone_iff_eq_none]

/-- Mappings with the same keys in the same order, and the same values under them, are the same. -/
theorem eq_of_keys_eq {a b : Mapping} (differ : Differ (keys a)) (sameKeys : keys a = keys b)
    (sameValues : ∀ key, find? a key = find? b key) : a = b := by
  -- Entry by entry: the keys are given, and what the first entry has is found under its key.
  induction a generalizing b with
  | nil =>
    cases b with
    | nil => rfl
    | cons _ _ => cases sameKeys
  | cons first rest ih =>
    cases b with
    | nil => cases sameKeys
    | cons other others =>
      obtain ⟨key, value⟩ := first
      obtain ⟨otherKey, otherValue⟩ := other
      obtain ⟨rfl, restKeys⟩ := List.cons.inj sameKeys
      obtain ⟨away, differ⟩ := List.pairwise_cons.mp differ
      have here := sameValues key
      rw [find?_cons, find?_cons, Value.same_refl, if_pos rfl, if_pos rfl, Option.some.injEq] at here
      have restEq : rest = others := by
        refine ih differ restKeys fun asked => ?_
        by_cases same : key.same asked = true
        · -- The first key is none of the others, so neither rest has anything under it.
          have missing : isAmong (keys rest) asked = false := not_isAmong_of_same away same
          have missingToo : isAmong (keys others) asked = false := by
            rw [← show keys rest = keys others from restKeys]
            exact missing
          rw [find?_eq_none_iff.mpr missing, find?_eq_none_iff.mpr missingToo]
        · have there := sameValues asked
          rwa [find?_cons, find?_cons, if_neg same, if_neg same] at there
      rw [here, restEq]

/-! ## Setting one entry -/

/-- A key that is there already keeps its place and its spelling. -/
theorem keys_insert (entries : Mapping) (key value : Value) :
    keys (insert entries key value) =
      if isAmong (keys entries) key then keys entries else keys entries ++ [key] := by
  induction entries with
  | nil => rfl
  | cons entry rest ih =>
    obtain ⟨first, old⟩ := entry
    unfold insert
    by_cases same : first.same key = true
    · simp [same, isAmong]
    · have among : isAmong (first :: keys rest) key = isAmong (keys rest) key := by
        simp [isAmong, same]
      rw [if_neg same, keys_cons, ih, keys_cons, among]
      split <;> rfl

/-- Under the key that is set there is the value, and under all others what was there. -/
theorem find?_insert (entries : Mapping) (key value asked : Value) :
    find? (insert entries key value) asked =
      if key.same asked then some value else find? entries asked := by
  induction entries with
  | nil => rw [insert, find?_cons]
  | cons entry rest ih =>
    obtain ⟨first, old⟩ := entry
    unfold insert
    by_cases same : first.same key = true
    · -- What is asked for is the key that was there exactly if it is the key that is set.
      rw [if_pos same, find?_cons, find?_cons, Value.same_congr same]
      split <;> rfl
    · rw [if_neg same, find?_cons, find?_cons, ih]
      by_cases here : first.same asked = true
      · have other : ¬ key.same asked = true := fun h =>
          same (Value.same_trans here (Value.same_symm h))
        rw [if_pos here, if_neg other, if_pos here]
      · rw [if_neg here, if_neg here]

/-! ## Laying one mapping over another -/

@[simp]
theorem overlay_nil (entries : Mapping) : overlay entries [] = entries := rfl

theorem overlay_cons (entries : Mapping) (key value : Value) (rest : Mapping) :
    overlay entries ((key, value) :: rest) = overlay (insert entries key value) rest := rfl

/-- **The keys of a union**: those of both mappings, in the order of their first occurrence. -/
theorem keys_overlay {entries : Mapping} (differ : Differ (keys entries)) (later : Mapping) :
    keys (overlay entries later) = firstOf (keys entries ++ keys later) := by
  -- On the later mapping, of which one entry after the other is set in the earlier one.
  induction later generalizing entries with
  | nil => simp [firstOf_of_differ differ]
  | cons entry rest ih =>
    obtain ⟨key, value⟩ := entry
    have inserted : keys (insert entries key value) = firstOf (keys entries ++ [key]) := by
      rw [keys_insert, firstOf_append, firstOf_of_differ differ]
      cases among : isAmong (keys entries) key <;> simp [firstOf, among]
    have differInserted : Differ (keys (insert entries key value)) := by
      rw [inserted]
      exact differ_firstOf _
    rw [overlay_cons, ih differInserted, inserted, firstOf_append_left, List.append_assoc, keys_cons,
      List.singleton_append]

/-- A union has no key twice. -/
theorem differ_overlay {entries : Mapping} (differ : Differ (keys entries)) (later : Mapping) :
    Differ (keys (overlay entries later)) := by
  rw [keys_overlay differ]
  exact differ_firstOf _

/-- **What a union has under a key**: what the later mapping has, or else what the earlier one
has. -/
theorem find?_overlay (entries : Mapping) {later : Mapping} (differ : Differ (keys later))
    (key : Value) :
    find? (overlay entries later) key = (find? later key).or (find? entries key) := by
  induction later generalizing entries with
  | nil => rfl
  | cons entry rest ih =>
    obtain ⟨first, value⟩ := entry
    obtain ⟨away, differ⟩ := List.pairwise_cons.mp differ
    rw [overlay_cons, ih _ differ, find?_insert, find?_cons]
    by_cases same : first.same key = true
    · -- No later entry has this key, so the one that was set now stays.
      have missing : find? rest key = none :=
        find?_eq_none_iff.mpr (not_isAmong_of_same away same)
      rw [if_pos same, if_pos same, missing]
      rfl
    · rw [if_neg same, if_neg same]

/-- Laying a mapping over the empty one gives the mapping. -/
theorem nil_overlay {entries : Mapping} (differ : Differ (keys entries)) :
    overlay [] entries = entries := by
  have empty : Differ (keys []) := List.Pairwise.nil
  refine eq_of_keys_eq (differ_overlay empty entries) ?_ fun key => ?_
  · rw [keys_overlay empty, keys_nil, List.nil_append, firstOf_of_differ differ]
  · rw [find?_overlay [] differ, find?_nil, Option.or_none]

/-- **A union is associative**, since both facts of it are. -/
theorem overlay_assoc {a b c : Mapping} (differA : Differ (keys a)) (differB : Differ (keys b))
    (differC : Differ (keys c)) : overlay (overlay a b) c = overlay a (overlay b c) := by
  have differAB := differ_overlay differA b
  have differBC := differ_overlay differB c
  -- The keys are in the order of their first occurrence in all three, and the last value counts.
  refine eq_of_keys_eq (differ_overlay differAB c) ?_ fun key => ?_
  · rw [keys_overlay differAB, keys_overlay differA, keys_overlay differA, keys_overlay differB,
      firstOf_append_left, firstOf_append_right, List.append_assoc]
  · rw [find?_overlay _ differC, find?_overlay _ differB, find?_overlay _ differBC,
      find?_overlay _ differC, Option.or_assoc]

/-- Laying a mapping over itself changes nothing. -/
theorem overlay_self {entries : Mapping} (differ : Differ (keys entries)) :
    overlay entries entries = entries := by
  refine eq_of_keys_eq (differ_overlay differ entries) ?_ fun key => ?_
  · have nothingNew : (firstOf (keys entries)).filter
        (fun key => !isAmong (keys entries) key) = [] := by
      rw [List.filter_eq_nil_iff, firstOf_of_differ differ]
      intro key member
      have there : isAmong (keys entries) key = true :=
        List.any_eq_true.mpr ⟨key, member, key.same_refl⟩
      rw [there]
      simp
    rw [keys_overlay differ, firstOf_append, nothingNew, List.append_nil, firstOf_of_differ differ]
  · rw [find?_overlay entries differ]
    cases find? entries key <;> rfl

/-- The keys of a union are those of the earlier mapping and then the new ones of the later. -/
theorem keys_overlay_of_differ {entries later : Mapping} (differ : Differ (keys entries))
    (differLater : Differ (keys later)) :
    keys (overlay entries later) =
      keys entries ++ (keys later).filter fun key => !isAmong (keys entries) key := by
  rw [keys_overlay differ, firstOf_append, firstOf_of_differ differ, firstOf_of_differ differLater]

/-! ## Many mappings laid over each other -/

/-- Laying mappings over each other one after the other gives the keys of all of them in the order
of their first occurrence, and under each key what the last mapping has that has anything there. -/
theorem keys_foldl_overlay {entries : Mapping} (differ : Differ (keys entries))
    (later : List Mapping) :
    keys (later.foldl overlay entries) = firstOf (keys entries ++ later.flatMap keys) := by
  induction later generalizing entries with
  | nil => simp [firstOf_of_differ differ]
  | cons next rest ih =>
    rw [List.foldl_cons, ih (differ_overlay differ next), keys_overlay differ, firstOf_append_left,
      List.flatMap_cons, List.append_assoc]

theorem find?_foldl_overlay (entries : Mapping) {later : List Mapping}
    (differ : ∀ next ∈ later, Differ (keys next)) (key : Value) :
    find? (later.foldl overlay entries) key =
      (entries :: later).reverse.findSome? fun captured => find? captured key := by
  induction later generalizing entries with
  | nil => simp
  | cons next rest ih =>
    obtain ⟨here, there⟩ := List.forall_mem_cons.mp differ
    rw [List.foldl_cons, ih _ there]
    simp only [List.reverse_cons, List.findSome?_append, List.append_assoc, find?_overlay _ here,
      List.findSome?_cons, List.findSome?_nil, List.cons_append, List.nil_append]
    -- What the next mapping has hides what is under it.
    cases find? next key <;> cases find? entries key <;> rfl

end Mapping

end TextVec.Yaml
