import TextVec.Yaml.Value

/-!
# Being the same key

Being one key is an equivalence of values: it does not matter in which order the entries of a
mapping come, nor how a number is written, and this goes for all values inside of a value. So what a
mapping has under a key does not depend on which of the values that are this key is asked for.
-/

namespace TextVec.Yaml

/-! ## Induction over values -/

/-- What holds of a value as soon as it holds of all values in it holds of every value. -/
@[elab_as_elim]
theorem Value.induction {P : Value → Prop} (null : P .null) (bool : ∀ b, P (.bool b))
    (number : ∀ n, P (.number n)) (string : ∀ text, P (.string text))
    (sequence : ∀ items, (∀ item ∈ items, P item) → P (.sequence items))
    (mapping : ∀ entries : Mapping, (∀ entry ∈ entries, P entry.1 ∧ P entry.2) →
      P (.mapping entries))
    (tagged : ∀ tag value, P value → P (.tagged tag value)) (value : Value) : P value := by
  -- The recursor is about lists and entries too; for these it is said of all that they contain.
  refine @Value.rec P (fun items => ∀ item ∈ items, P item)
    (fun entries => ∀ entry ∈ entries, P entry.1 ∧ P entry.2) (fun entry => P entry.1 ∧ P entry.2)
    null bool number string sequence mapping tagged ?_ ?_ ?_ ?_ ?_ value
  · simp
  · intro item items here there
    exact List.forall_mem_cons.mpr ⟨here, there⟩
  · simp
  · intro entry entries here there
    exact List.forall_mem_cons.mpr ⟨here, there⟩
  · intro key value here there
    exact ⟨here, there⟩

/-! ## Numbers -/

/-- Every number is the same as itself, also the one that is no number. -/
theorem Number.same_refl (a : Number) : a.same a = true := by
  cases a with
  | int a => simp [Number.same]
  | float a => exact a.same_refl

theorem Number.same_symm {a b : Number} (h : a.same b = true) : b.same a = true := by
  cases a <;> cases b <;> simp_all [Number.same]
  exact Double.same_symm h

theorem Number.same_trans {a b c : Number} (h : a.same b = true) (k : b.same c = true) :
    a.same c = true := by
  cases a <;> cases b <;> cases c <;> simp_all [Number.same]
  exact Double.same_trans h k

/-! ## What it is for sequences and mappings to be the same -/

theorem eachIn_iff {a b : Mapping} :
    eachIn a b = true ↔ ∀ x ∈ a, ∃ y ∈ b, x.1.same y.1 = true ∧ x.2.same y.2 = true := by
  induction a with
  | nil => simp [eachIn]
  | cons x rest ih =>
    obtain ⟨key, value⟩ := x
    simp [eachIn, ih]

theorem hasEntry_iff {a : Mapping} {y : Value × Value} :
    hasEntry a y = true ↔ ∃ x ∈ a, x.1.same y.1 = true ∧ x.2.same y.2 = true := by
  induction a with
  | nil => simp [hasEntry]
  | cons x rest ih =>
    obtain ⟨key, value⟩ := x
    simp [hasEntry, ih]

/-- Two mappings are the same if each of them has every entry of the other, and no more entries. -/
theorem Value.same_mapping_iff {a b : Mapping} :
    (Value.mapping a).same (.mapping b) = true ↔
      a.length = b.length ∧
      (∀ x ∈ a, ∃ y ∈ b, x.1.same y.1 = true ∧ x.2.same y.2 = true) ∧
      ∀ y ∈ b, ∃ x ∈ a, x.1.same y.1 = true ∧ x.2.same y.2 = true := by
  simp [Value.same, eachIn_iff, hasEntry_iff, and_assoc]

/-- Only a sequence is the same as a sequence, and likewise for every other sort of value. -/
theorem Value.eq_sequence_of_same {a : List Value} {b : Value}
    (h : (Value.sequence a).same b = true) : ∃ items, b = .sequence items := by
  cases b <;> simp_all [Value.same]

/-- Only a mapping is the same as a mapping. -/
theorem Value.eq_mapping_of_same {a : Mapping} {b : Value}
    (h : (Value.mapping a).same b = true) : ∃ entries, b = .mapping entries := by
  cases b <;> simp_all [Value.same]

/-! ## An equivalence -/

/-- Lists of values are compared item by item, so they inherit what holds of the items. -/
theorem sameItems_refl {a : List Value} (h : ∀ x ∈ a, x.same x = true) :
    sameItems a a = true := by
  induction a with
  | nil => rw [sameItems]
  | cons x rest ih =>
    obtain ⟨here, there⟩ := List.forall_mem_cons.mp h
    simp [sameItems, here, ih there]

theorem sameItems_symm {a b : List Value} (h : sameItems a b = true)
    (symm : ∀ x ∈ a, ∀ y, x.same y = true → y.same x = true) : sameItems b a = true := by
  induction a generalizing b with
  | nil => cases b <;> simp_all [sameItems]
  | cons x rest ih =>
    cases b with
    | nil => simp [sameItems] at h
    | cons y others =>
      simp only [sameItems, Bool.and_eq_true] at h ⊢
      obtain ⟨here, there⟩ := List.forall_mem_cons.mp symm
      exact ⟨here y h.1, ih h.2 there⟩

theorem sameItems_trans {a b c : List Value} (h : sameItems a b = true) (k : sameItems b c = true)
    (trans : ∀ x ∈ a, ∀ y z, x.same y = true → y.same z = true → x.same z = true) :
    sameItems a c = true := by
  induction a generalizing b c with
  | nil => cases b <;> simp_all [sameItems]
  | cons x rest ih =>
    cases b with
    | nil => simp [sameItems] at h
    | cons y others =>
      cases c with
      | nil => simp [sameItems] at k
      | cons z last =>
        simp only [sameItems, Bool.and_eq_true] at h k ⊢
        obtain ⟨here, there⟩ := List.forall_mem_cons.mp trans
        exact ⟨here y z h.1 k.1, ih h.2 k.2 there⟩

/-- **Every value is the same key as itself.** -/
theorem Value.same_refl (a : Value) : a.same a = true := by
  induction a using Value.induction with
  | null => rw [Value.same]
  | bool b => simp [Value.same]
  | number n => simp [Value.same, n.same_refl]
  | string text => simp [Value.same]
  | sequence items ih =>
    rw [Value.same]
    exact sameItems_refl ih
  | mapping entries ih =>
    rw [Value.same_mapping_iff]
    exact ⟨rfl, fun x h => ⟨x, h, ih x h⟩, fun x h => ⟨x, h, ih x h⟩⟩
  | tagged tag value ih => simp [Value.same, ih]

/-- **Being the same key does not depend on the order** of the two. -/
theorem Value.same_symm {a b : Value} (h : a.same b = true) : b.same a = true := by
  induction a using Value.induction generalizing b with
  | null => cases b <;> simp_all [Value.same]
  | bool _ => cases b <;> simp_all [Value.same]
  | number n =>
    cases b <;> simp_all [Value.same]
    exact Number.same_symm h
  | string _ => cases b <;> simp_all [Value.same]
  | sequence items ih =>
    obtain ⟨others, rfl⟩ := Value.eq_sequence_of_same h
    rw [Value.same] at h ⊢
    exact sameItems_symm h fun x member y same => ih x member same
  | mapping entries ih =>
    obtain ⟨others, rfl⟩ := Value.eq_mapping_of_same h
    rw [Value.same_mapping_iff] at h ⊢
    obtain ⟨long, left, right⟩ := h
    -- The entries of the one that the other has are turned around one by one.
    refine ⟨long.symm, fun y hy => ?_, fun x hx => ?_⟩
    · obtain ⟨x, hx, sameKey, sameValue⟩ := right y hy
      exact ⟨x, hx, (ih x hx).1 sameKey, (ih x hx).2 sameValue⟩
    · obtain ⟨y, hy, sameKey, sameValue⟩ := left x hx
      exact ⟨y, hy, (ih x hx).1 sameKey, (ih x hx).2 sameValue⟩
  | tagged tag value ih =>
    cases b with
    | tagged other payload =>
      simp only [Value.same, Bool.and_eq_true, beq_iff_eq] at h ⊢
      exact ⟨h.1.symm, ih h.2⟩
    | _ => simp [Value.same] at h

/-- **Values that are the same key as a third one are the same key.** -/
theorem Value.same_trans {a b c : Value} (h : a.same b = true) (k : b.same c = true) :
    a.same c = true := by
  induction a using Value.induction generalizing b c with
  | null => cases b <;> simp_all [Value.same]
  | bool _ => cases b <;> simp_all [Value.same]
  | number n =>
    cases b with
    | number m =>
      cases c with
      | number o =>
        rw [Value.same] at h k ⊢
        exact Number.same_trans h k
      | _ => simp [Value.same] at k
    | _ => simp [Value.same] at h
  | string _ => cases b <;> simp_all [Value.same]
  | sequence items ih =>
    -- A list is compared with lists only, so all three are lists.
    obtain ⟨others, rfl⟩ := Value.eq_sequence_of_same h
    obtain ⟨last, rfl⟩ := Value.eq_sequence_of_same k
    rw [Value.same] at h k ⊢
    exact sameItems_trans h k fun x member y z => ih x member
  | mapping entries ih =>
    obtain ⟨others, rfl⟩ := Value.eq_mapping_of_same h
    obtain ⟨last, rfl⟩ := Value.eq_mapping_of_same k
    rw [Value.same_mapping_iff] at h k ⊢
    obtain ⟨long, left, right⟩ := h
    obtain ⟨longer, onward, backward⟩ := k
    -- Entries are found again through the mapping in the middle, since their order may differ.
    refine ⟨long.trans longer, fun x hx => ?_, fun z hz => ?_⟩
    · obtain ⟨y, hy, sameKey, sameValue⟩ := left x hx
      obtain ⟨z, hz, nextKey, nextValue⟩ := onward y hy
      exact ⟨z, hz, (ih x hx).1 sameKey nextKey, (ih x hx).2 sameValue nextValue⟩
    · obtain ⟨y, hy, nextKey, nextValue⟩ := backward z hz
      obtain ⟨x, hx, sameKey, sameValue⟩ := right y hy
      exact ⟨x, hx, (ih x hx).1 sameKey nextKey, (ih x hx).2 sameValue nextValue⟩
  | tagged tag value ih =>
    cases b with
    | tagged other payload =>
      cases c with
      | tagged last inner =>
        simp only [Value.same, Bool.and_eq_true, beq_iff_eq] at h k ⊢
        exact ⟨h.1.trans k.1, ih h.2 k.2⟩
      | _ => simp [Value.same] at k
    | _ => simp [Value.same] at h

theorem Value.same_comm (a b : Value) : a.same b = b.same a :=
  Bool.eq_iff_iff.mpr ⟨Value.same_symm, Value.same_symm⟩

/-- Of two values that are the same, both are the same as a third one or neither is. -/
theorem Value.same_congr {a b : Value} (h : a.same b = true) (c : Value) :
    a.same c = b.same c :=
  Bool.eq_iff_iff.mpr ⟨fun k => Value.same_trans (Value.same_symm h) k, fun k => Value.same_trans h k⟩

end TextVec.Yaml
