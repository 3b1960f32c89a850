import TextVec.Yaml.Value

/-!
# Equality of YAML values

Whether two values are one and the same can be decided. This is stricter than being one key: the
entries of a mapping must be in the same order, and numbers must have the same bits.
-/

namespace TextVec.Yaml

/-! ## A test of equality -/

mutual

/-- Whether two values are equal, entry by entry. -/
def Value.beq : Value → Value → Bool
  | .null, .null => true
  | .bool a, .bool b => a == b
  | .number a, .number b => a == b
  | .string a, .string b => a == b
  | .sequence a, .sequence b => beqItems a b
  | .mapping a, .mapping b => beqEntries a b
  | .tagged s a, .tagged t b => s == t && a.beq b
  | _, _ => false

def beqItems : List Value → List Value → Bool
  | [], [] => true
  | a :: as, b :: bs => a.beq b && beqItems as bs
  | _, _ => false

def beqEntries : List (Value × Value) → List (Value × Value) → Bool
  | [], [] => true
  | (k, a) :: as, (l, b) :: bs => k.beq l && a.beq b && beqEntries as bs
  | _, _ => false

end

/-! ## The test is right -/

mutual

/-- Values that pass the test are equal, by the structure of the first one. -/
theorem Value.eq_of_beq : ∀ {a b : Value}, a.beq b = true → a = b
  | .sequence a, .sequence b, h => by
    rw [Value.beq] at h
    rw [eq_of_beqItems h]
  | .mapping a, .mapping b, h => by
    rw [Value.beq] at h
    rw [eq_of_beqEntries h]
  | .tagged s a, .tagged t b, h => by
    rw [Value.beq, Bool.and_eq_true, beq_iff_eq] at h
    rw [h.1, Value.eq_of_beq h.2]
  -- A value that has no other values in it is equal only to one of its own sort.
  | .null, b, h => by cases b <;> simp_all [Value.beq]
  | .bool _, b, h => by cases b <;> simp_all [Value.beq]
  | .number _, b, h => by cases b <;> simp_all [Value.beq]
  | .string _, b, h => by cases b <;> simp_all [Value.beq]

theorem eq_of_beqItems : ∀ {as bs : List Value}, beqItems as bs = true → as = bs
  | [], [], _ => rfl
  | a :: as, b :: bs, h => by
    rw [beqItems, Bool.and_eq_true] at h
    rw [Value.eq_of_beq h.1, eq_of_beqItems h.2]

theorem eq_of_beqEntries : ∀ {as bs : List (Value × Value)}, beqEntries as bs = true → as = bs
  | [], [], _ => rfl
  | (k, a) :: as, (l, b) :: bs, h => by
    rw [beqEntries, Bool.and_eq_true, Bool.and_eq_true] at h
    rw [Value.eq_of_beq h.1.1, Value.eq_of_beq h.1.2, eq_of_beqEntries h.2]

end

mutual

/-- Every value passes the test with itself. -/
theorem Value.beq_self : ∀ a : Value, a.beq a = true
  | .sequence a => by rw [Value.beq, beqItems_self]
  | .mapping a => by rw [Value.beq, beqEntries_self]
  | .tagged s a => by rw [Value.beq, beq_self_eq_true, Value.beq_self, Bool.and_self]
  | .null => rfl
  | .bool _ => by rw [Value.beq, beq_self_eq_true]
  | .number _ => by rw [Value.beq, beq_self_eq_true]
  | .string _ => by rw [Value.beq, beq_self_eq_true]

theorem beqItems_self : ∀ as : List Value, beqItems as as = true
  | [] => rfl
  | a :: as => by rw [beqItems, Value.beq_self, beqItems_self, Bool.and_self]

theorem beqEntries_self : ∀ as : List (Value × Value), beqEntries as as = true
  | [] => rfl
  | (k, a) :: as => by
    rw [beqEntries, Value.beq_self, Value.beq_self, beqEntries_self, Bool.and_self, Bool.and_self]

end

instance : DecidableEq Value := fun a b =>
  decidable_of_iff (a.beq b = true) ⟨Value.eq_of_beq, fun h => h ▸ a.beq_self⟩

end TextVec.Yaml
