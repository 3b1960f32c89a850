import TextVec.Proofs.Text.Decomposition

/-!
# Normal forms

Composing what was taken apart, and taking that apart again, changes nothing. Main statements: the
normal form of a text is taken apart into the same characters as the text, so that two texts have
the same normal form exactly if they are taken apart into the same characters, and a normal form is
its own normal form.
-/

namespace TextVec.Text

/-! ## Marks in canonical order -/

/-- Marks of different classes can be inserted in any order. -/
theorem insertMark_insertMark {a b : Char} (mark : combiningClass a ≠ 0)
    (less : combiningClass a < combiningClass b) (text : List Char) :
    insertMark b (insertMark a text) = insertMark a (insertMark b text) := by
  -- Before a starter, or where both marks are still below, they stand side by side; else the
  -- insertion goes on.
  induction text with
  | nil => simp [insertMark, mark, Nat.not_le_of_lt less, Nat.le_of_lt less]
  | cons c rest ih =>
    by_cases starter : combiningClass c = 0
    · have notStarter : combiningClass b ≠ 0 := by omega
      simp [insertMark, starter, mark, Nat.not_le_of_lt less, Nat.le_of_lt less]
    · by_cases before : combiningClass a ≤ combiningClass c
      · by_cases both : combiningClass b ≤ combiningClass c
        · simp [insertMark, starter, before, both, mark, Nat.not_le_of_lt less, Nat.le_of_lt less]
        · simp [insertMark, starter, before, both, mark, Nat.not_le_of_lt less]
      · have neither : ¬ combiningClass b ≤ combiningClass c := by omega
        simp [insertMark, starter, before, neither, ih]

/-- Nothing is moved over a starter. -/
theorem orderMarks_cons_of_starter {c : Char} (starter : combiningClass c = 0)
    (rest : List Char) : orderMarks (c :: rest) = c :: orderMarks rest := by
  rw [orderMarks, if_pos starter]

/-- A mark is inserted among those behind it. -/
theorem orderMarks_cons_of_mark {c : Char} (mark : combiningClass c ≠ 0) (rest : List Char) :
    orderMarks (c :: rest) = insertMark c (orderMarks rest) := by
  rw [orderMarks, if_neg mark]

/-- The order of what follows is all that matters of it. -/
theorem orderMarks_append_congr (front : List Char) {rest other : List Char}
    (same : orderMarks rest = orderMarks other) :
    orderMarks (front ++ rest) = orderMarks (front ++ other) := by
  induction front with
  | nil => exact same
  | cons c front ih => rw [List.cons_append, List.cons_append, orderMarks, orderMarks, ih]

/-- A mark may stand before marks of lower classes, since it will be put behind them. -/
theorem orderMarks_move {c : Char} {marks : List Char}
    (lower : ∀ m ∈ marks, combiningClass m ≠ 0 ∧ combiningClass m < combiningClass c)
    (rest : List Char) : orderMarks (c :: (marks ++ rest)) = orderMarks (marks ++ c :: rest) := by
  -- On the marks before which it stands: it changes places with one after the other.
  induction marks with
  | nil => rfl
  | cons m marks ih =>
    obtain ⟨⟨mark, less⟩, others⟩ := List.forall_mem_cons.mp lower
    have moved := ih others
    have notStarter : combiningClass c ≠ 0 := by omega
    rw [orderMarks_cons_of_mark notStarter] at moved
    rw [List.cons_append, orderMarks_cons_of_mark notStarter, orderMarks_cons_of_mark mark,
      insertMark_insertMark mark less, moved, List.cons_append, orderMarks_cons_of_mark mark]

/-- A mark that was inserted anywhere in its run is put into the same place. -/
theorem orderMarks_insertMark {c : Char} (mark : combiningClass c ≠ 0) (text : List Char) :
    orderMarks (insertMark c text) = insertMark c (orderMarks text) := by
  induction text with
  | nil => rw [insertMark, orderMarks_cons_of_mark mark]
  | cons d rest ih =>
    rw [insertMark]
    split
    · rw [orderMarks_cons_of_mark mark]
    · rename_i after
      obtain ⟨other, less⟩ : combiningClass d ≠ 0 ∧ combiningClass d < combiningClass c := by
        simpa using after
      rw [orderMarks_cons_of_mark other, ih, ← insertMark_insertMark other less,
        orderMarks_cons_of_mark other]

/-- Marks in order stay in order. -/
theorem orderMarks_orderMarks (text : List Char) :
    orderMarks (orderMarks text) = orderMarks text := by
  induction text with
  | nil => rfl
  | cons c rest ih =>
    by_cases starter : combiningClass c = 0
    · rw [orderMarks_cons_of_starter starter, orderMarks_cons_of_starter starter, ih]
    · rw [orderMarks_cons_of_mark starter, orderMarks_insertMark starter, ih]

theorem mem_insertMark {c d : Char} {text : List Char} :
    d ∈ insertMark c text ↔ d = c ∨ d ∈ text := by
  induction text with
  | nil => simp [insertMark]
  | cons e rest ih =>
    rw [insertMark]
    split
    · rw [List.mem_cons]
    · rw [List.mem_cons, ih, List.mem_cons, or_left_comm]

/-- Ordering marks keeps all characters. -/
theorem mem_orderMarks {d : Char} {text : List Char} : d ∈ orderMarks text ↔ d ∈ text := by
  induction text with
  | nil => rfl
  | cons c rest ih =>
    rw [orderMarks]
    split
    · rw [List.mem_cons, ih, List.mem_cons]
    · rw [mem_insertMark, ih, List.mem_cons]

/-- The marks of a text that comes after a mark of class `last` are in canonical order. -/
inductive InOrder : (last : Nat) → List Char → Prop where
  /-- There is nothing left. -/
  | nil {last : Nat} : InOrder last []
  /-- A starter, or a mark of a class that is not below the one before it. -/
  | cons {last : Nat} {c : Char} {rest : List Char}
      (place : combiningClass c = 0 ∨ last ≤ combiningClass c)
      (others : InOrder (combiningClass c) rest) : InOrder last (c :: rest)

theorem InOrder.of_le {k l : Nat} {text : List Char} (h : InOrder l text) (le : k ≤ l) :
    InOrder k text := by
  cases h with
  | nil => exact .nil
  | cons place others => exact .cons (place.imp_right (Nat.le_trans le)) others

/-- Inserting a mark keeps the order. -/
theorem inOrder_insertMark {l : Nat} {c : Char} {text : List Char} (h : InOrder l text)
    (le : l ≤ combiningClass c) : InOrder l (insertMark c text) := by
  induction h with
  | nil => exact .cons (.inr le) .nil
  | @cons l d rest place others ih =>
    rw [insertMark]
    split
    · rename_i before
      exact .cons (.inr le) (.cons (by simpa using before) others)
    · rename_i after
      rw [Bool.or_eq_true, decide_eq_true_eq, decide_eq_true_eq, not_or] at after
      exact .cons place (ih (Nat.le_of_not_le after.2))

/-- Ordering marks brings them into order. -/
theorem inOrder_orderMarks (text : List Char) : InOrder 0 (orderMarks text) := by
  induction text with
  | nil => exact .nil
  | cons c rest ih =>
    rw [orderMarks]
    split
    · rename_i starter
      exact .cons (.inl starter) (by rwa [starter])
    · exact inOrder_insertMark ih (Nat.zero_le _)

/-! ## Composing -/

/-- Whether nothing stands between the starter and a mark that keeps it from composing, where `last`
is the class of the mark before it, if there is one. -/
def Free (last : Option Nat) (c : Char) : Prop := ∀ l, last = some l → l < combiningClass c

/-- What is done with the character after a starter: it composes with the starter, or it is the
next starter, or it is held. -/
inductive Step (starter : Char) (held : List Char) (last : Option Nat) (c : Char)
    (rest : List Char) : List Char → Prop where
  /-- It composes with the starter, and nothing stands between them that keeps it from that. -/
  | composes {composite : Char} (free : Free last c)
      (found : composePair? starter c = some composite) :
      Step starter held last c rest (composeAfter composite held last rest)
  /-- It is a starter that does not compose with the one before it. -/
  | starts (kept : Free last c → composePair? starter c = none) (class' : combiningClass c = 0) :
      Step starter held last c rest (starter :: (held.reverse ++ composeAfter c [] none rest))
  /-- It is a mark that does not compose, or that something keeps from composing. -/
  | holds (kept : Free last c → composePair? starter c = none) (class' : combiningClass c ≠ 0) :
      Step starter held last c rest
        (composeAfter starter (c :: held) (some (combiningClass c)) rest)

theorem composeAfter_nil (starter : Char) (held : List Char) (last : Option Nat) :
    composeAfter starter held last [] = starter :: held.reverse := by
  rw [composeAfter.eq_def]

/-- One step of composing, without the matches of its definition. -/
theorem composeAfter_cons (starter : Char) (held : List Char) (last : Option Nat) (c : Char)
    (rest : List Char) :
    composeAfter starter held last (c :: rest) =
      (if last.all (· < combiningClass c) then composePair? starter c else none).elim
        (if combiningClass c = 0 then starter :: (held.reverse ++ composeAfter c [] none rest)
          else composeAfter starter (c :: held) (some (combiningClass c)) rest)
        (composeAfter · held last rest) := by
  rw [composeAfter.eq_def]
  cases last with
  | none =>
    simp only [Option.all_none, if_true]
    cases composePair? starter c <;> simp only [Option.elim_none, Option.elim_some]
  | some l =>
    simp only [Option.all_some]
    cases if decide (l < combiningClass c) then composePair? starter c else none <;>
      simp only [Option.elim_none, Option.elim_some]

theorem free_iff {last : Option Nat} {c : Char} :
    last.all (· < combiningClass c) = true ↔ Free last c := by
  simp only [Option.all_eq_true, decide_eq_true_eq, Free]

/-- **One step of composing** is of one of the three kinds. -/
theorem step_composeAfter (starter : Char) (held : List Char) (last : Option Nat) (c : Char)
    (rest : List Char) :
    Step starter held last c rest (composeAfter starter held last (c :: rest)) := by
  rw [composeAfter_cons]
  cases here : if last.all (· < combiningClass c) then composePair? starter c else none with
  | some composite =>
    obtain ⟨isFree, found⟩ := Option.ite_none_right_eq_some.mp here
    exact .composes (free_iff.mp isFree) found
  | none =>
    have kept (isFree : Free last c) : composePair? starter c = none :=
      (if_pos (free_iff.mpr isFree)).symm.trans here
    rw [Option.elim_none]
    split
    · rename_i class'
      exact .starts kept class'
    · rename_i class'
      exact .holds kept class'

/-- What is held since the last starter: marks that do not compose, none of which has a class above
that of the last one. -/
structure Held (held : List Char) (last : Option Nat) : Prop where
  /-- Without a last mark nothing is held. -/
  nil : last = none → held = []
  /-- Only marks are held. -/
  marks : ∀ m ∈ held, combiningClass m ≠ 0
  /-- None of them has a class above that of the last one. -/
  below : ∀ l, last = some l → ∀ m ∈ held, combiningClass m ≤ l
  /-- None of them is taken apart. -/
  elementary : ∀ m ∈ held, IsElementary m

theorem held_nil : Held [] none :=
  ⟨fun _ => rfl, by simp, by simp, by simp⟩

/-- A mark of a class that is not below the last one can be held as well. -/
theorem Held.cons {held : List Char} {last : Option Nat} {c : Char} (h : Held held last)
    (mark : combiningClass c ≠ 0) (elementary : IsElementary c)
    (ordered : ∀ l, last = some l → l ≤ combiningClass c) :
    Held (c :: held) (some (combiningClass c)) where
  nil same := by cases same
  marks := List.forall_mem_cons.mpr ⟨mark, h.marks⟩
  below l same m member := by
    rw [← Option.some.inj same]
    rcases List.mem_cons.mp member with rfl | before
    · exact Nat.le_refl _
    · cases kept : last with
      | none =>
        rw [h.nil kept] at before
        cases before
      | some l => exact Nat.le_trans (h.below l kept m before) (ordered l kept)
  elementary := List.forall_mem_cons.mpr ⟨elementary, h.elementary⟩

/-- If nothing keeps a mark from composing, all marks that are held have lower classes. -/
theorem Held.lower {held : List Char} {last : Option Nat} {c : Char} (h : Held held last)
    (free : Free last c) :
    ∀ m ∈ held.reverse, combiningClass m ≠ 0 ∧ combiningClass m < combiningClass c := by
  intro m member
  have member := List.mem_reverse.mp member
  refine ⟨h.marks m member, ?_⟩
  cases kept : last with
  | none =>
    rw [h.nil kept] at member
    cases member
  | some l => exact Nat.lt_of_le_of_lt (h.below l kept m member) (free l kept)

/-- What is composed is taken apart into the same characters again, but for the order of marks. -/
theorem orderMarks_flatMap_composeAfter {starter : Char} {held : List Char} {last : Option Nat}
    {rest : List Char} (waiting : Held held last) (ordered : InOrder (last.getD 0) rest)
    (elementary : ∀ c ∈ rest, IsElementary c) :
    orderMarks ((composeAfter starter held last rest).flatMap decomposeChar) =
      orderMarks (decomposeChar starter ++ (held.reverse ++ rest)) := by
  have apartHeld {held : List Char} {last : Option Nat} (waiting : Held held last) :
      held.reverse.flatMap decomposeChar = held.reverse :=
    flatMap_decomposeChar_of_elementary fun c member =>
      waiting.elementary c (List.mem_reverse.mp member)
  -- On what is still to be composed, one step after the other.
  induction rest generalizing starter held last with
  | nil => rw [composeAfter_nil, List.flatMap_cons, apartHeld waiting, List.append_nil]
  | cons c rest ih =>
    obtain ⟨here, later⟩ := List.forall_mem_cons.mp elementary
    obtain ⟨-⟩ | ⟨place, ordered⟩ := ordered
    have step := step_composeAfter starter held last c rest
    generalize composeAfter starter held last (c :: rest) = composed at step
    cases step with
    | composes free found =>
      -- The mark is taken out from behind the marks that are held, all of which have lower classes.
      have apart := decomposeChar_of_composes (composes_of_composePair? found)
      have le : last.getD 0 ≤ combiningClass c := by
        cases last with
        | none => exact Nat.zero_le _
        | some l => exact Nat.le_of_lt (free l rfl)
      rw [ih waiting (ordered.of_le le) later, apart, List.append_assoc]
      exact orderMarks_append_congr _ (orderMarks_move (waiting.lower free) rest)
    | starts kept starter' =>
      -- What is held is emitted in its order, and the rest is composed after the new starter.
      have next := @ih c _ _ held_nil (ordered.of_le (Nat.zero_le _)) later
      rw [here] at next
      rw [List.flatMap_cons, List.flatMap_append, apartHeld waiting]
      exact orderMarks_append_congr _ (orderMarks_append_congr _ next)
    | holds kept mark =>
      -- What is held grows by this mark; nothing is emitted.
      have le : ∀ l, last = some l → l ≤ combiningClass c := by
        rintro l rfl
        exact place.resolve_left mark
      have ordered : InOrder ((some (combiningClass c)).getD 0) rest := by
        rwa [Option.getD_some]
      rw [ih (waiting.cons mark here le) ordered later, List.reverse_cons, List.append_assoc,
        List.singleton_append]

/-- Composing elementary characters in order and taking that apart gives the same characters. -/
theorem orderMarks_flatMap_compose {text : List Char} (ordered : InOrder 0 text)
    (elementary : ∀ c ∈ text, IsElementary c) :
    orderMarks ((compose text).flatMap decomposeChar) = orderMarks text := by
  induction text with
  | nil => rfl
  | cons c rest ih =>
    obtain ⟨here, later⟩ := List.forall_mem_cons.mp elementary
    obtain ⟨-⟩ | ⟨-, ordered⟩ := ordered
    have ordered := ordered.of_le (Nat.zero_le _)
    rw [compose]
    split
    · have apart := @orderMarks_flatMap_composeAfter c _ _ _ held_nil ordered later
      rw [apart, here, List.reverse_nil, List.nil_append, List.singleton_append]
    · rw [List.flatMap_cons, here]
      exact orderMarks_append_congr [c] (ih ordered later)

/-- What holds of the characters of a text, and of a composition if it holds of its first part,
holds of the characters of the composed text. -/
theorem forall_mem_composeAfter {P : Char → Prop}
    (closed : ∀ a b c, P a → Composes a b c → P c) {starter : Char} {held : List Char}
    {last : Option Nat} {rest : List Char} (hStarter : P starter) (hHeld : ∀ c ∈ held, P c)
    (hRest : ∀ c ∈ rest, P c) : ∀ c ∈ composeAfter starter held last rest, P c := by
  have back {held : List Char} (hHeld : ∀ c ∈ held, P c) : ∀ c ∈ held.reverse, P c :=
    fun c member => hHeld c (List.mem_reverse.mp member)
  induction rest generalizing starter held last with
  | nil =>
    rw [composeAfter_nil]
    exact List.forall_mem_cons.mpr ⟨hStarter, back hHeld⟩
  | cons c rest ih =>
    obtain ⟨here, later⟩ := List.forall_mem_cons.mp hRest
    have step := step_composeAfter starter held last c rest
    generalize composeAfter starter held last (c :: rest) = composed at step
    cases step with
    | composes free found =>
      exact ih (closed _ _ _ hStarter (composes_of_composePair? found)) hHeld later
    | starts =>
      exact List.forall_mem_cons.mpr
        ⟨hStarter, List.forall_mem_append.mpr ⟨back hHeld, ih here (by simp) later⟩⟩
    | holds => exact ih hStarter (List.forall_mem_cons.mpr ⟨here, hHeld⟩) later

/-- What holds of the characters of a text, and is kept by composing, holds of the composed text. -/
theorem forall_mem_compose {P : Char → Prop} (closed : ∀ a b c, P a → Composes a b c → P c)
    {text : List Char} (h : ∀ c ∈ text, P c) : ∀ c ∈ compose text, P c := by
  induction text with
  | nil => exact h
  | cons c rest ih =>
    obtain ⟨here, later⟩ := List.forall_mem_cons.mp h
    rw [compose]
    split
    · exact forall_mem_composeAfter closed here (by simp) later
    · exact List.forall_mem_cons.mpr ⟨here, ih later⟩

/-! ## Normal forms -/

/-- A decomposed text has elementary characters only. -/
theorem isElementary_of_mem_decompose {c : Char} {text : List Char} (h : c ∈ decompose text) :
    IsElementary c := by
  obtain ⟨d, -, part⟩ := List.mem_flatMap.mp (mem_orderMarks.mp h)
  exact isElementary_of_mem_decomposeChar part

/-- **The normal form of a text is taken apart** into the same characters as the text. -/
theorem decompose_normalize (text : List Char) : decompose (normalize text) = decompose text := by
  -- The marks of a decomposition are in order, so that composing and taking apart only order them
  -- again.
  have same := @orderMarks_flatMap_compose (decompose text) (inOrder_orderMarks _)
    fun c h => isElementary_of_mem_decompose h
  have ordered : orderMarks (decompose text) = decompose text := orderMarks_orderMarks _
  rw [normalize, decompose, same, ordered]

/-- **A normal form is its own normal form.** -/
theorem normalize_normalize (text : List Char) : normalize (normalize text) = normalize text := by
  rw [normalize, decompose_normalize, normalize]

/-- Two texts have the same normal form exactly if they are taken apart into the same
characters. -/
theorem normalize_eq_iff {text other : List Char} :
    normalize text = normalize other ↔ decompose text = decompose other := by
  constructor
  · intro same
    rw [← decompose_normalize text, same, decompose_normalize]
  · intro same
    rw [normalize, same, normalize]

end TextVec.Text
