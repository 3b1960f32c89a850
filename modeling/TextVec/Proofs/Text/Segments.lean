import TextVec.Proofs.Text.Blank

/-!
# White space in segments

A segment begins where the one before it ends, and goes on as far as its first character lets it.
White space does not join to other characters, but marks attach to white space as to anything else,
and the narrow no-break space connects as an underscore does. Main statement: a segment has no other
white space, or it begins with white space, and a mark comes next if it has anything else.
-/

namespace TextVec.Text

open Table (WordClass)

/-! ## Classes of white space -/

/-- The white space that connects letters. -/
def narrowSpace : Char := '\u202F'

/-- The classes of white space, to which other characters belong as well. -/
def isBlankClass : WordClass → Bool
  | .carriageReturn | .lineFeed | .newline | .space | .other => true
  | _ => false

/-- Whether what has a class of line ends or of spaces is white space. -/
def spacesAreBlank : Bool :=
  (allRuns Table.wordClass).all fun (first, last, kind) =>
    !isBlankClass kind || (List.range (last + 1 - first)).all fun k =>
      isWhitespace (Char.ofNat (first + k))

/-- What the table of classes keeps to: its runs ascend, and the classes of white space are those of
line ends and of spaces, but for the narrow no-break space. -/
structure SegmentLaws : Prop where
  /-- The runs of the table of classes ascend. -/
  ascending : Ascending (ends (allRuns Table.wordClass))
  /-- Whatever the table puts among line ends or spaces is white space. -/
  spaces : spacesAreBlank = true
  /-- White space has one of these classes, or none in the table, or is the narrow space. -/
  blank : forAllBlank (fun c => c == narrowSpace || isBlankClass (wordClass c)) = true
  /-- White space is no pictograph. -/
  pictographic : forAllBlank (fun c => !isPictographic c) = true
  /-- White space does not attach to what is before it. -/
  attaches : forAllBlank (fun c => !attaches (wordClass c)) = true

theorem segmentLaws : SegmentLaws where
  ascending := ascending_of_ascends (show ascends 0 _ = true by decide +kernel)
  spaces := by decide +kernel
  blank := by decide +kernel
  pictographic := by decide +kernel
  attaches := by decide +kernel

/-- White space other than the narrow no-break space has one of the classes of white space. -/
theorem isBlankClass_of_blank {c : Char} (blank : isWhitespace c = true) :
    c = narrowSpace ∨ isBlankClass (wordClass c) = true := by
  simpa using of_forAllBlank (SegmentLaws.blank segmentLaws) blank

theorem isPictographic_of_blank {c : Char} (blank : isWhitespace c = true) :
    isPictographic c = false := by
  simpa using of_forAllBlank (SegmentLaws.pictographic segmentLaws) blank

theorem not_attaches_of_blank {c : Char} (blank : isWhitespace c = true) :
    attaches (wordClass c) = false := by
  simpa using of_forAllBlank (SegmentLaws.attaches segmentLaws) blank

/-- What the table puts into one of the classes of white space is white space. -/
theorem blank_of_isBlankClass {c : Char} (h : isBlankClass (wordClass c) = true)
    (notOther : wordClass c ≠ .other) : isWhitespace c = true := by
  unfold wordClass at h notOther
  split at h
  · rename_i first last kind found
    obtain ⟨member, low, high⟩ :=
      (findSome?_findRun_eq_some_iff (SegmentLaws.ascending segmentLaws)).mp found
    have law := List.all_eq_true.mp (SegmentLaws.spaces segmentLaws) _ member
    simp only [h, Bool.not_true, Bool.false_or] at law
    have here := List.all_eq_true.mp law (c.toNat - first)
      (List.mem_range.mpr (by simp only at low high; omega))
    rwa [Nat.add_sub_cancel' low, Char.ofNat_toNat] at here
  · rename_i none
    rw [none] at notOther
    exact absurd rfl notOther

/-! ## What can follow -/

namespace SegmentState

/-- Only spaces follow spaces, and no other state lets white space follow. -/
theorem next_of_isBlankClass {state after : SegmentState} {marked : Bool} {kind : WordClass}
    (h : state.next marked kind = some after) (blank : isBlankClass kind = true) :
    state = .space ∧ marked = false ∧ kind = .space ∧ after = .space := by
  cases kind with
  | space =>
    cases state with
    | space =>
      cases marked with
      | false => exact ⟨rfl, rfl, rfl, (Option.some.inj h).symm⟩
      | true => cases h
    | _ => cases h
  | carriageReturn => cases state <;> cases h
  | lineFeed => cases state <;> cases h
  | newline => cases state <;> cases h
  | other => cases state <;> cases h
  | _ => cases blank

/-- Only a space on which there is no mark leads to a space. -/
theorem next_ne_space {state : SegmentState} {marked : Bool} {kind : WordClass}
    (apart : state ≠ .space ∨ marked = true) : state.next marked kind ≠ some .space := by
  intro h
  unfold next at h
  split at h <;> try cases h
  split at h
  · cases h
  · rename_i notMarked
    exact apart.elim (· rfl) notMarked

/-- How a segment goes on: with what attaches, with a joined pictograph, or with what its state
lets follow. Or it stops. -/
inductive GoesOn (state : SegmentState) (joined marked : Bool) (c : Char) (rest : List Char) :
    Nat → Prop where
  /-- With a character that attaches to whatever is before it. -/
  | attaches {n : Nat} (h : Text.attaches (wordClass c) = true)
      (more : state.extent (wordClass c = .zeroWidthJoiner) true rest = some n) :
    GoesOn state joined marked c rest (n + 1)
  /-- With a pictograph behind a joiner. -/
  | joined {n : Nat} (h : joined = true) (pictographic : isPictographic c = true)
      (more : SegmentState.extent .pictograph false marked rest = some n) :
    GoesOn state joined marked c rest (n + 1)
  /-- With a character that the state lets follow. -/
  | next {n : Nat} {after : SegmentState} (h : state.next marked (wordClass c) = some after)
      (more : after.extent false marked rest = some n) : GoesOn state joined marked c rest (n + 1)
  /-- Not at all, or as far as the state did not wait for more. -/
  | stops : GoesOn state joined marked c rest 0

/-- Where nothing can follow, the segment stops, unless its state still waits for something. -/
theorem goesOn_of_stopped {state : SegmentState} {joined marked : Bool} {c : Char}
    {rest : List Char} {n : Nat} (h : (if state.isPending then none else some 0) = some n) :
    GoesOn state joined marked c rest n := by
  split at h
  · cases h
  · cases h
    exact .stops

/-- A segment goes on with each character in one of these ways. -/
theorem goesOn_of_extent {state : SegmentState} {joined marked : Bool} {c : Char}
    {rest : List Char} {n : Nat} (h : state.extent joined marked (c :: rest) = some n) :
    GoesOn state joined marked c rest n := by
  rw [extent] at h
  -- The class decides whether the character attaches, and only then the state is asked.
  split at h
  · rename_i attaches
    obtain ⟨n, more, rfl⟩ := Option.map_eq_some_iff.mp h
    exact .attaches attaches more
  · split at h
    · rename_i both
      rw [Bool.and_eq_true] at both
      obtain ⟨n, more, rfl⟩ := Option.map_eq_some_iff.mp h
      exact .joined both.1 both.2 more
    · split at h
      · exact goesOn_of_stopped h
      · rename_i after follows
        split at h
        · rename_i n more
          cases h
          exact .next follows more
        · exact goesOn_of_stopped h

end SegmentState

/-! ## How far a segment goes -/

/-- A text with no white space but the narrow no-break space. -/
def OnlyNarrow (text : List Char) : Prop := ∀ c ∈ text, isWhitespace c = true → c = narrowSpace

/-- What follows white space in its segment: more of it, and then nothing, or a mark and what has no
white space but narrow spaces. -/
inductive Trail : List Char → Prop where
  /-- The white space was the end of its segment. -/
  | none : Trail []
  /-- A mark attaches to it, and lets other characters follow. -/
  | marked {c : Char} {rest : List Char} (h : attaches (wordClass c) = true)
      (narrow : OnlyNarrow rest) : Trail (c :: rest)
  /-- Another space follows. -/
  | blank {c : Char} {rest : List Char} (h : isWhitespace c = true) (more : Trail rest) :
    Trail (c :: rest)

/-- Unless it is a space without marks, no state lets white space follow, but for the narrow one. -/
theorem onlyNarrow_of_extent {state : SegmentState} {joined marked : Bool} {rest : List Char}
    {n : Nat} (apart : state ≠ .space ∨ marked = true)
    (h : state.extent joined marked rest = some n) : OnlyNarrow (rest.take n) := by
  -- On what follows: every way to go on leads to a state of this sort again.
  induction rest generalizing state joined marked n with
  | nil =>
    rw [List.take_nil]
    exact List.forall_mem_nil _
  | cons c rest ih =>
    have onward := SegmentState.goesOn_of_extent h
    cases onward with
    | attaches here more =>
      refine List.forall_mem_cons.mpr ⟨fun blank => ?_, ih (.inr rfl) more⟩
      rw [not_attaches_of_blank blank] at here
      cases here
    | joined here pictographic more =>
      refine List.forall_mem_cons.mpr ⟨fun blank => ?_, ih (.inl (by decide)) more⟩
      rw [isPictographic_of_blank blank] at pictographic
      cases pictographic
    | @next _ after follows more =>
      refine List.forall_mem_cons.mpr ⟨fun blank => ?_, ih (.inl ?_) more⟩
      -- Other blanks follow only a space with nothing attached, which `apart` rules out.
      · refine (isBlankClass_of_blank blank).resolve_right fun blankClass => ?_
        obtain ⟨space, notMarked, -, -⟩ := SegmentState.next_of_isBlankClass follows blankClass
        rcases apart with other | marked
        · exact other space
        · rw [notMarked] at marked
          cases marked
      · rintro rfl
        exact SegmentState.next_ne_space apart follows
    | stops => exact List.forall_mem_nil _

/-- The states that white space opens let nothing but spaces follow. -/
theorem SegmentState.next_of_opened {state after : SegmentState} {kind : WordClass}
    (opened : state = .space ∨ state = .closed) (h : state.next false kind = some after) :
    kind = .space ∧ after = .space := by
  rcases opened with rfl | rfl
  · cases kind with
    | space => exact ⟨rfl, (Option.some.inj h).symm⟩
    | _ => cases h
  · cases kind <;> cases h

/-- Nothing but spaces and marks comes after white space. -/
theorem trail_of_extent {state : SegmentState} {rest : List Char} {n : Nat}
    (opened : state = .space ∨ state = .closed)
    (h : state.extent false false rest = some n) : Trail (rest.take n) := by
  induction rest generalizing state n with
  | nil =>
    rw [List.take_nil]
    exact .none
  | cons c rest ih =>
    have onward := SegmentState.goesOn_of_extent h
    cases onward with
    -- From a mark on the segment is like any other.
    | attaches here more => exact .marked here (onlyNarrow_of_extent (.inr rfl) more)
    | joined here => cases here
    | next follows more =>
      obtain ⟨kind, rfl⟩ := SegmentState.next_of_opened opened follows
      have blank : isWhitespace c = true :=
        blank_of_isBlankClass (by rw [kind]; rfl) (by rw [kind]; decide)
      exact .blank blank (ih (.inl rfl) more)
    | stops => exact .none

/-! ## Segments -/

/-- A segment has no white space but narrow spaces, or it begins with white space. -/
inductive Shape : List Char → Prop where
  /-- No white space but the narrow one. -/
  | narrow {segment : List Char} (h : OnlyNarrow segment) : Shape segment
  /-- White space, and what may follow it in its segment. -/
  | blank {c : Char} {rest : List Char} (h : isWhitespace c = true) (trail : Trail rest) :
    Shape (c :: rest)

/-- How far a first character lets its segment go, but for a carriage return. -/
theorem firstExtent_of_class {c : Char} (rest : List Char) (other : wordClass c ≠ .carriageReturn) :
    firstExtent c rest =
      match SegmentState.opening (wordClass c) with
      | none => 0
      | some state => (state.extent (wordClass c = .zeroWidthJoiner) false rest).getD 0 := by
  unfold firstExtent
  generalize wordClass c = kind at other
  cases kind with
  | carriageReturn => exact absurd rfl other
  | _ => rfl

/-- What holds of the longest possible part of a segment holds of it if there is none. -/
theorem take_getD {P : List Char → Prop} (none : P []) {extent : Option Nat} {rest : List Char}
    (h : ∀ n, extent = some n → P (rest.take n)) : P (rest.take (extent.getD 0)) := by
  cases extent with
  | none => exact none
  | some n => exact h n rfl

/-- Nothing but a line feed follows a carriage return. -/
theorem trail_after_return {c : Char} (kind : wordClass c = .carriageReturn) (rest : List Char) :
    Trail (rest.take (firstExtent c rest)) := by
  cases rest with
  | nil =>
    rw [List.take_nil]
    exact .none
  | cons d more =>
    have extent : firstExtent c (d :: more) = if wordClass d = .lineFeed then 1 else 0 := by
      unfold firstExtent
      rw [kind]
    rw [extent]
    split
    · rename_i feed
      exact .blank (blank_of_isBlankClass (by rw [feed]; rfl) (by rw [feed]; decide)) .none
    · exact .none

/-- Only a space opens a segment of spaces. -/
theorem SegmentState.opening_ne_space {kind : WordClass} (h : kind ≠ .space) :
    SegmentState.opening kind ≠ some .space := by
  cases kind with
  | space => exact absurd rfl h
  | _ => nofun

/-- The shape of a segment that begins with a character. -/
theorem shape_first (c : Char) (rest : List Char) :
    Shape (c :: rest.take (firstExtent c rest)) := by
  -- Which of the two shapes it is depends on the first character alone.
  by_cases blank : isWhitespace c = true ∧ isBlankClass (wordClass c) = true
  · refine .blank blank.1 ?_
    by_cases isReturn : wordClass c = .carriageReturn
    · exact trail_after_return isReturn rest
    · rw [firstExtent_of_class rest isReturn]
      cases kind : wordClass c with
      | carriageReturn => exact absurd kind isReturn
      | lineFeed => exact .none
      | newline => exact .none
      | space => exact take_getD .none fun n h => trail_of_extent (.inl rfl) h
      | other => exact take_getD .none fun n h => trail_of_extent (.inr rfl) h
      | _ =>
        rw [kind] at blank
        cases blank.2
  · -- White space of the classes of spaces and line ends opens no other segment.
    have apart {kind : WordClass} (blankClass : isBlankClass kind = true)
      (notOther : kind ≠ .other) :
        wordClass c ≠ kind := by
      rintro rfl
      exact blank ⟨blank_of_isBlankClass blankClass notOther, blankClass⟩
    refine .narrow (List.forall_mem_cons.mpr ⟨fun here => ?_, ?_⟩)
    · exact (isBlankClass_of_blank here).resolve_right fun blankClass => blank ⟨here, blankClass⟩
    · rw [firstExtent_of_class rest (apart rfl (by decide))]
      have notSpace := SegmentState.opening_ne_space (@apart .space rfl (by decide))
      cases opened : SegmentState.opening (wordClass c) with
      | none => exact List.forall_mem_nil _
      | some state =>
        refine take_getD (List.forall_mem_nil _) fun n h => onlyNarrow_of_extent (.inl ?_) h
        rintro rfl
        exact notSpace opened

/-- A segment that takes `n` more characters ends there, and the next ones are those of the rest. -/
theorem segmentsFrom_eq (segment : List Char) (n : Nat) (text : List Char) :
    segmentsFrom segment n text =
      (segment.reverse ++ text.take n) :: segments (text.drop n) := by
  induction text generalizing segment n with
  | nil => simp [segmentsFrom, segments]
  | cons c rest ih =>
    cases n with
    | zero => simp [segmentsFrom, segments]
    | succ n => rw [segmentsFrom, ih]; simp

/-- **The segments of a text** have a shape each: no white space but narrow spaces, or white space
and what may follow it. -/
theorem shape_of_mem_segments {text segment : List Char} (h : segment ∈ segments text) :
    Shape segment := by
  -- On the length of the text: the rest after the first segment is shorter.
  induction length : text.length using Nat.strongRecOn generalizing text with
  | ind n ih =>
    cases text with
    | nil => cases h
    | cons c rest =>
      rw [segments, segmentsFrom_eq, List.reverse_singleton, List.singleton_append] at h
      rcases List.mem_cons.mp h with rfl | later
      · exact shape_first c rest
      · refine ih _ ?_ later rfl
        rw [← length, List.length_drop, List.length_cons]
        omega

end TextVec.Text
