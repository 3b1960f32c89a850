import TextVec.Binary.Digest
import TextVec.Disk.Path

/-!
# Names and paths

A path is its components, and components that are put together again are a path to the same place.
Main statements: the components of a path inside a directory are those of the directory and then its
own, a path made of names has these components, and it is no longer than a path that has them all.
The digests that a cache names its entries by are names, and a digest with a suffix is none.
-/

namespace TextVec.Path

/-- A name that can be one component of a path. -/
structure IsName (name : String) : Prop where
  /-- It has a character. -/
  notEmpty : name ≠ ""
  /-- None that separates components. -/
  noSlash : '/' ∉ name.toList
  /-- None that no path may have. -/
  noNul : '\x00' ∉ name.toList

/-! ## Components -/

/-- A slash separates components, whatever comes before it. -/
theorem componentsFrom_append (part xs ys : List Char) :
    componentsFrom part (xs ++ '/' :: ys) = componentsFrom part xs ++ componentsFrom [] ys := by
  -- By induction on what comes before the slash, for every part that was collected before that.
  induction xs generalizing part with
  | nil =>
    cases part with
    | nil => rfl
    | cons c rest => rfl
  | cons c rest ih =>
    simp only [List.cons_append, componentsFrom]
    by_cases slash : c = '/'
    · rw [if_pos slash, if_pos slash]
      by_cases noPart : part.isEmpty = true
      · rw [if_pos noPart, if_pos noPart]
        exact ih []
      · rw [if_neg noPart, if_neg noPart, ih [], List.cons_append]
    · rw [if_neg slash, if_neg slash]
      exact ih (c :: part)

/-- Without a slash there is one component, unless there is nothing. -/
theorem componentsFrom_of_noSlash {part cs : List Char} (noSlash : '/' ∉ cs) :
    componentsFrom part cs =
      if (part.reverse ++ cs).isEmpty then [] else [String.ofList (part.reverse ++ cs)] := by
  induction cs generalizing part with
  | nil =>
    rw [componentsFrom, List.append_nil]
    cases part with
    | nil => rfl
    | cons c rest => simp
  | cons c rest ih =>
    have other : c ≠ '/' := fun slash => noSlash (by simp [slash])
    have rest' : '/' ∉ rest := fun h => noSlash (List.mem_cons_of_mem _ h)
    rw [componentsFrom, if_neg other, ih rest', List.reverse_cons, List.append_assoc]
    rfl

theorem components_name {name : String} (h : IsName name) : components name = [name] := by
  have someCharacter : ¬ name.toList.isEmpty = true := by
    simpa using h.notEmpty
  rw [components, componentsFrom_of_noSlash h.noSlash, List.reverse_nil, List.nil_append,
    if_neg someCharacter, String.ofList_toList]

theorem isAbsolute_name {name : String} (h : IsName name) : isAbsolute name = false := by
  unfold isAbsolute
  have noSlash := h.noSlash
  cases chars : name.toList with
  | nil => rfl
  | cons c rest =>
    rw [chars] at noSlash
    have other : c ≠ '/' := fun slash => noSlash (by simp [slash])
    simpa using other

/-- A name from the characters between two slashes, which were collected last first. -/
theorem isName_ofList {part : List Char} (someCharacter : ¬ part.isEmpty = true)
    (noSlash : '/' ∉ part) (noNul : '\x00' ∉ part) : IsName (String.ofList part.reverse) where
  notEmpty empty := by
    have none := congrArg String.toList empty
    rw [String.toList_ofList] at none
    simp_all
  noSlash := by simpa [String.toList_ofList] using noSlash
  noNul := by simpa [String.toList_ofList] using noNul

theorem isName_of_mem_componentsFrom {part cs : List Char} {name : String} (noSlash : '/' ∉ part)
    (noNul : '\x00' ∉ part) (noNulAfter : '\x00' ∉ cs) (h : name ∈ componentsFrom part cs) :
    IsName name := by
  -- What is collected between two slashes stays without them.
  induction cs generalizing part with
  | nil =>
    rw [componentsFrom] at h
    by_cases noPart : part.isEmpty = true
    · rw [if_pos noPart] at h
      cases h
    · rw [if_neg noPart] at h
      rw [List.mem_singleton.mp h]
      exact isName_ofList noPart noSlash noNul
  | cons c rest ih =>
    have noNulRest : '\x00' ∉ rest := fun h => noNulAfter (List.mem_cons_of_mem _ h)
    rw [componentsFrom] at h
    by_cases slash : c = '/'
    -- A slash ends what was collected, if that is anything, and the next part begins empty.
    · rw [if_pos slash] at h
      by_cases noPart : part.isEmpty = true
      · rw [if_pos noPart] at h
        exact ih List.not_mem_nil List.not_mem_nil noNulRest h
      · rw [if_neg noPart] at h
        rcases List.mem_cons.mp h with rfl | later
        · exact isName_ofList noPart noSlash noNul
        · exact ih List.not_mem_nil List.not_mem_nil noNulRest later
    · rw [if_neg slash] at h
      have noSlash' : '/' ∉ c :: part := by simpa [noSlash] using Ne.symm slash
      have noNul' : '\x00' ∉ c :: part := by
        have other : '\x00' ≠ c := fun nul => noNulAfter (by simp [← nul])
        simpa [noNul] using other
      exact ih noSlash' noNul' noNulRest h

/-- Every component of a path is a name, if the path has no character that no path may have. -/
theorem isName_of_mem_components {path name : String} (noNul : '\x00' ∉ path.toList)
    (h : name ∈ components path) : IsName name :=
  isName_of_mem_componentsFrom List.not_mem_nil List.not_mem_nil noNul h

/-! ## Paths inside a directory -/

/-- A path is still absolute, or not, with something behind it. -/
theorem isAbsolute_append {path : String} (notEmpty : path ≠ "") (more : String) :
    isAbsolute (path ++ more) = isAbsolute path := by
  unfold isAbsolute
  rw [String.toList_append]
  cases chars : path.toList with
  | nil => exact absurd (String.toList_eq_nil_iff.mp chars) notEmpty
  | cons c rest => rfl

/-- A path inside a directory begins where the directory does. -/
theorem isAbsolute_join {directory name : String} (h : IsName name) :
    isAbsolute (join directory name) = isAbsolute directory := by
  unfold join
  rw [isAbsolute_name h, Bool.false_or]
  by_cases empty : directory = ""
  · subst empty
    exact isAbsolute_name h
  · rw [if_neg (by simpa using empty)]
    split
    · exact isAbsolute_append empty name
    · rw [String.append_assoc]
      exact isAbsolute_append empty ("/" ++ name)

/-- A path inside a directory leads through the directory and then on. -/
theorem components_join {directory name : String} (h : IsName name) :
    components (join directory name) = components directory ++ [name] := by
  unfold join
  rw [isAbsolute_name h, Bool.false_or]
  by_cases empty : directory = ""
  · subst empty
    exact components_name h
  · rw [if_neg (by simpa using empty)]
    split
    · -- The slash at the end of the directory already separates the name.
      rename_i slash
      obtain ⟨front, chars⟩ : ∃ front, directory.toList = front ++ ['/'] := by
        rw [beq_iff_eq, List.getLast?_eq_some_iff] at slash
        exact slash
      unfold components
      rw [String.toList_append, chars, List.append_assoc, List.singleton_append,
        componentsFrom_append, componentsFrom_append]
      have last : componentsFrom [] name.toList = [name] := components_name h
      rw [last]
      simp [componentsFrom]
    · unfold components
      have separated :
      (directory ++ "/" ++ name).toList = directory.toList ++ '/' :: name.toList := by
        simp [String.toList_append]
      rw [separated, componentsFrom_append]
      exact congrArg _ (components_name h)

/-- A suffix of the last component makes it another one. -/
theorem join_append {directory name suffix : String} (h : IsName name)
    (h' : IsName (name ++ suffix)) :
    join directory name ++ suffix = join directory (name ++ suffix) := by
  unfold join
  rw [isAbsolute_name h, isAbsolute_name h', Bool.false_or]
  split
  · rfl
  · split
    · exact String.append_assoc ..
    · exact String.append_assoc ..

/-- A path inside a directory is not the empty one. -/
theorem join_ne_empty {directory name : String} (h : IsName name) : join directory name ≠ "" := by
  unfold join
  split
  · exact h.notEmpty
  · split
    · intro empty
      exact h.notEmpty (String.append_eq_empty_iff.mp empty).2
    · intro empty
      exact h.notEmpty (String.append_eq_empty_iff.mp empty).2

/-- A path inside a directory has no character that no path may have, if neither part has one. -/
theorem noNul_join {directory name : String} (noNul : '\x00' ∉ directory.toList) (h : IsName name) :
    '\x00' ∉ (join directory name).toList := by
  unfold join
  split
  · exact h.noNul
  · split
    · simp [String.toList_append, noNul, h.noNul]
    · simp [String.toList_append, noNul, h.noNul]

/-- If a path inside a directory has no such character, the directory has none. -/
theorem noNul_of_join {directory name : String} (h : IsName name)
    (noNul : '\x00' ∉ (join directory name).toList) : '\x00' ∉ directory.toList := by
  unfold join at noNul
  rw [isAbsolute_name h, Bool.false_or] at noNul
  split at noNul
  · rename_i empty
    rw [String.isEmpty_iff.mp empty]
    decide
  · split at noNul
    · rw [String.toList_append] at noNul
      exact fun mem => noNul (List.mem_append_left _ mem)
    · rw [String.toList_append, String.toList_append] at noNul
      exact fun mem => noNul (List.mem_append_left _ (List.mem_append_left _ mem))

theorem utf8ByteSize_join_le (directory name : String) :
    (join directory name).utf8ByteSize ≤ directory.utf8ByteSize + 1 + name.utf8ByteSize := by
  unfold join
  split
  · omega
  · split
    · rw [String.utf8ByteSize_append]
      omega
    · rw [String.utf8ByteSize_append, String.utf8ByteSize_append]
      exact Nat.le_refl _

/-- Nothing is lost when a path is put together. -/
theorem le_utf8ByteSize_join (directory : String) {name : String} (h : IsName name) :
    directory.utf8ByteSize + name.utf8ByteSize ≤ (join directory name).utf8ByteSize := by
  unfold join
  rw [isAbsolute_name h, Bool.false_or]
  split
  · rename_i empty
    rw [String.isEmpty_iff.mp empty]
    exact Nat.le_of_eq (Nat.zero_add _)
  · split
    · exact Nat.le_of_eq (String.utf8ByteSize_append ..).symm
    · rw [String.utf8ByteSize_append, String.utf8ByteSize_append]
      omega

/-! ## Paths made of names -/

/-- What a path of some names is made of: the bytes of each of them, and one to separate it. -/
def weight : List String → Nat
  | [] => 0
  | name :: rest => name.utf8ByteSize + 1 + weight rest

theorem weight_append (xs ys : List String) : weight (xs ++ ys) = weight xs + weight ys := by
  induction xs with
  | nil => simp [weight]
  | cons name rest ih => simp only [List.cons_append, weight, ih, Nat.add_assoc]

theorem weight_filter_le (p : String → Bool) (names : List String) :
    weight (names.filter p) ≤ weight names := by
  induction names with
  | nil => exact Nat.le_refl _
  | cons name rest ih =>
    rw [List.filter_cons]
    split
    · exact Nat.add_le_add_left ih _
    · exact Nat.le_trans ih (Nat.le_add_left ..)

/-- A path of names has a separator less than names. -/
theorem utf8ByteSize_intercalate {names : List String} (someName : names ≠ []) :
    ("/".intercalate names).utf8ByteSize + 1 = weight names := by
  induction names with
  | nil => exact absurd rfl someName
  | cons name rest ih =>
    cases rest with
    | nil => simp [weight]
    | cons next more =>
      have rest := ih (List.cons_ne_nil next more)
      have slash : "/".utf8ByteSize = 1 := rfl
      rw [String.intercalate_cons_cons, String.utf8ByteSize_append, String.utf8ByteSize_append,
        slash, weight]
      omega

/-- Names that are put together with slashes are the components of the path. -/
theorem components_intercalate {names : List String} (all : ∀ name ∈ names, IsName name) :
    components ("/".intercalate names) = names := by
  induction names with
  | nil => rfl
  | cons name rest ih =>
    have name' : IsName name := all name (List.mem_cons_self ..)
    cases rest with
    | nil => rw [String.intercalate_singleton, components_name name']
    | cons next more =>
      have rest := ih fun other h => all other (List.mem_cons_of_mem _ h)
      have separated : ("/".intercalate (name :: next :: more)).toList =
          name.toList ++ '/' :: ("/".intercalate (next :: more)).toList := by
        rw [String.intercalate_cons_cons]
        simp [String.toList_append]
      unfold components at rest ⊢
      rw [separated, componentsFrom_append, rest]
      have first : componentsFrom [] name.toList = [name] := components_name name'
      rw [first, List.singleton_append]

/-- The slash at the beginning of a path, if there is one. -/
def top (path : String) : String := if isAbsolute path then "/" else ""

/-- The beginning of a path and names are a path that begins in the same way. -/
theorem components_top {path : String} {names : List String} (all : ∀ name ∈ names, IsName name) :
    components (top path ++ "/".intercalate names) = names := by
  unfold top
  split
  · have chars : ("/" ++ "/".intercalate names).toList = '/' :: ("/".intercalate names).toList := by
      rw [String.toList_append]
      rfl
    unfold components
    rw [chars]
    exact components_intercalate all
  · rw [String.empty_append]
    exact components_intercalate all

/-- A path that is put together again begins where the first one does. -/
theorem isAbsolute_top {path : String} {names : List String} (someName : names ≠ [])
    (all : ∀ name ∈ names, IsName name) :
    isAbsolute (top path ++ "/".intercalate names) = isAbsolute path := by
  unfold top
  cases absolute : isAbsolute path with
  | true =>
    rw [if_pos rfl, isAbsolute_append (by decide)]
    rfl
  | false =>
    rw [if_neg (by decide), String.empty_append]
    cases names with
    | nil => exact absurd rfl someName
    | cons name rest =>
      have name' := all name (List.mem_cons_self ..)
      cases rest with
      | nil => rw [String.intercalate_singleton, isAbsolute_name name']
      | cons next more =>
        rw [String.intercalate_cons_cons, String.append_assoc, isAbsolute_append name'.notEmpty,
          isAbsolute_name name']

/-- A path of names has no character that no path may have. -/
theorem noNul_intercalate {names : List String} (all : ∀ name ∈ names, IsName name) :
    '\x00' ∉ ("/".intercalate names).toList := by
  induction names with
  | nil => simp
  | cons name rest ih =>
    have name' := (all name (List.mem_cons_self ..)).noNul
    have rest' := ih fun other h => all other (List.mem_cons_of_mem _ h)
    cases rest with
    | nil => rwa [String.intercalate_singleton]
    | cons next more =>
      rw [String.intercalate_cons_cons, String.toList_append, String.toList_append]
      have slash : '\x00' ∉ "/".toList := by decide
      simp only [List.mem_append, not_or]
      exact ⟨⟨name', slash⟩, rest'⟩

theorem utf8ByteSize_ofList_cons (c : Char) (cs : List Char) :
    (String.ofList (c :: cs)).utf8ByteSize = c.utf8Size + (String.ofList cs).utf8ByteSize := by
  rw [String.ofList_cons, String.utf8ByteSize_append, String.utf8ByteSize_singleton]

theorem utf8ByteSize_ofList_reverse (cs : List Char) :
    (String.ofList cs.reverse).utf8ByteSize = (String.ofList cs).utf8ByteSize := by
  induction cs with
  | nil => rfl
  | cons c rest ih =>
    rw [List.reverse_cons, String.ofList_append, String.utf8ByteSize_append, ih,
      utf8ByteSize_ofList_cons c rest, utf8ByteSize_ofList_cons c []]
    exact Nat.add_comm ..

/-- Components weigh no more than what they are cut from, and one byte. -/
theorem weight_componentsFrom_le (part cs : List Char) :
    weight (componentsFrom part cs) ≤
      (String.ofList part).utf8ByteSize + (String.ofList cs).utf8ByteSize + 1 := by
  -- What was collected counts too: it is cut off at the next slash, which pays for the byte that
  -- separates it.
  induction cs generalizing part with
  | nil =>
    rw [componentsFrom]
    split
    · exact Nat.zero_le _
    · rw [weight, weight, utf8ByteSize_ofList_reverse]
      omega
  | cons c rest ih =>
    rw [componentsFrom, utf8ByteSize_ofList_cons]
    by_cases slash : c = '/'
    · have one : c.utf8Size = 1 := by rw [slash]; rfl
      have empty : (String.ofList []).utf8ByteSize = 0 := rfl
      have later := ih []
      rw [if_pos slash]
      split
      · omega
      · rw [weight, utf8ByteSize_ofList_reverse]
        omega
    · have later := ih (c :: part)
      rw [utf8ByteSize_ofList_cons] at later
      rw [if_neg slash]
      omega

/-- The slash at the beginning of a path and its components weigh no more than the path and one
byte. -/
theorem weight_components_le (path : String) :
    (top path).utf8ByteSize + weight (components path) ≤ path.utf8ByteSize + 1 := by
  have size : path.utf8ByteSize = (String.ofList path.toList).utf8ByteSize := by
    rw [String.ofList_toList]
  unfold top components isAbsolute
  rw [size]
  cases path.toList with
  | nil => decide
  | cons c rest =>
    by_cases slash : c = '/'
    · subst slash
      have rest := weight_componentsFrom_le [] rest
      have slash : "/".utf8ByteSize = 1 := rfl
      have empty : (String.ofList []).utf8ByteSize = 0 := rfl
      have one : '/'.utf8Size = 1 := rfl
      simp only [List.head?_cons, beq_self_eq_true, if_true, componentsFrom, List.isEmpty_nil,
        utf8ByteSize_ofList_cons]
      omega
    · have all := weight_componentsFrom_le [] (c :: rest)
      have empty : (String.ofList []).utf8ByteSize = 0 := rfl
      have none : "".utf8ByteSize = 0 := rfl
      simp only [List.head?_cons, Option.some_beq_some, beq_iff_eq, slash, if_false]
      omega

end TextVec.Path

/-! ## Digests as names -/

namespace TextVec.Hex

/-- The characters that hexadecimal digits are. -/
def digits : List Char :=
  ['0', '1', '2', '3', '4', '5', '6', '7', '8', '9', 'a', 'b', 'c', 'd', 'e', 'f']

theorem digit_mem (n : Nat) : digit n ∈ digits := by
  have all : ∀ k : Fin 16, Nat.digitChar k ∈ digits := by decide
  exact all ⟨n % 16, Nat.mod_lt n (by decide)⟩

theorem mem_ofNat {width n : Nat} {c : Char} (h : c ∈ ofNat width n) : c ∈ digits := by
  induction width generalizing n with
  | zero => cases h
  | succ width ih =>
    rcases List.mem_append.mp h with before | last
    · exact ih before
    · rw [List.mem_singleton.mp last]
      exact digit_mem n

/-- A number is written with as many digits as are asked for. -/
theorem length_ofNat (width n : Nat) : (ofNat width n).length = width := by
  induction width generalizing n with
  | zero => rfl
  | succ width ih => rw [ofNat, List.length_append, ih, List.length_singleton]

theorem mem_ofBytes {bytes : Bytes} {c : Char} (h : c ∈ (ofBytes bytes).toList) : c ∈ digits := by
  rw [ofBytes, String.toList_ofList] at h
  obtain ⟨b, -, inByte⟩ := List.mem_flatMap.mp h
  exact mem_ofNat inByte

theorem length_ofBytes (bytes : Bytes) : (ofBytes bytes).toList.length = 2 * bytes.length := by
  rw [ofBytes, String.toList_ofList, List.length_flatMap]
  simp only [length_ofNat, List.map_const', List.sum_replicate_nat]
  exact Nat.mul_comm ..

end TextVec.Hex

namespace TextVec.Digest

open TextVec.Path

/-- A digest has thirty-two bytes before they are written as digits. -/
theorem length_digest (message : Bytes) : (digest message).length = 32 := by
  simp [digest, bigEndian]

/-- A digest has sixty-four bytes. -/
theorem utf8ByteSize_ofText (text : String) : (ofText text).utf8ByteSize = 64 := by
  -- Each digit has one byte, so there are as many bytes as digits.
  have size (cs : List Char) (all : ∀ c ∈ cs, c ∈ Hex.digits) :
      (String.ofList cs).utf8ByteSize = cs.length := by
    induction cs with
    | nil => rfl
    | cons c rest ih =>
      have ones : Hex.digits.all (·.utf8Size == 1) = true := by decide
      have one : c.utf8Size = 1 :=
        eq_of_beq (List.all_eq_true.mp ones c (all c (List.mem_cons_self ..)))
      rw [utf8ByteSize_ofList_cons, one,
        ih fun c h => all c (List.mem_cons_of_mem _ h), List.length_cons]
      exact Nat.add_comm ..
  have size := size (ofText text).toList fun c h => Hex.mem_ofBytes h
  rw [String.ofList_toList] at size
  rw [size, ofText, Hex.length_ofBytes, length_digest]

/-- What is no digit is not in a digest. -/
theorem notMem_ofText {c : Char} (h : c ∉ Hex.digits) (text : String) :
    c ∉ (ofText text).toList := fun mem => h (Hex.mem_ofBytes mem)

theorem isName_ofText (text : String) : IsName (ofText text) where
  notEmpty empty := by
    have size := utf8ByteSize_ofText text
    rw [empty] at size
    cases size
  noSlash := notMem_ofText (by decide) text
  noNul := notMem_ofText (by decide) text

/-- The name of a draft: a digest with a suffix. -/
theorem isName_draft (text : String) : IsName (ofText text ++ ".tmp") where
  notEmpty empty := (isName_ofText text).notEmpty (String.append_eq_empty_iff.mp empty).1
  noSlash := by
    have name := (isName_ofText text).noSlash
    simp [String.toList_append, name]
  noNul := by
    have name := (isName_ofText text).noNul
    simp [String.toList_append, name]

/-- No digest is the name of a draft, for it has no point. -/
theorem draft_ne_ofText (text other : String) : ofText text ++ ".tmp" ≠ ofText other := by
  intro same
  have noPoint : '.' ∉ (ofText other).toList := notMem_ofText (by decide) other
  rw [← same, String.toList_append] at noPoint
  exact noPoint (List.mem_append_right _ (by decide))

end TextVec.Digest
