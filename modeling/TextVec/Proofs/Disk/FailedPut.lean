import TextVec.Proofs.Disk.Entries

/-!
# Entries that could not be put

Putting an entry has three steps, and directories that the first one made stay if it fails. Main
statements: what a cache found before, be it an entry or a failure, it still finds after another one
could not be put; and where it found nothing it still finds nothing, if the way to its directory
does not step out of a directory that is missing and no name on it is too long.
-/

namespace TextVec

namespace FileSystem

open TextVec.Path

variable {files later : FileSystem}

/-! ## Files that change, and directories that stay -/

/-- What was a file still is one, perhaps with another content, and what was a directory still is
one. -/
def Shaped (files later : FileSystem) : Prop :=
  ∀ place entry, files.find? place = some entry →
    ∃ entry', later.find? place = some entry' ∧ (entry' = .directory ↔ entry = .directory)

theorem Kept.shaped (kept : Kept files later) : Shaped files later :=
  fun place entry h => ⟨entry, kept place entry h, Iff.rfl⟩

/-- Writing a file leaves the shape of what was there. -/
theorem Shaped.put {middle : FileSystem} (shaped : Shaped files middle) {location : Location}
    (noDirectory : middle.find? location ≠ some .directory) (content : Bytes) :
    Shaped files (middle.put location (.file content)) := by
  intro place entry h
  obtain ⟨entry', there, same⟩ := shaped place entry h
  by_cases here : place = location
  · subst here
    have free : isFixed place = false := by
      cases fixed : isFixed place with
      | false => rfl
      | true => exact absurd (by rw [find?, if_pos fixed]) noDirectory
    refine ⟨.file content, find?_put_self middle _ free, ?_⟩
    constructor
    · intro directory
      cases directory
    · intro directory
      rw [there, same.mpr directory] at noDirectory
      exact absurd rfl noDirectory
  · exact ⟨entry', (find?_put_of_ne middle _ here).trans there, same⟩

/-- A path is followed as before, unless something was missing. -/
theorem follow_of_shaped (shaped : Shaped files later) {location : Location} {names : List String}
    (found : files.follow location names ≠ .error .notFound) :
    later.follow location names = files.follow location names := by
  -- Whether something is a directory decides alone how the path goes on, and that has not changed.
  induction names generalizing location with
  | nil => rfl
  | cons name rest ih =>
    rw [follow_cons] at found
    rw [follow_cons, follow_cons]
    cases place : files.find? location with
    | none =>
      rw [place] at found
      exact absurd rfl found
    | some entry =>
      obtain ⟨entry', there, same⟩ := shaped location entry place
      rw [place] at found
      rw [there]
      cases entry with
      | file content =>
        cases entry' with
        | file content' => rfl
        | directory => exact absurd (same.mp rfl) nofun
      | directory =>
        rw [same.mpr rfl]
        simp only at found ⊢
        split
        · rfl
        · rename_i short
          rw [if_neg short] at found
          exact ih found

/-- A path leads where it led, unless something was missing. -/
theorem locate_of_shaped (shaped : Shaped files later) {path : String}
    (found : files.locate path ≠ .error .notFound) : later.locate path = files.locate path := by
  unfold locate at found ⊢
  split
  · rfl
  · rename_i noNul
    rw [if_neg noNul] at found
    split
    · rfl
    · rename_i notEmpty
      rw [if_neg notEmpty] at found
      split
      · rfl
      · rename_i short
        rw [if_neg short] at found
        exact follow_of_shaped shaped found

/-- A file is read as before, if it was found and is the same. -/
theorem read_of_shaped (shaped : Shaped files later) {path : String}
    (found : files.read path ≠ .error .notFound)
    (same : ∀ location, files.locate path = .ok location →
      later.find? location = files.find? location) : later.read path = files.read path := by
  have located : files.locate path ≠ .error .notFound := by
    intro missing
    refine found ?_
    simp only [read, lookup, missing, bind, Except.bind]
  -- It leads to the same place, where the same is.
  have lookups : later.lookup path = files.lookup path := by
    unfold lookup
    rw [locate_of_shaped shaped located]
    cases reached : files.locate path with
    | error error => rfl
    | ok location =>
      simp only [bind, Except.bind]
      rw [same location reached]
  unfold read
  rw [lookups]

/-! ## Below what is missing -/

/-- Every file system is a tree: all that is somewhere is in a directory. -/
def IsTree (files : FileSystem) : Prop :=
  ∀ location name, files.find? (location ++ [name]) ≠ none → files.find? location = some .directory

/-- Nothing is in what is missing. -/
theorem IsTree.missing (tree : IsTree files) {location : Location} (name : String)
    (missing : files.find? location = none) : files.find? (location ++ [name]) = none := by
  cases below : files.find? (location ++ [name]) with
  | none => rfl
  | some entry =>
    have above := tree location name (by rw [below]; nofun)
    rw [missing] at above
    cases above

/-- Files are a tree if each of them is in a directory. -/
theorem isTree_of_entries
    (h : ∀ entry ∈ files.entries, files.find? entry.1.dropLast = some .directory) :
    files.IsTree := by
  intro location name there
  cases fixed : isFixed (location ++ [name]) with
  | true =>
    -- The directories around a directory that is always there are always there too.
    rcases Bool.or_eq_true_iff.mp fixed with top | out
    · have single : location ++ [name] = [] ++ ["/"] := eq_of_beq top
      rw [(concat_inj.mp single).1]
      rfl
    · rw [List.all_append, Bool.and_eq_true] at out
      have above : isFixed location = true := Bool.or_eq_true_iff.mpr (.inr out.1)
      rw [find?, if_pos above]
  | false =>
    rw [find?, fixed] at there
    simp only [Bool.false_eq_true, if_false] at there
    -- All else is there because of an entry, and of each entry it is given what is above it.
    obtain ⟨entry, found⟩ := Option.ne_none_iff_exists'.mp there
    obtain ⟨before, after, entries, -⟩ := List.lookup_eq_some_iff.mp found
    have above := h (location ++ [name], entry) (by rw [entries]; simp)
    rwa [List.dropLast_concat] at above

theorem step_of_ne {name : String} (noStepOut : name ≠ "..") (location : Location) :
    step location name = location ∨ step location name = location ++ [name] := by
  have noWayOut : (name == "..") = false := beq_eq_false_iff_ne.mpr noStepOut
  unfold step
  rw [noWayOut]
  simp only [Bool.false_eq_true, if_false]
  -- One name stays, and every other one that is left leads down.
  split
  · exact .inl rfl
  · exact .inr rfl

/-- Steps that do not lead out lead further down. -/
theorem length_le_resolve {location : Location} {names : List String} (noStepOut : ".." ∉ names) :
    ∀ place ∈ way location names, place.length ≤ (resolve location names).length := by
  induction names generalizing location with
  | nil =>
    intro place h
    rw [List.mem_singleton.mp h]
    exact Nat.le_refl _
  | cons name rest ih =>
    have name' : name ≠ ".." := fun out => noStepOut (out ▸ List.mem_cons_self ..)
    have rest' : ".." ∉ rest := fun h => noStepOut (List.mem_cons_of_mem _ h)
    have next : location.length ≤ (step location name).length := by
      rcases step_of_ne name' location with stay | down
      · exact Nat.le_of_eq (congrArg List.length stay.symm)
      · rw [down]
        simp
    intro place h
    rcases List.mem_cons.mp h with rfl | h
    · exact Nat.le_trans next (ih rest' _ (mem_way_self _ rest))
    · exact ih rest' place h

/-- From a location that is missing, steps that do not lead out lead to nothing. -/
theorem missing_below (tree : IsTree files) {location : Location} {names : List String}
    (missing : files.find? location = none) (noStepOut : ".." ∉ names) :
    ∀ place ∈ way location names, files.find? place = none := by
  induction names generalizing location with
  | nil =>
    intro place h
    rw [List.mem_singleton.mp h]
    exact missing
  | cons name rest ih =>
    have name' : name ≠ ".." := fun out => noStepOut (out ▸ List.mem_cons_self ..)
    have rest' : ".." ∉ rest := fun h => noStepOut (List.mem_cons_of_mem _ h)
    have next : files.find? (step location name) = none := by
      rcases step_of_ne name' location with stay | down
      · rw [stay]
        exact missing
      · rw [down]
        exact tree.missing name missing
    intro place h
    rcases List.mem_cons.mp h with rfl | h
    · exact missing
    · exact ih next rest' place h

/-- No name leads out of a directory that is missing. -/
def StepsIn (files : FileSystem) (location : Location) (names : List String) : Prop :=
  ∀ before after, names = before ++ after → files.find? (resolve location before) = none →
    ".." ∉ after

/-- From the next name on, no name leads out of what is missing either. -/
theorem StepsIn.tail {location : Location} {name : String} {rest : List String}
    (stepsIn : StepsIn files location (name :: rest)) :
    StepsIn files (step location name) rest := by
  intro before after parts missing
  exact stepsIn (name :: before) after (by rw [parts]; rfl) missing

/-- Another name behind it may be added if it does not lead out. -/
theorem StepsIn.concat {location : Location} {names : List String} {name : String}
    (stepsIn : StepsIn files location names) (noStepOut : name ≠ "..") :
    StepsIn files location (names ++ [name]) := by
  intro before after parts missing
  -- The new name is the last of those after the directory, or the directory is the end of the way.
  rcases List.eq_nil_or_concat after with none | ⟨front, last, rfl⟩
  · rw [none]
    exact List.not_mem_nil
  · rw [List.concat_eq_append, ← List.append_assoc] at parts
    obtain ⟨parts, same⟩ := concat_inj.mp parts
    have front' := stepsIn before front parts missing
    rw [List.concat_eq_append, List.mem_append, not_or, ← same]
    exact ⟨front', by simpa using noStepOut.symm⟩

/-- A way that does not step out of what is missing is clear, if following it fails for nothing but
that. -/
theorem clear_of_follow (tree : IsTree files) {location : Location} {names : List String}
    (short : ∀ name ∈ names, name.utf8ByteSize ≤ 255) (stepsIn : StepsIn files location names)
    (missing : ∀ error, files.follow location names = .error error → error = .notFound)
    (noFile : ∀ target content, files.follow location names = .ok target →
      files.find? target ≠ some (.file content)) : Clear files location names := by
  refine ⟨?_, short⟩
  induction names generalizing location with
  | nil =>
    intro place h content
    rw [List.mem_singleton.mp h]
    exact noFile location content rfl
  | cons name rest ih =>
    cases found : files.find? location with
    | none =>
      -- From here on, nothing is there.
      intro place h content
      rw [missing_below tree found (stepsIn [] (name :: rest) rfl found) place h]
      nofun
    | some entry =>
      cases entry with
      | file content =>
        rw [follow_cons, found] at missing
        exact absurd (missing .notDirectory rfl) nofun
      | directory =>
        rw [follow_cons_of_directory found (short name (List.mem_cons_self ..))] at missing noFile
        intro place h content
        rcases List.mem_cons.mp h with rfl | h
        · rw [found]
          nofun
        · exact ih (fun name h => short name (List.mem_cons_of_mem _ h)) stepsIn.tail missing noFile
            place h content

/-- On a clear way that does not step out of what is missing, all is there, or the end is not. -/
theorem Clear.cases (tree : IsTree files) {location : Location} {names : List String}
    (clear : Clear files location names) (stepsIn : StepsIn files location names) :
    (∀ place ∈ way location names, files.find? place = some .directory) ∨
      files.find? (resolve location names) = none ∧
        ∀ place ∈ way location names, files.find? place = some .directory ∨
          place.length ≤ (resolve location names).length := by
  -- Name by name, until something is missing: from there on all is.
  induction names generalizing location with
  | nil =>
    cases found : files.find? location with
    | none =>
      refine .inr ⟨found, fun place h => .inr ?_⟩
      rw [List.mem_singleton.mp h]
      exact Nat.le_refl _
    | some entry =>
      cases entry with
      | file content => exact absurd found (clear.noFile _ (mem_way_self ..) content)
      | directory =>
        refine .inl fun place h => ?_
        rw [List.mem_singleton.mp h]
        exact found
  | cons name rest ih =>
    cases found : files.find? location with
    | none =>
      -- What is below a missing place is missing, but only while no name steps out of it again.
      have noStepOut := stepsIn [] (name :: rest) rfl found
      exact .inr ⟨missing_below tree found noStepOut _ (resolve_mem_way ..),
        fun place h => .inr (length_le_resolve noStepOut place h)⟩
    | some entry =>
      cases entry with
      | file content => exact absurd found (clear.noFile _ (mem_way_self ..) content)
      | directory =>
        rcases ih clear.tail stepsIn.tail with all | ⟨missing, rest'⟩
        · refine .inl fun place h => ?_
          rcases List.mem_cons.mp h with rfl | h
          · exact found
          · exact all place h
        · refine .inr ⟨missing, fun place h => ?_⟩
          rcases List.mem_cons.mp h with rfl | h
          · exact .inl found
          · exact rest' place h

/-! ## Directories that cannot be made -/

/-- A path that leads nowhere leads nowhere in all files. -/
theorem locate_of_invalid {path : String} (notEmpty : path ≠ "")
    (invalid : ¬ ('\x00' ∉ path.toList ∧ path.utf8ByteSize < 4096)) :
    ∃ error, error ≠ .notFound ∧ ∀ files : FileSystem, files.locate path = .error error := by
  by_cases noNul : '\x00' ∈ path.toList
  · refine ⟨.invalidName, nofun, fun files => ?_⟩
    unfold locate
    rw [if_pos (by simpa using noNul)]
  · have long : path.utf8ByteSize ≥ 4096 := Nat.not_lt.mp fun short => invalid ⟨noNul, short⟩
    refine ⟨.nameTooLong, nofun, fun files => ?_⟩
    unfold locate
    rw [if_neg (by simpa using noNul), if_neg (by simpa using notEmpty), if_pos long]

/-- If it is not that something is missing, nothing is made. -/
theorem makeDirectories_of_error {path : String} {error : DiskError} (notEmpty : path ≠ "")
    (other : error ≠ .notFound) (h : files.makeMissing path = (.error error, files)) :
    files.makeDirectories path = (.error error, files) := by
  unfold makeDirectories
  rw [if_neg (by simpa using notEmpty)]
  cases ((components path).filter (· != ".")).reverse.tail with
  | nil => exact h
  | cons name before =>
    rw [makeFrom, h]
    split
    · rename_i same
      cases same
      exact absurd rfl other
    · rfl

/-- The directory of a path either has a clear way to it, or cannot be made, and then nothing is. -/
theorem clear_or_unchanged (tree : IsTree files) {path : String} (notEmpty : path ≠ "")
    (short : ∀ name ∈ components path, name.utf8ByteSize ≤ 255)
    (stepsIn : StepsIn files (startOf path) (components path)) :
    ('\x00' ∉ path.toList ∧ path.utf8ByteSize < 4096 ∧
      Clear files (startOf path) (components path)) ∨
      ∃ error, files.makeDirectories path = (.error error, files) := by
  by_cases valid : '\x00' ∉ path.toList ∧ path.utf8ByteSize < 4096
  · have located := locate_eq_follow valid.1 notEmpty valid.2 files
    have clear := clear_of_follow tree short stepsIn
    rw [← located] at clear
    -- A path that leads to a place without a file has a clear way to it.
    have reached {location : Location} (there : files.locate path = .ok location)
        (noFile : ∀ content, files.find? location ≠ some (.file content)) :
        Clear files (startOf path) (components path) := by
      refine clear ?_ ?_
      · rw [there]
        nofun
      · intro target content same
        rw [there] at same
        cases same
        exact noFile content
    -- The first attempt decides: if it fails, and not because something is missing, no more is
    -- tried.
    rcases makeMissing_cases files path with
      ⟨location, there, missing, -⟩ | ⟨location, there, directory, -⟩ |
      ⟨_, _, -, -, made⟩ | ⟨error, there, made⟩
    · refine .inl ⟨valid.1, valid.2, reached there fun content => ?_⟩
      rw [missing]
      nofun
    · refine .inl ⟨valid.1, valid.2, reached there fun content => ?_⟩
      rw [directory]
      nofun
    · have exists' : DiskError.alreadyExists ≠ .notFound := nofun
      exact .inr ⟨_, makeDirectories_of_error notEmpty exists' made⟩
    · by_cases missing : error = .notFound
      · refine .inl ⟨valid.1, valid.2, clear ?_ ?_⟩
        · rw [there]
          intro other same
          cases same
          exact missing
        · rw [there]
          nofun
      · exact .inr ⟨_, makeDirectories_of_error notEmpty missing made⟩
  · obtain ⟨error, other, nowhere⟩ := locate_of_invalid notEmpty valid
    exact .inr
      ⟨error, makeDirectories_of_error notEmpty other (makeMissing_of_error (nowhere files))⟩

/-! ## Directories that are made beside each other -/

section Beside

variable {directory name other entry : String}

/-- What is found in one of the directories in another one depends on no more than this. -/
theorem lookupIn_congr (hOther : IsFileName other)
    (entered : files.enter directory = .ok (placeOf directory))
    (entered' : later.enter directory = .ok (placeOf directory))
    (same : later.find? (placeOf directory ++ [other]) = files.find? (placeOf directory ++ [other]))
    (sameEntry : later.find? (placeOf directory ++ [other] ++ [entry]) =
      files.find? (placeOf directory ++ [other] ++ [entry])) :
    later.lookupIn (join directory other) entry = files.lookupIn (join directory other) entry := by
  -- Whether the directory can be entered is decided by what is at its place.
  have within : later.enter (join directory other) = files.enter (join directory other) := by
    rw [enter_join hOther, enter_join hOther, entered, entered']
    exact enterAt_congr same
  cases reached : files.enter (join directory other) with
  | error error =>
    rw [lookupIn_of_error reached, lookupIn_of_error (within.trans reached)]
  | ok place =>
    have here : place = placeOf directory ++ [other] := by
      rw [enter_join hOther, entered] at reached
      exact (enterAt_eq_ok_iff.mp reached).1.symm
    rw [lookupIn_of_enter reached, lookupIn_of_enter (within.trans reached), here, sameEntry]

/-- Above a directory with a clear way the way is clear. -/
theorem Clear.above (hName : IsFileName name)
    (clear : Clear files (startOf (join directory name)) (components (join directory name))) :
    Clear files (startOf directory) (components directory) := by
  refine ⟨fun place h => clear.noFile place ((mem_way_join hName).mpr (.inl h)), fun part h => ?_⟩
  refine clear.short part ?_
  rw [components_join hName.toIsName]
  exact List.mem_append_left _ h

/-- In a directory that is missing, but has a clear way above it, nothing is found. -/
theorem lookupIn_of_missing (hOther : IsFileName other)
    (above : Clear files (startOf directory) (components directory))
    (missing : files.find? (placeOf directory ++ [other]) = none) :
    files.lookupIn (join directory other) entry = .error .notFound := by
  refine lookupIn_of_error ?_ entry
  rw [enter_join hOther]
  rcases above.enter with ok | notFound
  · rw [ok]
    exact enterAt_of_missing missing
  · rw [notFound]
    rfl

section Made

variable {made : FileSystem} (tree : IsTree files) (hName : IsFileName name)
  (clear : Clear files (startOf (join directory name)) (components (join directory name)))
  (stepsIn : StepsIn files (startOf directory) (components directory))
  (along : Made files made (way (startOf (join directory name)) (components (join directory name))))

include hName clear along

/-- The directory above one that was made with those on the way to it can be entered. -/
theorem enter_of_made : made.enter directory = .ok (placeOf directory) :=
  enter_eq_ok_iff.mpr ⟨rfl, (clear.above hName).short,
    fun place h => along.directories place ((mem_way_join hName).mpr (.inl h))⟩

include tree stepsIn

/-- Below the directory above, only the one that was made is new. -/
theorem find?_below_of_made {place : Location} (low : (placeOf directory).length < place.length)
    (elsewhere : place ≠ placeOf directory ++ [name]) : made.find? place = files.find? place := by
  by_cases onWay : place ∈ way (startOf directory) (components directory)
  · rw [along.directories place ((mem_way_join hName).mpr (.inl onWay))]
    -- On the way, all was there before, or the end was not and what is below it is not on the way.
    rcases (clear.above hName).cases tree stepsIn with all | ⟨-, passed⟩
    · exact (all place onWay).symm
    · rcases passed place onWay with there | high
      · exact there.symm
      · exact absurd low (Nat.not_lt.mpr high)
  · exact along.others place fun h => ((mem_way_join hName).mp h).elim onWay elsewhere

/-- In the directory above, what was there is unchanged, and what is new is the directory that was
made. -/
theorem find?_beside_of_made (other : String) :
    made.find? (placeOf directory ++ [other]) = files.find? (placeOf directory ++ [other]) ∨
      files.find? (placeOf directory ++ [other]) = none ∧
        made.find? (placeOf directory ++ [other]) = some .directory := by
  by_cases same : other = name
  · have onWay : placeOf directory ++ [name] ∈
        way (startOf (join directory name)) (components (join directory name)) :=
      (mem_way_join hName).mpr (.inr rfl)
    rw [same, along.directories _ onWay]
    cases there : files.find? (placeOf directory ++ [name]) with
    | none => exact .inr ⟨rfl, rfl⟩
    | some found =>
      cases found with
      | file content => exact absurd there (clear.noFile _ onWay content)
      | directory => exact .inl rfl
  · exact .inl (find?_below_of_made tree hName clear stepsIn along (by simp)
      fun equal => same (concat_inj.mp equal).2)

/-- Where a directory was made with those on the way to it, nothing is found in it, or in another
one beside it, that was not found before. -/
theorem lookupIn_of_made (hOther : IsFileName other) (entry : String) :
    made.lookupIn (join directory other) entry = files.lookupIn (join directory other) entry := by
  have above := clear.above hName
  have entered := enter_of_made hName clear along
  have sameEntry : made.find? (placeOf directory ++ [other] ++ [entry]) =
      files.find? (placeOf directory ++ [other] ++ [entry]) := by
    refine find?_below_of_made tree hName clear stepsIn along (by simp) fun same => ?_
    have lengths := congrArg List.length same
    simp at lengths
  cases there : files.find? (placeOf directory ++ [other]) with
  | none =>
    rw [lookupIn_of_missing hOther above there]
    rcases find?_beside_of_made tree hName clear stepsIn along other with same | ⟨-, new⟩
    · have below : made.enter (join directory other) = .error .notFound := by
        rw [enter_join hOther, entered]
        exact enterAt_of_missing (same.trans there)
      exact lookupIn_of_error below entry
    · -- It is new, and nothing is in it.
      have below : made.enter (join directory other) = .ok (placeOf directory ++ [other]) := by
        rw [enter_join hOther, entered]
        exact enterAt_eq_ok_iff.mpr ⟨rfl, new⟩
      rw [lookupIn_of_enter below, sameEntry, tree.missing entry there]
      rfl
  | some found =>
    -- It was there, and so was all on the way.
    have entered' : files.enter directory = .ok (placeOf directory) := by
      rcases above.cases tree stepsIn with all | ⟨missing, -⟩
      · exact enter_eq_ok_iff.mpr ⟨rfl, above.short, all⟩
      · have absent : files.find? (placeOf directory ++ [other]) = none := tree.missing other missing
        rw [there] at absent
        cases absent
    rcases find?_beside_of_made tree hName clear stepsIn along other with same | ⟨absent, -⟩
    · exact lookupIn_congr hOther entered' entered same sameEntry
    · rw [there] at absent
      cases absent

end Made

/-- A draft that is written in one directory hides no entry in it, or in another one beside it. -/
theorem lookupIn_of_draft {made : FileSystem} (hOther : IsFileName other)
    (entered : made.enter directory = .ok (placeOf directory)) {draft : String}
    (noDirectory : made.find? (placeOf directory ++ [name] ++ [draft]) ≠ some .directory)
    (content : Bytes) (noDraft : entry ≠ draft) :
    (made.put (placeOf directory ++ [name] ++ [draft]) (.file content)).lookupIn
        (join directory other) entry =
      made.lookupIn (join directory other) entry := by
  obtain ⟨-, short, directories⟩ := enter_eq_ok_iff.mp entered
  have entered' : (made.put (placeOf directory ++ [name] ++ [draft]) (.file content)).enter
      directory = .ok (placeOf directory) := by
    refine enter_eq_ok_iff.mpr ⟨rfl, short, fun place onWay => ?_⟩
    have elsewhere : place ≠ placeOf directory ++ [name] ++ [draft] :=
      fun same => noDirectory (same ▸ directories place onWay)
    rw [find?_put_of_ne made _ elsewhere]
    exact directories place onWay
  refine lookupIn_congr hOther entered entered' ?_ ?_
  · refine find?_put_of_ne made _ fun same => ?_
    have lengths := congrArg List.length same
    simp at lengths
  · exact find?_put_of_ne made _ fun same => noDraft (concat_inj.mp same).2

end Beside

end FileSystem

namespace DiskCache

open FileSystem TextVec.Path

variable {cache : DiskCache} {files : FileSystem} {key : String} {bytes : Bytes}

/-! ## What a failed put leaves -/

theorem get_of_read {later : FileSystem}
    (same : later.read (cache.entryPath key) = files.read (cache.entryPath key)) :
    cache.get later key = cache.get files key := by
  unfold get
  rw [same]

theorem get_of_lookup {later : FileSystem}
    (same : later.lookup (cache.entryPath key) = files.lookup (cache.entryPath key)) :
    cache.get later key = cache.get files key := by
  refine get_of_read ?_
  unfold FileSystem.read
  rw [same]

/-- Under a path that is too long nothing is looked up. -/
theorem get_of_long (long : ¬ (cache.entryPath key).utf8ByteSize < 4096) :
    ∃ error, ∀ files, cache.get files key = .error error := by
  obtain ⟨error, other, nowhere⟩ := locate_of_invalid
    (join_ne_empty (Digest.isName_ofText key)) fun valid => long valid.2
  refine ⟨error, fun files => ?_⟩
  have read : files.read (cache.entryPath key) = .error error := by
    unfold FileSystem.read lookup entryPath
    rw [nowhere]
    rfl
  unfold get
  rw [read]
  cases error with
  | notFound => exact absurd rfl other
  | _ => rfl

/-- How putting fails: on the way to the directory, or in it, and then perhaps after the draft was
written. -/
theorem put_of_error {error : DiskError} (failed : (cache.put files key bytes).1 = .error error) :
    ((files.makeDirectories cache.root).1 = .error error ∧
      (cache.put files key bytes).2 = (files.makeDirectories cache.root).2) ∨
    ((files.makeDirectories cache.root).1 = .ok () ∧
      ((cache.put files key bytes).2 = (files.makeDirectories cache.root).2 ∨
        ∃ written, (files.makeDirectories cache.root).2.write (cache.draftPath key) bytes =
            .ok written ∧
          (cache.put files key bytes).2 = written)) := by
  revert failed
  unfold put
  -- The three steps of putting, each of which may fail.
  cases files.makeDirectories cache.root with
  | mk result made =>
    cases result with
    | error error' =>
      intro failed
      exact .inl ⟨failed, rfl⟩
    | ok _ =>
      simp only
      have path : cache.entryPath key ++ ".tmp" = cache.draftPath key := rfl
      rw [path]
      cases draft : made.write (cache.draftPath key) bytes with
      | error error' => exact fun _ => .inr ⟨trivial, .inl rfl⟩
      | ok written =>
        simp only
        cases written.rename (cache.draftPath key) (cache.entryPath key) with
        | error error' => exact fun _ => .inr ⟨trivial, .inr ⟨written, rfl, rfl⟩⟩
        | ok moved => nofun

/-- A file in a directory is at a place of its name. -/
theorem exists_of_locate_join {directory name : String} (h : IsFileName name) {location : Location}
    (located : files.locate (join directory name) = .ok location) :
    ∃ front, location = front ++ [name] := by
  obtain ⟨noNul, notEmpty, short⟩ := valid_of_locate located
  rw [locate_eq_follow noNul notEmpty short, components_join h.toIsName] at located
  refine ⟨resolve (startOf (join directory name)) (components directory),
    (eq_resolve_of_follow located).trans ?_⟩
  rw [resolve_append]
  exact step_fileName h _

/-- **What was found is found again.** If an entry could not be put, every cache still finds what it
found before under any key, be that an entry or a failure. -/
theorem get_of_failed_put {error : DiskError}
    (failed : (cache.put files key bytes).1 = .error error) {other : DiskCache} {otherKey : String}
    (found : other.get files otherKey ≠ .ok none) :
    other.get (cache.put files key bytes).2 otherKey = other.get files otherKey := by
  -- What was found had a file or a failure behind it, but was not missing.
  have present : files.read (other.entryPath otherKey) ≠ .error .notFound := by
    intro missing
    refine found ?_
    unfold get
    rw [missing]
  have kept := kept_makeDirectories files cache.root
  have located : ∀ location, files.locate (other.entryPath otherKey) = .ok location →
      files.find? location = none → False := by
    intro location there missing
    refine present ?_
    simp only [FileSystem.read, lookup, there, missing, bind, Except.bind]
  have same : ∀ location, files.locate (other.entryPath otherKey) = .ok location →
      (files.makeDirectories cache.root).2.find? location = files.find? location := by
    intro location there
    cases entry : files.find? location with
    | none => exact (located location there entry).elim
    | some entry' => exact kept location entry' entry
  refine get_of_read ?_
  -- Only missing directories were made, and perhaps a draft was written.
  rcases put_of_error failed with ⟨-, after⟩ | ⟨-, after | ⟨written, draft, after⟩⟩
  · rw [after]
    exact read_of_shaped kept.shaped present same
  · rw [after]
    exact read_of_shaped kept.shaped present same
  · -- The draft was written where no entry is.
    obtain ⟨place, there, noDirectory, -, rfl⟩ := write_eq_ok draft
    rw [after]
    refine read_of_shaped (kept.shaped.put noDirectory bytes) present fun location reached => ?_
    rw [draftPath_eq] at there
    obtain ⟨front, rfl⟩ := exists_of_locate_join (isFileName_draft key) there
    obtain ⟨front', rfl⟩ := exists_of_locate_join (isFileName_entry otherKey) reached
    have elsewhere : front' ++ [Digest.ofText otherKey] ≠ front ++ [Digest.ofText key ++ ".tmp"] :=
      fun same => Digest.draft_ne_ofText key otherKey (concat_inj.mp same).2.symm
    rw [find?_put_of_ne _ _ elsewhere]
    exact same _ reached

/-- An entry is looked up alike in files that agree on it, even if its path leads nowhere. -/
theorem lookup_entry_congr {later : FileSystem} (noNul : '\x00' ∉ cache.root.toList)
    (same : later.lookupIn cache.root (Digest.ofText key) =
      files.lookupIn cache.root (Digest.ofText key)) :
    later.lookup (cache.entryPath key) = files.lookup (cache.entryPath key) := by
  unfold entryPath
  by_cases short : (join cache.root (Digest.ofText key)).utf8ByteSize < 4096
  · rw [lookup_join noNul (isFileName_entry key) short,
      lookup_join noNul (isFileName_entry key) short, same]
  · obtain ⟨error, -, nowhere⟩ := locate_of_invalid
      (join_ne_empty (Digest.isName_ofText key)) fun valid => short valid.2
    unfold lookup
    rw [nowhere, nowhere]
    rfl

/-- **What was not found is not found.** If an entry could not be put, its cache and those beside it
find what they found before under any key, if the names on the way to the directory of the caches
are not too long and none of them steps out of a directory that is missing. -/
theorem get_of_failed_put_of_stepsIn {error : DiskError} (tree : IsTree files)
    {directory name otherName : String} (hName : IsFileName name) (hOther : IsFileName otherName)
    (short : ∀ name ∈ components directory, name.utf8ByteSize ≤ 255)
    (stepsIn : StepsIn files (startOf directory) (components directory))
    (failed : ((⟨join directory name⟩ : DiskCache).put files key bytes).1 = .error error)
    (otherKey : String) :
    (⟨join directory otherName⟩ : DiskCache).get
        ((⟨join directory name⟩ : DiskCache).put files key bytes).2 otherKey =
      (⟨join directory otherName⟩ : DiskCache).get files otherKey := by
  have parts : components (join directory name) = components directory ++ [name] :=
    components_join hName.toIsName
  have stepsIn' : StepsIn files (startOf (join directory name))
      (components (join directory name)) := by
    rw [startOf_join hName.toIsName, parts]
    exact stepsIn.concat hName.noStepOut
  have outcome := put_of_error failed
  -- Either the way was clear, and then it was all made, or nothing was done.
  rcases clear_or_unchanged tree (join_ne_empty hName.toIsName) (short_join hName short) stepsIn' with
    ⟨noNul, rootShort, clear⟩ | ⟨error', unchanged⟩
  · obtain ⟨made, result, along⟩ :=
      makeDirectories_of_clear noNul rootShort parts hName.noStay clear
    have noNul' : '\x00' ∉ (join directory otherName).toList :=
      noNul_join (noNul_of_join hName.toIsName noNul) hOther.toIsName
    have sameMade := lookupIn_of_made tree hName clear stepsIn along hOther (Digest.ofText otherKey)
    rw [result] at outcome
    rcases outcome with ⟨failed', -⟩ | ⟨-, after | ⟨written, draft, after⟩⟩
    · cases failed'
    · rw [after]
      exact get_of_lookup (lookup_entry_congr noNul' sameMade)
    · -- The draft was written into the directory, where no entry is.
      obtain ⟨place, there, noDirectory, -, rfl⟩ := write_eq_ok draft
      have draftShort := (valid_of_locate there).2.2
      have entered : made.enter (join directory name) = .ok (placeOf (join directory name)) :=
        enter_eq_ok_iff.mpr ⟨rfl, clear.short, along.directories⟩
      rw [draftPath_eq] at there draftShort
      rw [locate_join noNul (isFileName_draft key) draftShort, entered] at there
      obtain rfl := Except.ok.inj there
      rw [placeOf_join hName] at noDirectory after
      have sameDraft := lookupIn_of_draft hOther (enter_of_made hName clear along) noDirectory bytes
        (Digest.draft_ne_ofText key otherKey).symm
      rw [after]
      exact get_of_lookup (lookup_entry_congr noNul' (sameDraft.trans sameMade))
  · rw [unchanged] at outcome
    rcases outcome with ⟨-, after⟩ | ⟨ok, -⟩
    · rw [after]
    · cases ok

end DiskCache

end TextVec
