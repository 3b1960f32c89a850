import TextVec.Proofs.Disk.Path
import TextVec.Proofs.Disk.ReadBack

/-!
# The way to a directory

A path is followed over directories, and all that can stop it is something else on the way. Making a
directory makes the directories that are missing on the way to it and touches nothing else. Main
statements: what it takes to follow a path, and that a directory can be made exactly if no file is
on the way to it.
-/

namespace TextVec.FileSystem

open TextVec.Path

/-! ## Where paths lead -/

/-- The location that a name leads to from a directory. -/
def step (location : Location) (name : String) : Location :=
  if name == "." then location else if name == ".." then parent location else location ++ [name]

/-- The location that names lead to, if there are directories all the way. -/
def resolve (location : Location) : List String → Location
  | [] => location
  | name :: rest => resolve (step location name) rest

/-- All locations that names lead through, with the first and the last one. -/
def way (location : Location) : List String → List Location
  | [] => [location]
  | name :: rest => location :: way (step location name) rest

/-- Where a path starts. -/
def startOf (path : String) : Location := if isAbsolute path then ["/"] else []

/-- Where a path leads, if there are directories all the way. -/
def placeOf (path : String) : Location := resolve (startOf path) (components path)

theorem resolve_append (location : Location) (xs ys : List String) :
    resolve location (xs ++ ys) = resolve (resolve location xs) ys := by
  induction xs generalizing location with
  | nil => rfl
  | cons name rest ih => exact ih (step location name)

theorem mem_way_self (location : Location)
    (names : List String) : location ∈ way location names := by
  cases names with
  | nil => exact List.mem_singleton.mpr rfl
  | cons name rest => exact List.mem_cons_self ..

theorem resolve_mem_way (location : Location) (names : List String) :
    resolve location names ∈ way location names := by
  induction names generalizing location with
  | nil => exact List.mem_singleton.mpr rfl
  | cons name rest ih => exact List.mem_cons_of_mem _ (ih (step location name))

theorem mem_way_append {location place : Location} {xs ys : List String} :
    place ∈ way location (xs ++ ys) ↔
      place ∈ way location xs ∨ place ∈ way (resolve location xs) ys := by
  induction xs generalizing location with
  | nil =>
    -- Where the names begin is on both ways.
    constructor
    · exact .inr
    · rintro (first | later)
      · rw [List.mem_singleton.mp first]
        exact mem_way_self location ys
      · exact later
  | cons name rest ih =>
    simp only [List.cons_append, way, resolve, List.mem_cons, ih, or_assoc]

theorem mem_way_concat {location place : Location} {names : List String} {name : String} :
    place ∈ way location (names ++ [name]) ↔
      place ∈ way location names ∨ place = step (resolve location names) name := by
  rw [mem_way_append]
  constructor
  · rintro (before | last)
    · exact .inl before
    · rcases List.mem_cons.mp last with first | last
      · rw [first]
        exact .inl (resolve_mem_way location names)
      · exact .inr (List.mem_singleton.mp last)
  · rintro (before | last)
    · exact .inl before
    · rw [last]
      exact .inr (resolve_mem_way (resolve location names) [name])

/-- Steps that stay where they are lead nowhere else. -/
theorem mem_way_filter {location place : Location} {names : List String} :
    place ∈ way location (names.filter (· != ".")) ↔ place ∈ way location names := by
  induction names generalizing location with
  | nil => exact Iff.rfl
  | cons name rest ih =>
    by_cases stay : name = "."
    · subst stay
      rw [List.filter_cons_of_neg (by decide), ih, way]
      constructor
      · exact List.mem_cons_of_mem _
      · intro h
        rcases List.mem_cons.mp h with first | later
        · rw [first]
          exact mem_way_self location rest
        · exact later
    · rw [List.filter_cons_of_pos (by simpa using stay)]
      simp only [way, List.mem_cons, ih]

/-! ## Following paths -/

variable {files : FileSystem}

/-- The location of a path that is none of those which lead nowhere. -/
theorem locate_eq_follow {path : String} (noNul : '\x00' ∉ path.toList) (notEmpty : path ≠ "")
    (short : path.utf8ByteSize < 4096) (files : FileSystem) :
    files.locate path = files.follow (startOf path) (components path) := by
  have contains : ¬ path.toList.contains '\x00' = true := by simpa using noNul
  have isEmpty : ¬ path.isEmpty = true := by simpa using notEmpty
  unfold locate
  rw [if_neg contains, if_neg isEmpty, if_neg (Nat.not_le.mpr short)]
  rfl

/-- All that following a name needs is that there is a directory. -/
theorem follow_cons (location : Location) (name : String) (rest : List String) :
    files.follow location (name :: rest) =
      match files.find? location with
      | none => .error .notFound
      | some (.file _) => .error .notDirectory
      | some .directory =>
        if name.utf8ByteSize > 255 then .error .nameTooLong
        else files.follow (step location name) rest := by
  rw [follow]
  cases files.find? location with
  | none => rfl
  | some found =>
    cases found with
    | file content => rfl
    | directory =>
      simp only [step]
      -- Both steps that name no entry are short, so asking for the length first changes nothing.
      by_cases stay : (name == ".") = true
      · have short : ¬ name.utf8ByteSize > 255 := by rw [eq_of_beq stay]; decide
        rw [if_pos stay, if_neg short, if_pos stay]
      · rw [if_neg stay, if_neg stay]
        by_cases out : (name == "..") = true
        · have short : ¬ name.utf8ByteSize > 255 := by rw [eq_of_beq out]; decide
          rw [if_pos out, if_neg short, if_pos out]
        · rw [if_neg out, if_neg out]

/-- From a directory a name is followed, if it is not too long. -/
theorem follow_cons_of_directory {location : Location} {name : String}
    (directory : files.find? location = some .directory) (short : name.utf8ByteSize ≤ 255)
    (rest : List String) :
    files.follow location (name :: rest) = files.follow (step location name) rest := by
  rw [follow_cons, directory]
  exact if_neg (Nat.not_lt.mpr short)

/-- What it takes to follow a name and more. -/
theorem follow_cons_eq_ok_iff {location target : Location} {name : String} {rest : List String} :
    files.follow location (name :: rest) = .ok target ↔
      files.find? location = some .directory ∧ name.utf8ByteSize ≤ 255 ∧
        files.follow (step location name) rest = .ok target := by
  constructor
  · intro followed
    rw [follow_cons] at followed
    cases there : files.find? location with
    | none =>
      rw [there] at followed
      cases followed
    | some found =>
      rw [there] at followed
      cases found with
      | file content => cases followed
      | directory =>
        -- Only the length of the name is still checked.
        by_cases long : name.utf8ByteSize > 255
        · simp only [if_pos long] at followed
          cases followed
        · simp only [if_neg long] at followed
          exact ⟨rfl, Nat.not_lt.mp long, followed⟩
  · rintro ⟨directory, short, followed⟩
    rw [follow_cons_of_directory directory short]
    exact followed

/-- Names are followed from where the names before them were followed to. -/
theorem follow_append (location : Location) (xs ys : List String) :
    files.follow location (xs ++ ys) =
      (files.follow location xs >>= fun place => files.follow place ys) := by
  induction xs generalizing location with
  | nil => rfl
  | cons name rest ih =>
    rw [List.cons_append, follow_cons, follow_cons]
    cases files.find? location with
    | none => rfl
    | some found =>
      cases found with
      | file content => rfl
      | directory =>
        simp only
        split
        · rfl
        · exact ih (step location name)

/-- A path that can be followed leads where its names lead. -/
theorem eq_resolve_of_follow {location target : Location} {names : List String}
    (h : files.follow location names = .ok target) : target = resolve location names := by
  induction names generalizing location with
  | nil =>
    cases h
    rfl
  | cons name rest ih => exact ih (follow_cons_eq_ok_iff.mp h).2.2

/-- Directories all the way can be followed. -/
theorem follow_of_directories {location : Location} {names : List String}
    (short : ∀ name ∈ names, name.utf8ByteSize ≤ 255)
    (directories : ∀ place ∈ way location names, files.find? place = some .directory) :
    files.follow location names = .ok (resolve location names) := by
  induction names generalizing location with
  | nil => rfl
  | cons name rest ih =>
    have first := directories location (List.mem_cons_self ..)
    rw [follow_cons_of_directory first (short name (List.mem_cons_self ..))]
    exact ih (fun name h => short name (List.mem_cons_of_mem _ h))
      fun place h => directories place (List.mem_cons_of_mem _ h)

/-- A path that leads to a directory leads through directories, under names that are not too
long. -/
theorem directories_of_follow {location target : Location} {names : List String}
    (h : files.follow location names = .ok target)
    (directory : files.find? target = some .directory) :
    (∀ name ∈ names, name.utf8ByteSize ≤ 255) ∧
      ∀ place ∈ way location names, files.find? place = some .directory := by
  induction names generalizing location with
  | nil =>
    cases h
    refine ⟨nofun, fun place here => ?_⟩
    rw [List.mem_singleton.mp here]
    exact directory
  | cons name rest ih =>
    obtain ⟨first, short, followed⟩ := follow_cons_eq_ok_iff.mp h
    obtain ⟨shortRest, later⟩ := ih followed
    exact ⟨List.forall_mem_cons.mpr ⟨short, shortRest⟩, List.forall_mem_cons.mpr ⟨first, later⟩⟩

/-! ## Ways without files -/

/-- No file is on the way, and no name on it is too long: all that can be in the way is that
something is missing. -/
structure Clear (files : FileSystem) (location : Location) (names : List String) : Prop where
  /-- No file is at any place of the way, the last one included. -/
  noFile : ∀ place ∈ way location names, ∀ content, files.find? place ≠ some (.file content)
  /-- No name has more than 255 bytes. -/
  short : ∀ name ∈ names, name.utf8ByteSize ≤ 255

/-- A way is clear from its first name on. -/
theorem Clear.tail {location : Location} {name : String} {rest : List String}
    (clear : Clear files location (name :: rest)) : Clear files (step location name) rest where
  noFile place h := clear.noFile place (List.mem_cons_of_mem _ h)
  short name h := clear.short name (List.mem_cons_of_mem _ h)

/-- Following a clear way, one gets there or something is missing. -/
theorem Clear.follow {location : Location} {names : List String}
    (clear : Clear files location names) :
    files.follow location names = .ok (resolve location names) ∨
      files.follow location names = .error .notFound := by
  induction names generalizing location with
  | nil => exact .inl rfl
  | cons name rest ih =>
    cases place : files.find? location with
    | none =>
      rw [follow_cons, place]
      exact .inr rfl
    | some found =>
      cases found with
      | file content => exact absurd place (clear.noFile location (List.mem_cons_self ..) content)
      | directory =>
        rw [follow_cons_of_directory place (clear.short name (List.mem_cons_self ..))]
        exact ih clear.tail

/-! ## Making directories -/

/-- What was there is still there. -/
def Kept (files made : FileSystem) : Prop :=
  ∀ place entry, files.find? place = some entry → made.find? place = some entry

/-- Directories were made at some locations, as far as they were missing, and nothing else was
done. -/
structure Made (files made : FileSystem) (locations : List Location) : Prop where
  /-- There are directories now. -/
  directories : ∀ place ∈ locations, made.find? place = some .directory
  /-- Everywhere else nothing has changed. -/
  others : ∀ place, place ∉ locations → made.find? place = files.find? place

/-- A location that is not there can be written to. -/
theorem isFixed_of_missing {location : Location} (h : files.find? location = none) :
    isFixed location = false := by
  unfold find? at h
  split at h
  · cases h
  · rename_i free
    simpa using free

/-- Making one directory: it was missing and is made, something is there already, or it cannot be
reached. -/
theorem makeMissing_cases (files : FileSystem) (path : String) :
    (∃ location, files.locate path = .ok location ∧ files.find? location = none ∧
      files.makeMissing path = (.ok (), files.put location .directory)) ∨
    (∃ location, files.locate path = .ok location ∧ files.find? location = some .directory ∧
      files.makeMissing path = (.ok (), files)) ∨
    (∃ location content, files.locate path = .ok location ∧
      files.find? location = some (.file content) ∧
      files.makeMissing path = (.error .alreadyExists, files)) ∨
    ∃ error, files.locate path = .error error ∧ files.makeMissing path = (.error error, files) := by
  cases located : files.locate path with
  | error error =>
    refine .inr (.inr (.inr ⟨error, rfl, ?_⟩))
    simp [makeMissing, makeDirectory, isDirectory, lookup, located, bind, Except.bind]
  | ok location =>
    cases place : files.find? location with
    | none =>
      refine .inl ⟨location, rfl, place, ?_⟩
      simp [makeMissing, makeDirectory, located, place, bind, Except.bind]
    | some found =>
      cases found with
      | directory =>
        -- The attempt fails as something exists, but what exists is a directory.
        refine .inr (.inl ⟨location, rfl, place, ?_⟩)
        simp [makeMissing, makeDirectory, isDirectory, lookup, located, place, bind, Except.bind]
      | file content =>
        refine .inr (.inr (.inl ⟨location, content, rfl, place, ?_⟩))
        simp only [makeMissing, makeDirectory, isDirectory, lookup, located, place, bind,
          Except.bind]
        cases wantsDirectory path <;> rfl

/-- If there are directories on the way to it, a directory can be made unless it is a file. -/
theorem makeMissing_of_directories {path : String} {location : Location} {names : List String}
    {last : String}
    (located : ∀ files : FileSystem, files.locate path = files.follow location (names ++ [last]))
    (clear : Clear files location (names ++ [last]))
    (directories : ∀ place ∈ way location names, files.find? place = some .directory) :
    ∃ made, files.makeMissing path = (.ok (), made) ∧
      Made files made (way location (names ++ [last])) := by
  have short : ∀ name ∈ names, name.utf8ByteSize ≤ 255 := fun name h =>
    clear.short name (List.mem_append_left _ h)
  have there : files.locate path = .ok (resolve location (names ++ [last])) := by
    rw [located, follow_append, follow_of_directories short directories]
    show files.follow (resolve location names) [last] = _
    rw [follow_cons_of_directory (directories _ (resolve_mem_way location names))
      (clear.short last (List.mem_append_right _ (List.mem_singleton.mpr rfl))), resolve_append]
    rfl
  have onWay := resolve_mem_way location (names ++ [last])
  -- The path leads to the end of the way, so it is only open what is there.
  rcases makeMissing_cases files path with
    ⟨target, located', missing, made⟩ | ⟨target, located', directory, made⟩ |
    ⟨target, content, located', file, -⟩ | ⟨error, located', -⟩
  · rw [there] at located'
    cases located'
    -- It was missing, and only that location has changed.
    refine ⟨_, made, fun place h => ?_, fun place h => ?_⟩
    · by_cases same : place = resolve location (names ++ [last])
      · rw [same]
        exact find?_put_self files .directory (isFixed_of_missing missing)
      · rw [find?_put_of_ne files .directory same]
        rcases mem_way_concat.mp h with before | atEnd
        · exact directories place before
        · rw [resolve_append] at same
          exact absurd atEnd same
    · exact find?_put_of_ne files .directory fun same => h (same ▸ onWay)
  · rw [there] at located'
    cases located'
    -- It was a directory already.
    refine ⟨files, made, fun place h => ?_, fun _ _ => rfl⟩
    rcases mem_way_concat.mp h with before | atEnd
    · exact directories place before
    · rw [atEnd]
      rwa [resolve_append] at directory
  · rw [there] at located'
    cases located'
    exact absurd file (clear.noFile _ onWay content)
  · rw [there] at located'
    cases located'

/-- A path between the top and some location, made of its names. -/
theorem locate_top {path : String} {names : List String} (someName : names ≠ [])
    (all : ∀ name ∈ names, IsName name)
    (fits : (top path).utf8ByteSize + weight names ≤ 4096) (files : FileSystem) :
    files.locate (top path ++ "/".intercalate names) = files.follow (startOf path) names := by
  have parts : components (top path ++ "/".intercalate names) = names := components_top all
  have noNul : '\x00' ∉ (top path ++ "/".intercalate names).toList := by
    have names' := noNul_intercalate all
    have top' : '\x00' ∉ (top path).toList := by
      unfold top
      split
      · decide
      · decide
    rw [String.toList_append, List.mem_append, not_or]
    exact ⟨top', names'⟩
  have notEmpty : top path ++ "/".intercalate names ≠ "" := by
    intro empty
    rw [empty] at parts
    exact someName parts.symm
  have short : (top path ++ "/".intercalate names).utf8ByteSize < 4096 := by
    have size := utf8ByteSize_intercalate someName
    rw [String.utf8ByteSize_append]
    omega
  have start : startOf (top path ++ "/".intercalate names) = startOf path := by
    unfold startOf
    rw [isAbsolute_top someName all]
  rw [locate_eq_follow noNul notEmpty short, parts, start]

/-- Directories that are made one after the other, along one way. -/
theorem Made.trans {files made last : FileSystem} {places all : List Location}
    (first : Made files made places) (second : Made made last all)
    (within : ∀ place ∈ places, place ∈ all) : Made files last all where
  directories := second.directories
  others place h := by
    rw [second.others place h, first.others place fun mem => h (within place mem)]

/-- If not all on a clear way are directories, something is missing. -/
theorem Clear.missing {location : Location} {names : List String} {last : String}
    (clear : Clear files location (names ++ [last]))
    (notAll : ¬ ∀ place ∈ way location names, files.find? place = some .directory) :
    files.follow location (names ++ [last]) = .error .notFound := by
  rcases clear.follow with ok | missing
  · rw [follow_append] at ok
    obtain ⟨place, above, ok⟩ := Outcome.bind_eq_ok_iff.mp ok
    -- The last name could only be followed from a directory, and that is reached over directories.
    obtain ⟨directory, -, -⟩ := follow_cons_eq_ok_iff.mp ok
    exact absurd (directories_of_follow above directory).2 notAll
  · exact missing

/-- Where a path leads nowhere, nothing is made. -/
theorem makeMissing_of_error {path : String} {error : DiskError}
    (h : files.locate path = .error error) : files.makeMissing path = (.error error, files) := by
  rcases makeMissing_cases files path with
    ⟨_, located, _⟩ | ⟨_, located, _⟩ | ⟨_, _, located, _⟩ | ⟨_, located, made⟩
  · rw [h] at located
    cases located
  · rw [h] at located
    cases located
  · rw [h] at located
    cases located
  · rw [h] at located
    cases located
    exact made

/-- Where directories were made, the way is clear as before. -/
theorem Clear.of_made {made : FileSystem} {places : List Location} {location : Location}
    {names : List String} (clear : Clear files location names) (along : Made files made places) :
    Clear made location names where
  noFile place h content := by
    by_cases mem : place ∈ places
    · rw [along.directories place mem]
      nofun
    · rw [along.others place mem]
      exact clear.noFile place h content
  short := clear.short

/-- A way is clear without the steps that stay where they are. -/
theorem Clear.withoutStays {location : Location} {names : List String} {last : String}
    (clear : Clear files location (names ++ [last])) :
    Clear files location (names.filter (· != ".")) where
  noFile place h := clear.noFile place (mem_way_append.mpr (.inl (mem_way_filter.mp h)))
  short name h := clear.short name (List.mem_append_left _ (List.mem_filter.mp h).1)

/-- A directory is made with those on the way to it, if no file is there. -/
theorem makeFrom_of_clear {path : String} {before : List String} {target : String}
    {names : List String} {last : String}
    (located : ∀ files : FileSystem,
      files.locate target = files.follow (startOf path) (names ++ [last]))
    (filtered : names.filter (· != ".") = before.reverse)
    (all : ∀ name ∈ before, IsName name)
    (fits : (top path).utf8ByteSize + weight before.reverse ≤ 4096)
    (clear : Clear files (startOf path) (names ++ [last])) :
    ∃ made, makeFrom (top path) files target before = (.ok (), made) ∧
      Made files made (way (startOf path) (names ++ [last])) := by
  -- By induction on the names above the target, from the last to the first.
  induction before generalizing target names last with
  | nil =>
    -- All names stay where the path starts, which is always there.
    refine makeMissing_of_directories located clear fun place h => ?_
    rw [← mem_way_filter, filtered] at h
    rw [List.mem_singleton.mp h]
    have fixed : isFixed (startOf path) = true := by
      unfold startOf
      split <;> rfl
    rw [find?, if_pos fixed]
  | cons name before ih =>
    -- If all is there above the target, one attempt makes it.
    by_cases directories : ∀ place ∈ way (startOf path) names, files.find? place = some .directory
    · obtain ⟨made, result, along⟩ := makeMissing_of_directories located clear directories
      refine ⟨made, ?_, along⟩
      rw [makeFrom, result]
    · -- Something is missing on the way, so the directory above is made first.
      have first : files.makeMissing target = (.error .notFound, files) :=
        makeMissing_of_error ((located files).trans (clear.missing directories))
      have reversed : (name :: before).reverse = before.reverse ++ [name] := List.reverse_cons
      rw [reversed] at filtered fits
      have above (place : Location) : place ∈ way (startOf path) (before.reverse ++ [name]) ↔
          place ∈ way (startOf path) names := by
        rw [← filtered, mem_way_filter]
      have clearAbove : Clear files (startOf path) (before.reverse ++ [name]) :=
        filtered ▸ clear.withoutStays
      have all' : ∀ other ∈ before.reverse ++ [name], IsName other := by
        intro other h
        rw [← reversed] at h
        exact all other (List.mem_reverse.mp h)
      have noStays : before.reverse.filter (· != ".") = before.reverse := by
        refine List.filter_eq_self.mpr fun other h => ?_
        have left : other ∈ names.filter (· != ".") := filtered ▸ List.mem_append_left _ h
        exact (List.mem_filter.mp left).2
      have lighter : (top path).utf8ByteSize + weight before.reverse ≤ 4096 := by
        rw [weight_append] at fits
        omega
      -- Once the directory above is made, all is there for the second attempt.
      obtain ⟨middle, made, along⟩ := ih (locate_top (by simp) all' fits) noStays
        (fun other h => all other (List.mem_cons_of_mem _ h)) lighter clearAbove
      have directories' : ∀ place ∈ way (startOf path) names,
          middle.find? place = some .directory :=
        fun place h => along.directories place ((above place).mpr h)
      obtain ⟨made', result, alongLast⟩ :=
        makeMissing_of_directories located (clear.of_made along) directories'
      refine ⟨made', ?_, along.trans alongLast fun place h =>
        mem_way_append.mpr (.inl ((above place).mp h))⟩
      rw [makeFrom, first]
      simp only [reversed, made, result]

/-- **A directory is made** with those on the way to it, if no file is there. -/
theorem makeDirectories_of_clear {path : String} {names : List String} {last : String}
    (noNul : '\x00' ∉ path.toList) (short : path.utf8ByteSize < 4096)
    (parts : components path = names ++ [last]) (noStay : last ≠ ".")
    (clear : Clear files (startOf path) (components path)) :
    ∃ made, files.makeDirectories path = (.ok (), made) ∧
      Made files made (way (startOf path) (components path)) := by
  have notEmpty : path ≠ "" := by
    intro empty
    subst empty
    have none : components "" = [] := rfl
    rw [none] at parts
    simp at parts
  have isName : ∀ name ∈ names, IsName name := by
    intro name h
    refine isName_of_mem_components noNul ?_
    rw [parts]
    exact List.mem_append_left _ h
  have fits : (top path).utf8ByteSize + weight (names.filter (· != ".")) ≤ 4096 := by
    have all := weight_components_le path
    have filtered := weight_filter_le (· != ".") names
    rw [parts, weight_append] at all
    omega
  -- The last name is kept, so what is dropped of the kept names is just that one.
  have before : ((components path).filter (· != ".")).reverse.tail =
      (names.filter (· != ".")).reverse := by
    have kept : [last].filter (· != ".") = [last] :=
      List.filter_eq_self.mpr (by simpa using noStay)
    rw [parts, List.filter_append, kept, List.reverse_append]
    rfl
  have located (files : FileSystem) :
      files.locate path = files.follow (startOf path) (names ++ [last]) := by
    rw [locate_eq_follow noNul notEmpty short, parts]
  rw [parts] at clear
  obtain ⟨made, result, along⟩ :
      ∃ made, makeFrom (top path) files path (names.filter (· != ".")).reverse = (.ok (), made) ∧
        Made files made (way (startOf path) (names ++ [last])) :=
    makeFrom_of_clear located (List.reverse_reverse _).symm
      (fun name h => isName name (List.mem_filter.mp (List.mem_reverse.mp h)).1)
      (by rwa [List.reverse_reverse]) clear
  refine ⟨made, ?_, parts ▸ along⟩
  unfold makeDirectories
  rw [if_neg (by simpa using notEmpty), before]
  exact result

/-- Where nothing was written, every way is clear. -/
theorem clear_empty {location : Location} {names : List String}
    (short : ∀ name ∈ names, name.utf8ByteSize ≤ 255) : Clear .empty location names where
  noFile place _ content := by
    unfold find?
    split
    · nofun
    · nofun
  short := short

/-- Where nothing was written, every directory can be made whose path is not too long. -/
theorem makeDirectories_empty {names : List String} {last : String}
    (all : ∀ name ∈ names ++ [last], IsName name ∧ name.utf8ByteSize ≤ 255) (noStay : last ≠ ".")
    (fits : weight (names ++ [last]) ≤ 4096) :
    (FileSystem.empty.makeDirectories ("/".intercalate (names ++ [last]))).1 = .ok () := by
  have isName : ∀ name ∈ names ++ [last], IsName name := fun name h => (all name h).1
  have parts := components_intercalate isName
  have size := utf8ByteSize_intercalate (List.append_ne_nil_of_right_ne_nil names
    (List.cons_ne_nil last []))
  have clear : Clear .empty (startOf ("/".intercalate (names ++ [last])))
      (components ("/".intercalate (names ++ [last]))) := by
    refine clear_empty fun name h => ?_
    rw [parts] at h
    exact (all name h).2
  obtain ⟨made, result, -⟩ :=
    makeDirectories_of_clear (noNul_intercalate isName) (by omega) parts noStay clear
  rw [result]

/-! ## What making directories keeps -/

theorem Kept.refl (files : FileSystem) : Kept files files := fun _ _ h => h

/-- What two steps keep is kept. -/
theorem Kept.trans {middle made : FileSystem} (first : Kept files middle)
    (second : Kept middle made) : Kept files made :=
  fun place entry h => second place entry (first place entry h)

/-- Something that is put where nothing was leaves all that was there. -/
theorem kept_put {location : Location} (missing : files.find? location = none) (entry : Entry) :
    Kept files (files.put location entry) := by
  intro place old h
  have elsewhere : place ≠ location := by
    intro same
    rw [same, missing] at h
    cases h
  rw [find?_put_of_ne files entry elsewhere]
  exact h

/-- One attempt at a directory leaves what was there. -/
theorem kept_makeMissing (files : FileSystem) (path : String) :
    Kept files (files.makeMissing path).2 := by
  rcases makeMissing_cases files path with
    ⟨location, -, missing, made⟩ | ⟨_, -, -, made⟩ | ⟨_, _, -, -, made⟩ | ⟨_, -, made⟩
  · rw [made]
    exact kept_put missing .directory
  · rw [made]
    exact Kept.refl files
  · rw [made]
    exact Kept.refl files
  · rw [made]
    exact Kept.refl files

/-- A directory that was made is there. -/
theorem located_of_makeMissing {path : String} (h : (files.makeMissing path).1 = .ok ()) :
    ∃ location, (files.makeMissing path).2.locate path = .ok location ∧
      (files.makeMissing path).2.find? location = some .directory := by
  rcases makeMissing_cases files path with
    ⟨location, located, missing, made⟩ | ⟨location, located, directory, made⟩ |
    ⟨_, _, -, -, made⟩ | ⟨_, -, made⟩
  · have noDirectory : files.find? location ≠ some .directory := by
      rw [missing]
      nofun
    rw [made]
    exact ⟨location, locate_put .directory noDirectory located,
      find?_put_self files .directory (isFixed_of_missing missing)⟩
  · rw [made]
    exact ⟨location, located, directory⟩
  · rw [made] at h
    cases h
  · rw [made] at h
    cases h

/-- Making a directory and those on the way to it either ends with the directory itself, after more
was made on the way, or fails. -/
theorem makeFrom_cases (start : String) (files : FileSystem) (path : String)
    (before : List String) :
    ∃ middle, Kept files middle ∧
      (makeFrom start files path before = middle.makeMissing path ∨
        ∃ error, makeFrom start files path before = (.error error, middle)) := by
  -- On the names above; every attempt leaves what was there.
  induction before generalizing files path with
  | nil => exact ⟨files, Kept.refl files, .inl rfl⟩
  | cons name before ih =>
    rw [makeFrom]
    have kept := kept_makeMissing files path
    cases first : files.makeMissing path with
    | mk result files' =>
      rw [first] at kept
      -- Only if something was missing there is more to do.
      by_cases missing : result = .error .notFound
      · subst missing
        simp only
        generalize start ++ "/".intercalate (name :: before).reverse = above
        have keptAbove : Kept files' (makeFrom start files' above before).2 := by
          obtain ⟨middle, keptMiddle, same | ⟨error, same⟩⟩ := ih files' above
          · rw [same]
            exact keptMiddle.trans (kept_makeMissing middle above)
          · rw [same]
            exact keptMiddle
        cases made : makeFrom start files' above before with
        | mk result middle =>
          rw [made] at keptAbove
          refine ⟨middle, kept.trans keptAbove, ?_⟩
          cases result with
          | ok _ => exact .inl rfl
          | error error => exact .inr ⟨error, rfl⟩
      · refine ⟨files, Kept.refl files, .inl ?_⟩
        split
        · rename_i same
          cases same
          exact absurd rfl missing
        · exact first.symm

/-- **Making directories** leaves what was there. -/
theorem kept_makeDirectories (files : FileSystem) (path : String) :
    Kept files (files.makeDirectories path).2 := by
  unfold makeDirectories
  split
  · exact Kept.refl files
  · obtain ⟨middle, kept, same | ⟨error, same⟩⟩ := makeFrom_cases _ files path _
    · rw [same]
      exact kept.trans (kept_makeMissing middle path)
    · rw [same]
      exact kept

/-- What it takes for a path to lead somewhere. -/
theorem valid_of_locate {path : String} {location : Location}
    (h : files.locate path = .ok location) :
    '\x00' ∉ path.toList ∧ path ≠ "" ∧ path.utf8ByteSize < 4096 := by
  unfold locate at h
  split at h
  · cases h
  · rename_i noNul
    split at h
    · cases h
    · rename_i notEmpty
      split at h
      · cases h
      · rename_i short
        exact ⟨by simpa using noNul, by simpa using notEmpty, Nat.not_le.mp short⟩

/-- **No file is on the way to a directory that can be made.** -/
theorem clear_of_makeDirectories {path : String} (h : (files.makeDirectories path).1 = .ok ()) :
    '\x00' ∉ path.toList ∧ Clear files (startOf path) (components path) := by
  by_cases empty : path = ""
  · subst empty
    refine ⟨by decide, ⟨fun place here content => ?_, nofun⟩⟩
    rw [show place = [] from List.mem_singleton.mp here]
    nofun
  -- It was made by an attempt, after which it is there.
  · obtain ⟨location, located, directory⟩ :
        ∃ location, (files.makeDirectories path).2.locate path = .ok location ∧
          (files.makeDirectories path).2.find? location = some .directory := by
      unfold makeDirectories at h ⊢
      have notEmpty : ¬ path.isEmpty = true := by simpa using empty
      rw [if_neg notEmpty] at h ⊢
      obtain ⟨middle, -, same | ⟨error, same⟩⟩ := makeFrom_cases
        (if isAbsolute path then "/" else "") files path
        ((components path).filter (· != ".")).reverse.tail
      · simp only [same] at h ⊢
        exact located_of_makeMissing h
      · simp only [same] at h
        cases h
    obtain ⟨noNul, notEmpty, short⟩ := valid_of_locate located
    rw [locate_eq_follow noNul notEmpty short] at located
    obtain ⟨shortNames, directories⟩ := directories_of_follow located directory
    -- What is a directory in the end was no file in the beginning.
    refine ⟨noNul, ⟨fun place onWay content file => ?_, shortNames⟩⟩
    have kept := kept_makeDirectories files path place _ file
    rw [directories place onWay] at kept
    cases kept

end TextVec.FileSystem
