import TextVec.Disk.Cache
import TextVec.Proofs.Disk.Directories

/-!
# The entries of a cache

A file in a directory is reached through the directory, whatever the way to it is. So what a cache
finds is decided by whether its directory is there and by what is in it. Main statements: what
getting and removing find, and what putting does if no file is in the way.
-/

namespace TextVec

/-- A name that a file in a directory can have. -/
structure Path.IsFileName (name : String) : Prop extends IsName name where
  /-- That would be the directory itself. -/
  noStay : name ≠ "."
  /-- And that would be the one above it. -/
  noStepOut : name ≠ ".."
  /-- No file system takes longer names. -/
  short : name.utf8ByteSize ≤ 255

namespace FileSystem

open TextVec.Path

variable {files : FileSystem}

/-! ## Files in a directory -/

/-- The name of a file leads down by one step. -/
theorem step_fileName {name : String} (h : IsFileName name) (location : Location) :
    step location name = location ++ [name] := by
  unfold step
  rw [if_neg (by simpa using h.noStay), if_neg (by simpa using h.noStepOut)]

/-- A place below some directory is not one that is always there. -/
theorem isFixed_concat {name : String} (h : IsFileName name) (location : Location) :
    isFixed (location ++ [name]) = false := by
  have noSlash : name ≠ "/" := fun same => h.noSlash (by rw [same]; decide)
  unfold isFixed
  rw [Bool.or_eq_false_iff]
  constructor
  · rw [beq_eq_false_iff_ne]
    intro same
    have last := congrArg List.getLast? same
    simp [noSlash] at last
  · simp [h.noStepOut]

theorem parent_concat {name : String} (h : IsFileName name) (location : Location) :
    parent (location ++ [name]) = location := by
  have noSlash : name ≠ "/" := fun same => h.noSlash (by rw [same]; decide)
  have noTop : location ++ [name] ≠ ["/"] := by
    intro same
    have last := congrArg List.getLast? same
    simp [noSlash] at last
  have noWayOut : ¬ (location ++ [name]).all (· == "..") = true := by
    simp [h.noStepOut]
  unfold parent
  rw [if_neg (by simpa using noTop), if_neg noWayOut, List.dropLast_concat]

theorem concat_inj {location place : Location} {name other : String} :
    location ++ [name] = place ++ [other] ↔ location = place ∧ name = other := by
  constructor
  · intro same
    obtain ⟨before, last⟩ := List.append_inj' same rfl
    exact ⟨before, List.singleton_inj.mp last⟩
  · rintro ⟨rfl, rfl⟩
    rfl

/-! ## Directories in directories -/

theorem startOf_join {directory name : String} (h : IsName name) :
    startOf (join directory name) = startOf directory := by
  unfold startOf
  rw [isAbsolute_join h]

/-- A directory in a directory is one step below it. -/
theorem placeOf_join {directory name : String} (h : IsFileName name) :
    placeOf (join directory name) = placeOf directory ++ [name] := by
  unfold placeOf
  rw [startOf_join h.toIsName, components_join h.toIsName, resolve_append]
  exact step_fileName h _

/-- The way to a directory in a directory goes through that, and one step on. -/
theorem mem_way_join {directory name : String} (h : IsFileName name) {place : Location} :
    place ∈ way (startOf (join directory name)) (components (join directory name)) ↔
      place ∈ way (startOf directory) (components directory) ∨
        place = placeOf directory ++ [name] := by
  rw [startOf_join h.toIsName, components_join h.toIsName, mem_way_concat, step_fileName h]
  rfl

/-- If no name of a directory is too long, none of a path inside it is. -/
theorem short_join {directory name : String} (h : IsFileName name)
    (short : ∀ part ∈ components directory, part.utf8ByteSize ≤ 255) :
    ∀ part ∈ components (join directory name), part.utf8ByteSize ≤ 255 := by
  intro part mem
  rw [components_join h.toIsName] at mem
  rcases List.mem_append.mp mem with above | last
  · exact short part above
  · rw [List.mem_singleton.mp last]
    exact h.short

/-- A path that ends in a name may lead to a file. -/
theorem wantsDirectory_join {directory name : String} (h : IsName name) :
    wantsDirectory (join directory name) = false := by
  have last (front : List Char) : ((front ++ name.toList).getLast? == some '/') = false := by
    have some : name.toList ≠ [] := fun empty => h.notEmpty (String.toList_eq_nil_iff.mp empty)
    rw [List.getLast?_append, List.getLast?_eq_some_getLast some, Option.some_or,
      beq_eq_false_iff_ne]
    intro slash
    exact h.noSlash (Option.some.inj slash ▸ List.getLast_mem some)
  unfold wantsDirectory join
  split
  · exact last []
  · split
    · rw [String.toList_append]
      exact last _
    · rw [String.toList_append]
      exact last _

/-- A location, if there is a directory. -/
def enterAt (files : FileSystem) (place : Location) : DiskResult Location :=
  match files.find? place with
  | none => .error .notFound
  | some (.file _) => .error .notDirectory
  | some .directory => .ok place

/-- The directory that a path leads to. -/
def enter (files : FileSystem) (path : String) : DiskResult Location := do
  files.enterAt (← files.follow (startOf path) (components path))

/-- A place can be entered exactly if it is a directory. -/
theorem enterAt_eq_ok_iff {place target : Location} :
    files.enterAt place = .ok target ↔ place = target ∧ files.find? place = some .directory := by
  unfold enterAt
  cases files.find? place with
  | none => simp
  | some entry =>
    cases entry with
    | file content => simp
    | directory => simp

/-- Only what is at a place decides whether it can be entered. -/
theorem enterAt_congr {later : FileSystem} {place : Location}
    (same : later.find? place = files.find? place) : later.enterAt place = files.enterAt place := by
  unfold enterAt
  rw [same]

theorem enterAt_of_missing {place : Location} (missing : files.find? place = none) :
    files.enterAt place = .error .notFound := by
  unfold enterAt
  rw [missing]

/-- A directory that is entered is reached over directories. -/
theorem enter_eq_ok_iff {path : String} {place : Location} :
    files.enter path = .ok place ↔
      place = placeOf path ∧
      (∀ name ∈ components path, name.utf8ByteSize ≤ 255) ∧
      ∀ place ∈ way (startOf path) (components path), files.find? place = some .directory := by
  unfold enter
  rw [Outcome.bind_eq_ok_iff]
  constructor
  · rintro ⟨target, followed, entered⟩
    obtain ⟨rfl, directory⟩ := enterAt_eq_ok_iff.mp entered
    exact ⟨eq_resolve_of_follow followed, directories_of_follow followed directory⟩
  · rintro ⟨rfl, short, directories⟩
    exact ⟨_, follow_of_directories short directories,
      enterAt_eq_ok_iff.mpr ⟨rfl, directories _ (resolve_mem_way ..)⟩⟩

/-- On a clear way, a directory that cannot be entered is missing. -/
theorem Clear.enter {path : String}
    (clear : Clear files (startOf path) (components path)) :
    files.enter path = .ok (placeOf path) ∨
      files.enter path = .error .notFound := by
  unfold FileSystem.enter
  rcases clear.follow with ok | missing
  · rw [ok]
    show files.enterAt (placeOf path) = _ ∨ files.enterAt (placeOf path) = _
    unfold enterAt
    cases found : files.find? (placeOf path) with
    | none => exact .inr rfl
    | some entry =>
      cases entry with
      | file content => exact absurd found (clear.noFile _ (resolve_mem_way ..) content)
      | directory => exact .inl rfl
  · rw [missing]
    exact .inr rfl

/-- Following one name leads out of a location if there is a directory. -/
theorem follow_fileName {name : String} (h : IsFileName name) (place : Location) :
    files.follow place [name] = (files.enterAt place).map fun place => place ++ [name] := by
  cases there : files.find? place with
  | none => simp only [follow_cons, enterAt, there, Except.map]
  | some entry =>
    cases entry with
    | file content => simp only [follow_cons, enterAt, there, Except.map]
    | directory =>
      rw [follow_cons_of_directory there h.short, step_fileName h, enterAt, there]
      rfl

/-- A directory in a directory is entered through it. -/
theorem enter_join {directory name : String} (h : IsFileName name) :
    files.enter (join directory name) =
      (files.enter directory >>= fun place => files.enterAt (place ++ [name])) := by
  -- Both follow the way to the outer directory first, and then one name.
  unfold enter
  rw [startOf_join h.toIsName, components_join h.toIsName, follow_append]
  cases files.follow (startOf directory) (components directory) with
  | error error => rfl
  | ok place =>
    show (files.follow place [name] >>= files.enterAt) =
      (files.enterAt place >>= fun place => files.enterAt (place ++ [name]))
    rw [follow_fileName h]
    cases files.enterAt place with
    | error error => rfl
    | ok place => rfl

/-- The location of a file in a directory. -/
theorem locate_join {directory name : String} (noNul : '\x00' ∉ directory.toList)
    (h : IsFileName name) (short : (join directory name).utf8ByteSize < 4096)
    (files : FileSystem) :
    files.locate (join directory name) =
      (files.enter directory).map fun place => place ++ [name] := by
  rw [locate_eq_follow (noNul_join noNul h.toIsName) (join_ne_empty h.toIsName) short,
    startOf_join h.toIsName, components_join h.toIsName, follow_append]
  unfold enter
  cases files.follow (startOf directory) (components directory) with
  | error error => rfl
  | ok place => exact follow_fileName h place

/-- What is in a directory under a name. -/
def lookupIn (files : FileSystem) (directory name : String) : DiskResult (Location × Entry) := do
  let place ← files.enter directory
  (files.find? (place ++ [name])).elim (.error .notFound) fun entry => .ok (place ++ [name], entry)

/-- In a directory that can be entered, a name is there or it is not. -/
theorem lookupIn_of_enter {directory : String} {place : Location}
    (entered : files.enter directory = .ok place) (name : String) :
    files.lookupIn directory name =
      (files.find? (place ++ [name])).elim (.error .notFound) fun entry =>
        .ok (place ++ [name], entry) := by
  unfold lookupIn
  rw [entered]
  rfl

/-- In a directory that cannot be entered nothing is found. -/
theorem lookupIn_of_error {directory : String} {error : DiskError}
    (h : files.enter directory = .error error) (name : String) :
    files.lookupIn directory name = .error error := by
  unfold lookupIn
  rw [h]
  rfl

/-- A file in a directory is found through the directory. -/
theorem lookup_join {directory name : String} (noNul : '\x00' ∉ directory.toList)
    (h : IsFileName name) (short : (join directory name).utf8ByteSize < 4096)
    (files : FileSystem) :
    files.lookup (join directory name) = files.lookupIn directory name := by
  unfold lookup
  rw [locate_join noNul h short]
  cases entered : files.enter directory with
  | error error =>
    rw [lookupIn_of_error entered]
    rfl
  | ok place =>
    rw [lookupIn_of_enter entered]
    simp only [Except.map, bind, Except.bind]
    cases files.find? (place ++ [name]) with
    | none => rfl
    | some entry =>
      cases entry with
      | file content =>
        simp only
        rw [wantsDirectory_join h.toIsName]
        rfl
      | directory => rfl

/-- A file can be written in a directory that is there, unless it is a directory itself. -/
theorem write_join {directory name : String} (noNul : '\x00' ∉ directory.toList)
    (h : IsFileName name) (short : (join directory name).utf8ByteSize < 4096) {place : Location}
    (entered : files.enter directory = .ok place)
    (noDirectory : files.find? (place ++ [name]) ≠ some .directory) (content : Bytes) :
    files.write (join directory name) content =
      .ok (files.put (place ++ [name]) (.file content)) := by
  -- The directory that is entered is the one that the file will be in.
  obtain ⟨resolved, -, directories⟩ := enter_eq_ok_iff.mp entered
  have above : files.find? place = some .directory := by
    rw [resolved]
    exact directories _ (resolve_mem_way ..)
  unfold write
  rw [locate_join noNul h short, entered, wantsDirectory_join h.toIsName]
  simp only [Except.map, bind, Except.bind, Bool.false_eq_true, if_false]
  cases found : files.find? (place ++ [name]) with
  | none =>
    simp only
    rw [parent_concat h, above]
  | some entry =>
    cases entry with
    | file old => rfl
    | directory => exact absurd found noDirectory

end FileSystem

namespace DiskCache

open FileSystem TextVec.Path

/-! ## Entries and drafts -/

/-- The file in which an entry is first written. -/
def draftPath (cache : DiskCache) (key : String) : String := cache.entryPath key ++ ".tmp"

/-- Where the directory of a cache is, if there is one. -/
def place (cache : DiskCache) : Location := placeOf cache.root

/-- All locations on the way to the directory of a cache, and its own. -/
def way (cache : DiskCache) : List Location :=
  FileSystem.way (startOf cache.root) (components cache.root)

/-- Where the entry of a key is. -/
def entryPlace (cache : DiskCache) (key : String) : Location :=
  cache.place ++ [Digest.ofText key]

/-- Where the draft of an entry is. -/
def draftPlace (cache : DiskCache) (key : String) : Location :=
  cache.place ++ [Digest.ofText key ++ ".tmp"]

theorem isFileName_entry (key : String) : IsFileName (Digest.ofText key) where
  toIsName := Digest.isName_ofText key
  noStay same := by
    have size := Digest.utf8ByteSize_ofText key
    rw [same] at size
    exact absurd size (by decide)
  noStepOut same := by
    have size := Digest.utf8ByteSize_ofText key
    rw [same] at size
    exact absurd size (by decide)
  short := by
    rw [Digest.utf8ByteSize_ofText]
    decide

theorem utf8ByteSize_draft (key : String) : (Digest.ofText key ++ ".tmp").utf8ByteSize = 68 := by
  rw [String.utf8ByteSize_append, Digest.utf8ByteSize_ofText]
  rfl

theorem isFileName_draft (key : String) : IsFileName (Digest.ofText key ++ ".tmp") where
  toIsName := Digest.isName_draft key
  noStay same := by
    have size := utf8ByteSize_draft key
    rw [same] at size
    exact absurd size (by decide)
  noStepOut same := by
    have size := utf8ByteSize_draft key
    rw [same] at size
    exact absurd size (by decide)
  short := by
    rw [utf8ByteSize_draft]
    decide

theorem draftPath_eq (cache : DiskCache) (key : String) :
    cache.draftPath key = join cache.root (Digest.ofText key ++ ".tmp") :=
  join_append (Digest.isName_ofText key) (Digest.isName_draft key)

/-- No draft is where an entry is, of this or of another cache. -/
theorem draftPlace_ne_entryPlace (cache other : DiskCache) (key otherKey : String) :
    cache.draftPlace key ≠ other.entryPlace otherKey := fun same =>
  Digest.draft_ne_ofText key otherKey (concat_inj.mp same).2

/-- The paths of a cache, of its drafts too, are none of those that lead nowhere. -/
structure Roomy (cache : DiskCache) : Prop where
  /-- No character that no path may have. -/
  noNul : '\x00' ∉ cache.root.toList
  /-- No path that is too long. -/
  short : ∀ key, (cache.draftPath key).utf8ByteSize < 4096

/-- A path that is short with a suffix is short without it. -/
theorem Roomy.entry_short {cache : DiskCache} (roomy : Roomy cache) (key : String) :
    (cache.entryPath key).utf8ByteSize < 4096 := by
  have draft := roomy.short key
  rw [draftPath, String.utf8ByteSize_append] at draft
  exact Nat.lt_of_le_of_lt (Nat.le_add_right ..) draft

theorem Roomy.root_short {cache : DiskCache} (roomy : Roomy cache) :
    cache.root.utf8ByteSize < 4096 := by
  have entry := roomy.entry_short ""
  unfold entryPath join at entry
  rw [isAbsolute_name (Digest.isName_ofText ""), Bool.false_or] at entry
  split at entry
  · rename_i empty
    rw [String.isEmpty_iff.mp empty]
    decide
  · split at entry
    · rw [String.utf8ByteSize_append] at entry
      omega
    · rw [String.utf8ByteSize_append, String.utf8ByteSize_append] at entry
      omega

/-! ## What is found -/

variable {cache : DiskCache} {files : FileSystem} {key : String}

/-- An entry is looked up in the directory of its cache. -/
theorem lookup_entry (roomy : Roomy cache) (files : FileSystem) (key : String) :
    files.lookup (cache.entryPath key) = files.lookupIn cache.root (Digest.ofText key) :=
  lookup_join roomy.noNul (isFileName_entry key) (roomy.entry_short key) files

/-- Files from which a cache reads a value under a key, or that there is none: no file is on the way
to the directory, and all of the way is there if the entry is. -/
structure Shows (files : FileSystem) (cache : DiskCache) (key : String) (value : Option Bytes) :
    Prop where
  /-- No file is on the way to the directory. -/
  clear : Clear files (startOf cache.root) (components cache.root)
  /-- The entry is there with this value, or not at all. -/
  entry : files.find? (cache.entryPlace key) = value.map .file
  /-- If there is a value, the directory is there. -/
  made : value ≠ none → ∀ place ∈ cache.way, files.find? place = some .directory

/-- Looking an entry up finds it at its place, or says that it is missing. -/
theorem lookup_of_shows (roomy : Roomy cache) {value : Option Bytes}
    (hShows : Shows files cache key value) :
    files.lookup (cache.entryPath key) =
      value.elim (.error .notFound) fun bytes => .ok (cache.entryPlace key, .file bytes) := by
  have found : files.find? (cache.place ++ [Digest.ofText key]) = value.map .file := hShows.entry
  rw [lookup_entry roomy]
  cases value with
  | some bytes =>
    have entered : files.enter cache.root = .ok cache.place :=
      enter_eq_ok_iff.mpr ⟨rfl, hShows.clear.short, hShows.made nofun⟩
    rw [lookupIn_of_enter entered, found]
    rfl
  | none =>
    -- The directory may be missing, or only the entry.
    rcases hShows.clear.enter with entered | missing
    · have entered : files.enter cache.root = .ok cache.place := entered
      rw [lookupIn_of_enter entered, found]
      rfl
    · rw [lookupIn_of_error missing]
      rfl

/-- Getting a key finds its entry. -/
theorem get_of_shows (roomy : Roomy cache) {value : Option Bytes}
    (hShows : Shows files cache key value) : cache.get files key = .ok value := by
  have found := lookup_of_shows roomy hShows
  unfold get FileSystem.read
  rw [found]
  cases value with
  | some bytes => rfl
  | none => rfl

/-- Where an entry is on the way to its directory, it is a directory, and getting it fails. -/
theorem get_of_mem_way (roomy : Roomy cache)
    (short : ∀ name ∈ components cache.root, name.utf8ByteSize ≤ 255)
    (directories : ∀ place ∈ cache.way, files.find? place = some .directory)
    (onWay : cache.entryPlace key ∈ cache.way) : cache.get files key = .error .isDirectory := by
  have entered : files.enter cache.root = .ok cache.place :=
    enter_eq_ok_iff.mpr ⟨rfl, short, directories⟩
  have directory : files.find? (cache.place ++ [Digest.ofText key]) = some .directory :=
    directories _ onWay
  unfold get FileSystem.read
  rw [lookup_entry roomy, lookupIn_of_enter entered, directory]
  rfl

/-- Removing a key says whether there was an entry, and takes it away. -/
theorem remove_of_shows (roomy : Roomy cache) {value : Option Bytes}
    (hShows : Shows files cache key value) :
    ∃ after, cache.remove files key = (.ok value.isSome, after) ∧
      after.find? (cache.entryPlace key) = none ∧
      ∀ place, place ≠ cache.entryPlace key → after.find? place = files.find? place := by
  have found := lookup_of_shows roomy hShows
  unfold remove removeFile
  rw [found]
  -- Only if there was an entry, something changes.
  cases value with
  | some bytes =>
    exact ⟨_, rfl, find?_erase_self files (isFixed_concat (isFileName_entry key) cache.place),
      fun place elsewhere => find?_erase_of_ne files elsewhere⟩
  | none => exact ⟨files, rfl, hShows.entry, fun _ _ => rfl⟩

/-- Removing makes nothing. -/
theorem find?_of_remove {location : Location} {entry : Entry}
    (there : (cache.remove files key).2.find? location = some entry) :
    files.find? location = some entry := by
  unfold remove removeFile at there
  cases found : files.lookup (cache.entryPath key) with
  | error error =>
    rw [found] at there
    cases error with
    | _ => exact there
  | ok reached =>
    -- Only what the path leads to can have gone.
    obtain ⟨place, old⟩ := reached
    rw [found] at there
    cases old with
    | directory => exact there
    | file content =>
      have there : (files.erase place).find? location = some entry := there
      by_cases here : location = place
      · subst here
        cases fixed : isFixed location with
        | true =>
          rw [find?, if_pos fixed] at there ⊢
          exact there
        | false =>
          rw [find?_erase_self files fixed] at there
          cases there
      · rwa [find?_erase_of_ne files here] at there

/-! ## Putting -/

/-- A draft can be written in the directory, unless it is a directory itself. -/
theorem write_draft (roomy : Roomy cache) (entered : files.enter cache.root = .ok cache.place)
    (noDirectory : files.find? (cache.draftPlace key) ≠ some .directory) (bytes : Bytes) :
    files.write (cache.draftPath key) bytes =
      .ok (files.put (cache.draftPlace key) (.file bytes)) := by
  have short := roomy.short key
  rw [draftPath_eq] at short ⊢
  exact write_join roomy.noNul (isFileName_draft key) short entered noDirectory bytes

/-- Moving a draft to the entry, in a directory that is there. -/
theorem rename_draft (roomy : Roomy cache) (entered : files.enter cache.root = .ok cache.place)
    {bytes : Bytes} (draft : files.find? (cache.draftPlace key) = some (.file bytes))
    (noDirectory : files.find? (cache.entryPlace key) ≠ some .directory) :
    files.rename (cache.draftPath key) (cache.entryPath key) =
      .ok ((files.put (cache.entryPlace key) (.file bytes)).erase (cache.draftPlace key)) := by
  have source : files.lookup (cache.draftPath key) = .ok (cache.draftPlace key, .file bytes) := by
    have short := roomy.short key
    rw [draftPath_eq] at short ⊢
    have found : files.find? (cache.place ++ [Digest.ofText key ++ ".tmp"]) = some (.file bytes) :=
      draft
    rw [lookup_join roomy.noNul (isFileName_draft key) short, lookupIn_of_enter entered, found]
    rfl
  have goal : files.locate (cache.entryPath key) = .ok (cache.entryPlace key) := by
    rw [entryPath, locate_join roomy.noNul (isFileName_entry key) (roomy.entry_short key), entered]
    rfl
  have written : files.write (cache.entryPath key) bytes =
      .ok (files.put (cache.entryPlace key) (.file bytes)) :=
    write_join roomy.noNul (isFileName_entry key) (roomy.entry_short key) entered noDirectory bytes
  -- The draft goes away last, for it is not where the entry is.
  unfold rename
  rw [source]
  simp only [bind, Except.bind, goal, written]
  rw [if_neg fun same => draftPlace_ne_entryPlace cache cache key key same.symm]

/-- **An entry is put** if no file is on the way to the directory and neither the entry nor its
draft is a directory: the directories on the way are made, and nothing else is changed. -/
theorem put_of_clear {names : List String} {last : String} (roomy : Roomy cache)
    (parts : components cache.root = names ++ [last]) (noStay : last ≠ ".")
    (clear : Clear files (startOf cache.root) (components cache.root))
    (entry : files.find? (cache.entryPlace key) ≠ some .directory)
    (draft : files.find? (cache.draftPlace key) ≠ some .directory)
    (entryApart : cache.entryPlace key ∉ cache.way)
    (draftApart : cache.draftPlace key ∉ cache.way) (bytes : Bytes) :
    ∃ after, cache.put files key bytes = (.ok (), after) ∧
      after.find? (cache.entryPlace key) = some (.file bytes) ∧
      after.find? (cache.draftPlace key) = none ∧
      (∀ place ∈ cache.way, after.find? place = some .directory) ∧
      ∀ place, place ∉ cache.way → place ≠ cache.entryPlace key → place ≠ cache.draftPlace key →
        after.find? place = files.find? place := by
  obtain ⟨made, result, along⟩ :=
    makeDirectories_of_clear roomy.noNul roomy.root_short parts noStay clear
  have entered : made.enter cache.root = .ok cache.place :=
    enter_eq_ok_iff.mpr ⟨rfl, clear.short, along.directories⟩
  have distinct := draftPlace_ne_entryPlace cache cache key key
  have entryFree := isFixed_concat (isFileName_entry key) cache.place
  have draftFree := isFixed_concat (isFileName_draft key) cache.place
  -- First the draft is written.
  have noDraft : made.find? (cache.draftPlace key) ≠ some .directory := by
    rwa [along.others _ draftApart]
  have written := write_draft roomy entered noDraft bytes
  -- It is still in the directory, and then it is moved.
  have onWay : ∀ place ∈ cache.way, place ≠ cache.draftPlace key ∧ place ≠ cache.entryPlace key :=
    fun place h => ⟨fun same => draftApart (same ▸ h), fun same => entryApart (same ▸ h)⟩
  have entered' : (made.put (cache.draftPlace key) (.file bytes)).enter cache.root =
      .ok cache.place := by
    refine enter_eq_ok_iff.mpr ⟨rfl, clear.short, fun place h => ?_⟩
    rw [find?_put_of_ne made _ (onWay place h).1]
    exact along.directories place h
  have noEntry : (made.put (cache.draftPlace key) (.file bytes)).find? (cache.entryPlace key) ≠
      some .directory := by
    rwa [find?_put_of_ne made _ distinct.symm, along.others _ entryApart]
  have moved := rename_draft roomy entered'
    (find?_put_self made (.file bytes) draftFree) noEntry
  refine ⟨((made.put (cache.draftPlace key) (.file bytes)).put (cache.entryPlace key)
    (.file bytes)).erase (cache.draftPlace key), ?_, ?_, ?_, ?_, ?_⟩
  · have path : cache.entryPath key ++ ".tmp" = cache.draftPath key := rfl
    unfold put
    simp only [result, path, written, moved]
  · rw [find?_erase_of_ne _ distinct.symm]
    exact find?_put_self _ (.file bytes) entryFree
  · exact find?_erase_self _ draftFree
  · intro place h
    rw [find?_erase_of_ne _ (onWay place h).1, find?_put_of_ne _ _ (onWay place h).2,
      find?_put_of_ne _ _ (onWay place h).1]
    exact along.directories place h
  · intro place offWay noEntryPlace noDraftPlace
    rw [find?_erase_of_ne _ noDraftPlace, find?_put_of_ne _ _ noEntryPlace,
      find?_put_of_ne _ _ noDraftPlace]
    exact along.others place offWay

end DiskCache

end TextVec
