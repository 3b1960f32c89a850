import TextVec.Disk.Error
import TextVec.Disk.Path

/-!
# Files and directories

The files below the working directory, as a finite map from locations to contents. A path is
followed component by component, and each one before the last must be a directory. Main statements:
what is put at a location is found there until it is erased, and all other locations are left as
they were.

There are no links: each location holds a file or a directory of its own, so that what is done at
one cannot be seen at another. Nothing else fails, either: there is room for every file, every file
may be read and written, and nobody else changes anything. Paths are texts.
-/

namespace TextVec

/-- Where a file or a directory is: the names on the way to it from the working directory. Steps out
of that directory are written `..`, and the top of the file system is `/`. -/
abbrev Location := List String

/-- What is at a location. -/
inductive Entry where
  | file (content : Bytes)
  | directory
  deriving DecidableEq, Repr

/-- The files and directories below the working directory, none of which is a link. -/
structure FileSystem where
  /-- What is at each location. Of two entries for a location the first one counts. -/
  entries : List (Location × Entry) := []
  deriving Repr, Inhabited

namespace FileSystem

/-- A file system in which nothing has been written. -/
def empty : FileSystem := {}

/-- The working directory and the directories around it, which are always there. -/
def isFixed (location : Location) : Bool := location == ["/"] || location.all (· == "..")

/-- What is at a location. -/
def find? (files : FileSystem) (location : Location) : Option Entry :=
  if isFixed location then some .directory else files.entries.lookup location

/-- Puts an entry at a location. -/
def put (files : FileSystem) (location : Location) (entry : Entry) : FileSystem :=
  ⟨(location, entry) :: files.entries.filter (·.1 != location)⟩

/-- Takes away what is at a location. -/
def erase (files : FileSystem) (location : Location) : FileSystem :=
  ⟨files.entries.filter (·.1 != location)⟩

theorem find?_put_self (files : FileSystem) {location : Location} (entry : Entry)
    (h : isFixed location = false) : (files.put location entry).find? location = some entry := by
  simp [find?, put, h]

/-- Leaving out the entries of one location keeps what is at any other. -/
theorem lookup_filter_of_ne {location other : Location} (h : other ≠ location) :
    ∀ entries : List (Location × Entry),
      (entries.filter (·.1 != location)).lookup other = entries.lookup other
  | [] => rfl
  | (place, content) :: rest => by
    by_cases hp : place = location
    · subst hp
      simp [List.lookup_cons, beq_false_of_ne h, lookup_filter_of_ne h rest]
    · simp [List.lookup_cons, hp, lookup_filter_of_ne h rest]

theorem find?_put_of_ne (files : FileSystem) {location other : Location} (entry : Entry)
    (h : other ≠ location) : (files.put location entry).find? other = files.find? other := by
  simp [find?, put, List.lookup_cons, beq_false_of_ne h, lookup_filter_of_ne h]

theorem find?_erase_of_ne (files : FileSystem) {location other : Location}
    (h : other ≠ location) : (files.erase location).find? other = files.find? other := by
  simp [find?, erase, lookup_filter_of_ne h]

theorem find?_erase_self (files : FileSystem) {location : Location}
    (h : isFixed location = false) : (files.erase location).find? location = none := by
  simp only [find?, erase, h, Bool.false_eq_true, if_false, List.lookup_eq_none_iff]
  intro entry hmem
  have hne := (List.mem_filter.1 hmem).2
  simp only [bne_iff_ne, ne_eq] at hne
  exact bne_iff_ne.2 fun he => hne he.symm

/-- The directory that holds a location. -/
def parent (location : Location) : Location :=
  if location == ["/"] then location
  else if location.all (· == "..") then location ++ [".."]
  else location.dropLast

/-- Follows the components of a path from a location on. The last one need not exist. -/
def follow (files : FileSystem) (location : Location) : List String → DiskResult Location
  | [] => .ok location
  | name :: rest =>
    match files.find? location with
    | none => .error .notFound
    | some (.file _) => .error .notDirectory
    | some .directory =>
      if name == "." then follow files location rest
      else if name == ".." then follow files (parent location) rest
      else if name.utf8ByteSize > 255 then .error .nameTooLong
      else follow files (location ++ [name]) rest

/-- Whether a path ends in a slash, so that only a directory can be meant. -/
def wantsDirectory (path : String) : Bool := path.toList.getLast? == some '/'

/-- The location of a path. -/
def locate (files : FileSystem) (path : String) : DiskResult Location :=
  if path.toList.contains '\x00' then .error .invalidName
  else if path.isEmpty then .error .notFound
  else if path.utf8ByteSize ≥ 4096 then .error .nameTooLong
  else follow files (if Path.isAbsolute path then ["/"] else []) (Path.components path)

/-- What a path leads to. -/
def lookup (files : FileSystem) (path : String) : DiskResult (Location × Entry) := do
  let location ← files.locate path
  match files.find? location with
  | none => .error .notFound
  | some (.file content) =>
    if wantsDirectory path then .error .notDirectory else .ok (location, .file content)
  | some .directory => .ok (location, .directory)

/-- Whether a path leads to a directory. -/
def isDirectory (files : FileSystem) (path : String) : Bool :=
  match files.lookup path with
  | .ok (_, .directory) => true
  | _ => false

/-- The content of a file. -/
def read (files : FileSystem) (path : String) : DiskResult Bytes := do
  match ← files.lookup path with
  | (_, .file content) => .ok content
  | (_, .directory) => .error .isDirectory

/-- The content of a file that is a text. -/
def readText (files : FileSystem) (path : String) : DiskResult String := do
  match Text.ofUtf8? (← files.read path) with
  | some text => .ok text
  | none => .error .notText

/-- Writes a file, which replaces one that is there. -/
def write (files : FileSystem) (path : String) (content : Bytes) : DiskResult FileSystem := do
  let location ← files.locate path
  match files.find? location with
  | some .directory => .error .isDirectory
  | some (.file _) =>
    if wantsDirectory path then .error .notDirectory else .ok (files.put location (.file content))
  | none =>
    if wantsDirectory path then .error .isDirectory
    else
      match files.find? (parent location) with
      | some .directory => .ok (files.put location (.file content))
      | some (.file _) => .error .notDirectory
      | none => .error .notFound

/-- Makes one directory. -/
def makeDirectory (files : FileSystem) (path : String) : DiskResult FileSystem := do
  let location ← files.locate path
  match files.find? location with
  | some _ => .error .alreadyExists
  | none => .ok (files.put location .directory)

/-- Makes one directory unless it is there. -/
def makeMissing (files : FileSystem) (path : String) : DiskResult Unit × FileSystem :=
  match files.makeDirectory path with
  | .ok files => (.ok (), files)
  | .error error => (if files.isDirectory path then .ok () else .error error, files)

/-- Makes the directory of a path and those on the way to it, of which the components are given last
first. What was made stays if a later step fails. -/
def makeFrom (top : String) (files : FileSystem) (path : String) :
    List String → DiskResult Unit × FileSystem
  | [] => files.makeMissing path
  | name :: before =>
    match files.makeMissing path with
    | (.error .notFound, files) =>
      match makeFrom top files (top ++ "/".intercalate (name :: before).reverse) before with
      | (.ok (), files) => files.makeMissing path
      | failed => failed
    | result => result

/-- Makes a directory and those on the way to it, as far as they are missing. -/
def makeDirectories (files : FileSystem) (path : String) : DiskResult Unit × FileSystem :=
  if path.isEmpty then (.ok (), files)
  else
    let top := if Path.isAbsolute path then "/" else ""
    makeFrom top files path ((Path.components path).filter (· != ".")).reverse.tail

/-- Moves a file to a path, where it replaces one that is there. -/
def rename (files : FileSystem) (source target : String) : DiskResult FileSystem := do
  match ← files.lookup source with
  | (_, .directory) => .error .isDirectory
  | (location, .file content) =>
    let goal ← files.locate target
    let files ← files.write target content
    -- A file that is moved to where it is stays.
    .ok (if goal = location then files else files.erase location)

/-- Removes a file. -/
def removeFile (files : FileSystem) (path : String) : DiskResult FileSystem := do
  match ← files.lookup path with
  | (location, .file _) => .ok (files.erase location)
  | (_, .directory) => .error .isDirectory

/-- Removes a directory with all that is in it. The working directory and those around it lose what
is in them, but stay. -/
def removeTree (files : FileSystem) (path : String) : DiskResult Unit × FileSystem :=
  match files.lookup path with
  | .error error => (.error error, files)
  | .ok (_, .file _) => (.error .notDirectory, files)
  | .ok (location, .directory) =>
    let files := ⟨files.entries.filter fun entry => !location.isPrefixOf entry.1⟩
    if isFixed location then
      let stepsOut := (Path.components path).getLast? == some ".."
      (.error (if stepsOut then .directoryNotEmpty else .invalidArgument), files)
    else (.ok (), files)

end FileSystem

end TextVec
