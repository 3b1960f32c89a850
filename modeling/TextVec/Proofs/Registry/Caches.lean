import TextVec.Proofs.Disk.FailedPut
import TextVec.Proofs.Registry.Given

/-!
# Caches are maps

All components of a kind that were given the same settings share one cache, and the caches of the
kinds lie beside each other under one root. Main statement: from files in which nothing is where the
caches will be, each of them is a map that stays from one operation to the next and that no other
touches.
-/

namespace TextVec

open FileSystem TextVec.Path

/-! ## What caches are used for -/

/-- What was done to the cache of a kind, apart from looking something up. -/
inductive CacheUse where
  /-- Something was put under a key. -/
  | put (kind : Kind) (key : String) (bytes : Bytes)
  /-- What was under a key was removed, if there was anything. -/
  | remove (kind : Kind) (key : String)

/-- What was put last under a key and was not removed after that; the past begins with what was done
last. -/
def latest (kind : Kind) (key : String) : List CacheUse → Option Bytes
  | [] => none
  | .put kind' key' bytes :: past =>
    if kind' = kind ∧ key' = key then some bytes else latest kind key past
  | .remove kind' key' :: past =>
    if kind' = kind ∧ key' = key then none else latest kind key past

namespace HandleSettings

variable (settings : HandleSettings)

/-- The locations that caches depend on: those on the way to their directories, and all that is
directly in one of these. -/
def Concerns (location : Location) : Prop :=
  ∃ kind : Kind, location ∈ (settings.cacheOf kind).way ∨
    ∃ name, location = (settings.cacheOf kind).place ++ [name]

/-- A run of operations on the caches of components that were given the same settings, for some
keys. Looking something up changes nothing, so it needs no step here. -/
inductive Session [Compressor] (keys : List String)
    (start : FileSystem) : List CacheUse → FileSystem → Prop where
  /-- Nothing was done yet. -/
  | start : Session keys start [] start
  /-- A component puts something under a key; another one of its kind may be next. -/
  | put {past : List CacheUse} {files : FileSystem} (before : Session keys start past files)
      {component : AnyComponent} (given : component.Given settings) {key : String}
      (mem : key ∈ keys) (bytes : Bytes) :
      Session keys start (.put component.kind key bytes :: past)
        (component.cache.put files key bytes).2
  /-- A component removes what is under a key. -/
  | remove {past : List CacheUse} {files : FileSystem} (before : Session keys start past files)
      {component : AnyComponent} (given : component.Given settings) {key : String}
      (mem : key ∈ keys) :
      Session keys start (.remove component.kind key :: past)
        (component.cache.remove files key).2
  /-- Elsewhere anything may happen at any time. -/
  | elsewhere {past : List CacheUse} {files later : FileSystem}
      (before : Session keys start past files)
      (untouched : ∀ location, settings.Concerns location →
        later.find? location = files.find? location) :
      Session keys start past later

/-- Files from which the caches can be used for some keys. -/
structure Usable (keys : List String) (files : FileSystem) : Prop where
  /-- What is in a directory is there only if the directory is. -/
  tree : files.IsTree
  /-- The directory of the root can be made. -/
  creatable : (files.makeDirectories settings.cacheRoot).1 = .ok ()
  /-- But the caches have none yet. -/
  absent : ∀ kind, files.find? (settings.cacheOf kind).place = none
  /-- The path of a draft is the longest one that a cache uses. -/
  room : ∀ kind key, ((settings.cacheOf kind).draftPath key).utf8ByteSize < 4096
  /-- The way to the root may lead down and up again, but not through what a cache will put
  there. -/
  apart : ∀ place ∈ way (startOf settings.cacheRoot) (components settings.cacheRoot),
    ∀ kind, ∀ key ∈ keys, place ≠ (settings.cacheOf kind).entryPlace key ∧
      place ≠ (settings.cacheOf kind).draftPlace key
  /-- Digests tell the keys apart. -/
  distinct : ∀ key ∈ keys, ∀ other ∈ keys, Digest.ofText key = Digest.ofText other → key = other

variable {settings}

/-! ## The directories of the kinds -/

theorem isFileName_kind (kind : Kind) : IsFileName kind.name := by
  have names : ∀ name ∈ ["Centroid", "Splat", "Word2VecEncoder"], IsFileName name := by
    intro name h
    simp only [List.mem_cons, List.not_mem_nil, or_false] at h
    rcases h with rfl | rfl | rfl
    · exact ⟨⟨by decide, by decide, by decide⟩, by decide, by decide, by decide⟩
    · exact ⟨⟨by decide, by decide, by decide⟩, by decide, by decide, by decide⟩
    · exact ⟨⟨by decide, by decide, by decide⟩, by decide, by decide, by decide⟩
  cases kind with
  | centroid => exact names "Centroid" (by decide)
  | splat => exact names "Splat" (by decide)
  | encoder => exact names "Word2VecEncoder" (by decide)

theorem components_cacheOf (kind : Kind) :
    components (settings.cacheOf kind).root = components settings.cacheRoot ++ [kind.name] :=
  components_join (isFileName_kind kind).toIsName

theorem place_cacheOf (kind : Kind) :
    (settings.cacheOf kind).place = placeOf settings.cacheRoot ++ [kind.name] :=
  placeOf_join (isFileName_kind kind)

/-- On the way to a cache is what is on the way to the root, and then its own place. -/
theorem mem_way_cacheOf {kind : Kind} {place : Location} :
    place ∈ (settings.cacheOf kind).way ↔
      place ∈ way (startOf settings.cacheRoot) (components settings.cacheRoot) ∨
        place = placeOf settings.cacheRoot ++ [kind.name] :=
  mem_way_join (isFileName_kind kind)

/-- What is in the directory of one kind is in that of no other. -/
theorem place_concat_inj {kind kind' : Kind} {name name' : String} :
    (settings.cacheOf kind).place ++ [name] = (settings.cacheOf kind').place ++ [name'] ↔
      kind = kind' ∧ name = name' := by
  rw [concat_inj, place_cacheOf, place_cacheOf, concat_inj]
  constructor
  · rintro ⟨⟨-, kinds⟩, names⟩
    exact ⟨Kind.eq_of_name_eq kinds, names⟩
  · rintro ⟨rfl, names⟩
    exact ⟨⟨rfl, rfl⟩, names⟩

namespace Usable

variable {keys : List String} {start : FileSystem}

/-- Paths of entries are such that the file system takes them. -/
theorem roomy (usable : settings.Usable keys start) (kind : Kind) :
    (settings.cacheOf kind).Roomy where
  noNul := noNul_join (clear_of_makeDirectories usable.creatable).1 (isFileName_kind kind).toIsName
  short := usable.room kind

/-- No entry is on the way to the directory of a cache, and no draft. -/
theorem off_way (usable : settings.Usable keys start) {key : String} (mem : key ∈ keys)
    (kind kind' : Kind) :
    (settings.cacheOf kind).entryPlace key ∉ (settings.cacheOf kind').way ∧
      (settings.cacheOf kind).draftPlace key ∉ (settings.cacheOf kind').way := by
  -- The directories of the caches are above their entries, and the root keeps apart from these.
  have deeper (name : String) :
      (settings.cacheOf kind).place ++ [name] ≠ placeOf settings.cacheRoot ++ [kind'.name] := by
    intro same
    have lengths := congrArg List.length same
    rw [place_cacheOf] at lengths
    simp at lengths
  constructor
  · intro onWay
    rcases mem_way_cacheOf.mp onWay with above | last
    · exact (usable.apart _ above kind key mem).1 rfl
    · exact deeper _ last
  · intro onWay
    rcases mem_way_cacheOf.mp onWay with above | last
    · exact (usable.apart _ above kind key mem).2 rfl
    · exact deeper _ last

end Usable

/-! ## Files that hold what was put -/

/-- Files that hold what was put: every entry is what was put last, and no draft is left. -/
structure Reflects (settings : HandleSettings) (keys : List String) (past : List CacheUse)
    (files : FileSystem) : Prop where
  /-- No file is on the way to a cache, so that its directory can be made when it is needed. -/
  clear : ∀ kind, Clear files (startOf (settings.cacheOf kind).root)
    (components (settings.cacheOf kind).root)
  /-- Under each key is what was put last, as a file. -/
  entries : ∀ kind, ∀ key ∈ keys,
    files.find? ((settings.cacheOf kind).entryPlace key) = (latest kind key past).map .file
  /-- Drafts have been renamed. -/
  drafts : ∀ kind, ∀ key ∈ keys, files.find? ((settings.cacheOf kind).draftPlace key) = none
  /-- An entry could not be reached if some of the way were still missing. -/
  made : ∀ kind, ∀ key ∈ keys, latest kind key past ≠ none →
    ∀ place ∈ (settings.cacheOf kind).way, files.find? place = some .directory

variable {keys : List String} {past : List CacheUse} {start files later : FileSystem}

/-- A cache shows what was put. -/
theorem Reflects.shows (reflects : settings.Reflects keys past files) (kind : Kind) {key : String}
    (mem : key ∈ keys) :
    (settings.cacheOf kind).Shows files key (latest kind key past) where
  clear := reflects.clear kind
  entry := reflects.entries kind key mem
  made := reflects.made kind key mem

/-- In the beginning there is nothing. -/
theorem Usable.reflects (usable : settings.Usable keys start) :
    settings.Reflects keys [] start where
  clear kind := by
    have root := (clear_of_makeDirectories usable.creatable).2
    constructor
    · intro place h content
      rcases mem_way_cacheOf.mp h with above | last
      · exact root.noFile place above content
      · rw [last, ← place_cacheOf, usable.absent kind]
        nofun
    · exact short_join (isFileName_kind kind) root.short
  entries kind key _ := usable.tree.missing _ (usable.absent kind)
  drafts kind key _ := usable.tree.missing _ (usable.absent kind)
  made _ _ _ some := absurd rfl some

/-- Entries of different keys, or of different kinds, are different files. -/
theorem Usable.entryPlace_inj (usable : settings.Usable keys start) {kind kind' : Kind}
    {key key' : String} (mem : key ∈ keys) (mem' : key' ∈ keys)
    (same : (settings.cacheOf kind').entryPlace key' = (settings.cacheOf kind).entryPlace key) :
    kind = kind' ∧ key = key' := by
  obtain ⟨kinds, digests⟩ := place_concat_inj.mp same
  exact ⟨kinds.symm, usable.distinct key mem key' mem' digests.symm⟩

/-- What using a cache changes: the entry of one key, and directories on the way to it. -/
structure Changed (settings : HandleSettings) (kind : Kind) (key : String) (value : Option Bytes)
    (files later : FileSystem) : Prop where
  /-- The entry of the key is what was put, or it is gone. -/
  entry : later.find? ((settings.cacheOf kind).entryPlace key) = value.map .file
  /-- The draft is gone in any case. -/
  draft : later.find? ((settings.cacheOf kind).draftPlace key) = none
  /-- After something was put there are directories on the way. -/
  made : value ≠ none → ∀ place ∈ (settings.cacheOf kind).way, later.find? place = some .directory
  /-- On the way to other caches there may be directories where nothing was. -/
  onWay : ∀ kind', ∀ place ∈ (settings.cacheOf kind').way,
    later.find? place = some .directory ∨ later.find? place = files.find? place
  /-- Everything else is as it was. -/
  others : ∀ place, place ∉ (settings.cacheOf kind).way →
    place ≠ (settings.cacheOf kind).entryPlace key → place ≠ (settings.cacheOf kind).draftPlace key →
    later.find? place = files.find? place

/-- Files that hold what was put still do after such a change, if it is what was done last. -/
theorem Reflects.change (usable : settings.Usable keys start)
    (reflects : settings.Reflects keys past files) {kind : Kind} {key : String} (mem : key ∈ keys)
    {value : Option Bytes} (changed : settings.Changed kind key value files later)
    {now : List CacheUse}
    (last : ∀ kind' key', latest kind' key' now =
      if kind = kind' ∧ key = key' then value else latest kind' key' past) :
    settings.Reflects keys now later where
  clear kind' := by
    refine ⟨fun place h content => ?_, (reflects.clear kind').short⟩
    rcases changed.onWay kind' place h with there | same
    · rw [there]
      nofun
    · rw [same]
      exact (reflects.clear kind').noFile place h content
  entries kind' key' mem' := by
    rw [last]
    by_cases same : kind = kind' ∧ key = key'
    · obtain ⟨rfl, rfl⟩ := same
      rw [if_pos ⟨rfl, rfl⟩]
      exact changed.entry
    · -- Another entry is none of the files that were changed, and is not on the way to them.
      rw [if_neg same, ← reflects.entries kind' key' mem']
      refine changed.others _ (usable.off_way mem' kind' kind).1 (fun equal => ?_) (fun equal => ?_)
      · exact same (usable.entryPlace_inj mem mem' equal)
      · exact DiskCache.draftPlace_ne_entryPlace _ _ key key' equal.symm
  drafts kind' key' mem' := by
    by_cases same :
        (settings.cacheOf kind').draftPlace key' = (settings.cacheOf kind).draftPlace key
    · rw [same]
      exact changed.draft
    · rw [← reflects.drafts kind' key' mem']
      exact changed.others _ (usable.off_way mem' kind' kind).2
        (DiskCache.draftPlace_ne_entryPlace _ _ key' key) same
  made kind' key' mem' some place h := by
    rw [last] at some
    by_cases same : kind = kind' ∧ key = key'
    · rw [if_pos same] at some
      obtain ⟨rfl, rfl⟩ := same
      exact changed.made some place h
    · rw [if_neg same] at some
      rcases changed.onWay kind' place h with there | unchanged
      · exact there
      · rw [unchanged]
        exact reflects.made kind' key' mem' some place h

/-- **Putting puts**: it succeeds, and the files hold what they held and the new entry. -/
theorem Reflects.put (usable : settings.Usable keys start)
    (reflects : settings.Reflects keys past files) (kind : Kind) {key : String} (mem : key ∈ keys)
    (bytes : Bytes) :
    ∃ after, (settings.cacheOf kind).put files key bytes = (.ok (), after) ∧
      settings.Reflects keys (.put kind key bytes :: past) after := by
  -- What is at the entry is a file that was put before, or nothing.
  have noDirectory : files.find? ((settings.cacheOf kind).entryPlace key) ≠ some .directory := by
    rw [reflects.entries kind key mem]
    cases latest kind key past with
    | none => nofun
    | some old => nofun
  have noDraft : files.find? ((settings.cacheOf kind).draftPlace key) ≠ some .directory := by
    rw [reflects.drafts kind key mem]
    nofun
  obtain ⟨after, result, entry, draft, directories, others⟩ :=
    DiskCache.put_of_clear (usable.roomy kind) (components_cacheOf kind) (isFileName_kind kind).noStay
      (reflects.clear kind) noDirectory noDraft (usable.off_way mem kind kind).1
      (usable.off_way mem kind kind).2 bytes
  have changed : settings.Changed kind key (some bytes) files after := by
    refine ⟨entry, draft, fun _ => directories, fun kind' place h => ?_, others⟩
    -- On the way to any cache there are directories now, or what was there before.
    by_cases new : place ∈ (settings.cacheOf kind).way
    · exact .inl (directories place new)
    · refine .inr (others place new ?_ ?_)
      · rintro rfl
        exact (usable.off_way mem kind kind').1 h
      · rintro rfl
        exact (usable.off_way mem kind kind').2 h
  exact ⟨after, result, reflects.change usable mem changed fun _ _ => rfl⟩

/-- **Removing removes**: it says whether there was an entry, and the files hold all others. -/
theorem Reflects.remove (usable : settings.Usable keys start)
    (reflects : settings.Reflects keys past files) (kind : Kind) {key : String}
    (mem : key ∈ keys) :
    ∃ after, (settings.cacheOf kind).remove files key = (.ok (latest kind key past).isSome, after) ∧
      settings.Reflects keys (.remove kind key :: past) after := by
  obtain ⟨after, result, entry, others⟩ :=
    DiskCache.remove_of_shows (usable.roomy kind) (reflects.shows kind mem)
  -- Only the entry was touched, so the ways are what they were.
  have changed : settings.Changed kind key none files after := by
    refine ⟨entry, ?_, fun some => absurd rfl some, fun kind' place h => .inr (others place ?_),
      fun place _ elsewhere _ => others place elsewhere⟩
    · rw [← reflects.drafts kind key mem]
      exact others _ (DiskCache.draftPlace_ne_entryPlace _ _ key key)
    · rintro rfl
      exact (usable.off_way mem kind kind').1 h
  exact ⟨after, result, reflects.change usable mem changed fun _ _ => rfl⟩

/-- What happens elsewhere is not seen. -/
theorem Reflects.elsewhere (reflects : settings.Reflects keys past files)
    (untouched : ∀ location, settings.Concerns location →
      later.find? location = files.find? location) :
    settings.Reflects keys past later where
  clear kind := by
    refine ⟨fun place h content => ?_, (reflects.clear kind).short⟩
    rw [untouched place ⟨kind, .inl h⟩]
    exact (reflects.clear kind).noFile place h content
  entries kind key mem := by
    rw [← reflects.entries kind key mem]
    exact untouched _ ⟨kind, .inr ⟨_, rfl⟩⟩
  drafts kind key mem := by
    rw [← reflects.drafts kind key mem]
    exact untouched _ ⟨kind, .inr ⟨_, rfl⟩⟩
  made kind key mem some place h := by
    rw [untouched place ⟨kind, .inl h⟩]
    exact reflects.made kind key mem some place h

/-- After every run, the files hold what was put. -/
theorem reflects_of_session [Compressor] (usable : settings.Usable keys start)
    (session : settings.Session keys start past files) :
    settings.Reflects keys past files := by
  -- By induction on the run; whichever component an operation is of, the cache is that of its kind.
  induction session with
  | start => exact usable.reflects
  | put before given mem bytes ih =>
    obtain ⟨after, result, reflects⟩ := ih.put usable _ mem bytes
    rw [AnyComponent.cache_of_given given, result]
    exact reflects
  | remove before given mem ih =>
    obtain ⟨after, result, reflects⟩ := ih.remove usable _ mem
    rw [AnyComponent.cache_of_given given, result]
    exact reflects
  | elsewhere before untouched ih => exact ih.elsewhere untouched

/-! ## Plain roots -/

/-- A root that is not too long leaves room for all entries. -/
theorem room_of_short (short : settings.cacheRoot.utf8ByteSize + 85 < 4096) (kind : Kind)
    (key : String) : ((settings.cacheOf kind).draftPath key).utf8ByteSize < 4096 := by
  have kindSize : kind.name.utf8ByteSize ≤ 15 := by
    cases kind with
    | centroid => decide
    | splat => decide
    | encoder => decide
  have root := utf8ByteSize_join_le settings.cacheRoot kind.name
  have draft := utf8ByteSize_join_le (settings.cacheOf kind).root (Digest.ofText key ++ ".tmp")
  have same : (settings.cacheOf kind).root = join settings.cacheRoot kind.name := rfl
  rw [DiskCache.utf8ByteSize_draft] at draft
  rw [← same] at root
  rw [DiskCache.draftPath_eq]
  omega

/-- From a root that is missing, to which no step leads out, and whose path leaves some room, the
caches can be used. -/
theorem Usable.of_noStepOut (tree : start.IsTree)
    (creatable : (start.makeDirectories settings.cacheRoot).1 = .ok ())
    (absent : start.find? (placeOf settings.cacheRoot) = none)
    (noStepOut : ".." ∉ components settings.cacheRoot)
    (room : settings.cacheRoot.utf8ByteSize + 85 < 4096)
    (distinct : ∀ key ∈ keys, ∀ other ∈ keys,
      Digest.ofText key = Digest.ofText other → key = other) :
    settings.Usable keys start where
  tree := tree
  creatable := creatable
  absent kind := by
    rw [place_cacheOf]
    exact tree.missing kind.name absent
  room := room_of_short room
  apart place h kind key _ := by
    -- What is on the way to the root is not deeper than the root, and entries are.
    have high : place.length ≤ (placeOf settings.cacheRoot).length :=
      length_le_resolve noStepOut place h
    have deeper (name : String) : place ≠ (settings.cacheOf kind).place ++ [name] := by
      intro same
      have lengths := congrArg List.length same
      rw [place_cacheOf] at lengths
      simp only [List.length_append, List.length_singleton] at lengths
      omega
    exact ⟨deeper _, deeper _⟩
  distinct := distinct

/-- Under a root whose path is too long, nothing can be looked up. -/
theorem get_of_long_root (long : 4027 ≤ settings.cacheRoot.utf8ByteSize) (kind : Kind)
    (key : String) : ∃ error, ∀ files, (settings.cacheOf kind).get files key = .error error := by
  apply DiskCache.get_of_long
  have kindSize : 5 ≤ kind.name.utf8ByteSize := by
    cases kind with
    | centroid => decide
    | splat => decide
    | encoder => decide
  have above := le_utf8ByteSize_join settings.cacheRoot (isFileName_kind kind).toIsName
  have entry := le_utf8ByteSize_join (join settings.cacheRoot kind.name) (Digest.isName_ofText key)
  rw [Digest.utf8ByteSize_ofText] at entry
  have tooLong : 4096 ≤ ((settings.cacheOf kind).entryPath key).utf8ByteSize := by
    refine Nat.le_trans ?_ entry
    omega
  exact Nat.not_lt.mpr tooLong

/-- A root can be made although its path is too long, from names that are not. -/
theorem makeDirectories_of_long_names {name : String} (hName : IsFileName name)
    (size : name.utf8ByteSize = 251)
    (root : settings.cacheRoot = "/".intercalate (List.replicate 15 name ++ [name])) :
    (FileSystem.empty.makeDirectories settings.cacheRoot).1 = .ok () ∧
      FileSystem.empty.find? (placeOf settings.cacheRoot) = none ∧
      4027 ≤ settings.cacheRoot.utf8ByteSize := by
  have all : ∀ other ∈ List.replicate 15 name ++ [name], other = name := by
    intro other h
    rcases List.mem_append.mp h with h | h
    · exact (List.mem_replicate.mp h).2
    · exact List.mem_singleton.mp h
  have parts : components settings.cacheRoot = List.replicate 15 name ++ [name] := by
    rw [root]
    exact components_intercalate fun other h => all other h ▸ hName.toIsName
  -- Each name counts with the slash after it.
  have weighs : weight (List.replicate 15 name ++ [name]) = 4032 := by
    simp only [List.replicate, List.cons_append, List.nil_append, weight, size]
  have long : settings.cacheRoot.utf8ByteSize + 1 = 4032 := by
    rw [root]
    exact (utf8ByteSize_intercalate (by simp)).trans weighs
  refine ⟨?_, ?_, by omega⟩
  · rw [root]
    refine makeDirectories_empty (fun other h => ?_) hName.noStay (by omega)
    rw [all other h]
    exact ⟨hName.toIsName, hName.short⟩
  · unfold placeOf
    rw [parts, resolve_append]
    show FileSystem.empty.find? (step _ name) = none
    rw [step_fileName hName, find?, isFixed_concat hName]
    rfl

/-- The names of a root that lead to the place of an entry, and back to the directory of the
root. -/
def throughEntry (name : String) : List String := ["c", "Centroid", name, ".."] ++ [".."]

theorem isName_throughEntry {name : String} (h : IsFileName name) :
    ∀ other ∈ throughEntry name, IsName other ∧ other.utf8ByteSize ≤ 255 := by
  intro other mem
  simp only [throughEntry, List.cons_append, List.nil_append, List.mem_cons, List.not_mem_nil,
    or_false] at mem
  rcases mem with rfl | rfl | rfl | rfl | rfl
  · exact ⟨⟨by decide, by decide, by decide⟩, by decide⟩
  · exact ⟨⟨by decide, by decide, by decide⟩, by decide⟩
  · exact ⟨h.toIsName, h.short⟩
  · exact ⟨⟨by decide, by decide, by decide⟩, by decide⟩
  · exact ⟨⟨by decide, by decide, by decide⟩, by decide⟩

/-- The way down to the entry and back. -/
theorem way_throughEntry {name : String} (h : IsFileName name) :
    way [] (throughEntry name) =
      [[], ["c"], ["c", "Centroid"], ["c", "Centroid", name], ["c", "Centroid"], ["c"]] := by
  have down : step ["c", "Centroid"] name = ["c", "Centroid", name] := step_fileName h _
  have back : step ["c", "Centroid", name] ".." = ["c", "Centroid"] :=
    parent_concat h ["c", "Centroid"]
  have first : step [] "c" = ["c"] := rfl
  have second : step ["c"] "Centroid" = ["c", "Centroid"] := rfl
  have last : step ["c", "Centroid"] ".." = ["c"] := rfl
  simp only [throughEntry, List.cons_append, List.nil_append, way, first, second, down, back, last]

theorem resolve_throughEntry {name : String} (h : IsFileName name) :
    resolve [] (throughEntry name) = ["c"] := by
  have down : step ["c", "Centroid"] name = ["c", "Centroid", name] := step_fileName h _
  have back : step ["c", "Centroid", name] ".." = ["c", "Centroid"] :=
    parent_concat h ["c", "Centroid"]
  show resolve (step (step (step ["c", "Centroid"] name) "..") "..") [] = ["c"]
  rw [down, back]
  rfl

section ThroughEntry

variable {key : String}
  (root : settings.cacheRoot = "/".intercalate (throughEntry (Digest.ofText key)))

include root

/-- The path is relative and has these names. -/
theorem components_of_throughEntry :
    startOf settings.cacheRoot = [] ∧
      components settings.cacheRoot = throughEntry (Digest.ofText key) := by
  have isName : ∀ name ∈ throughEntry (Digest.ofText key), IsName name :=
    fun name h => (isName_throughEntry (DiskCache.isFileName_entry key) name h).1
  have relative : isAbsolute (top "" ++ "/".intercalate (throughEntry (Digest.ofText key))) = false :=
    isAbsolute_top (by simp [throughEntry]) isName
  rw [show top "" = "" from rfl, String.empty_append] at relative
  constructor
  · unfold startOf
    rw [root, relative]
    rfl
  · rw [root]
    exact components_intercalate isName

/-- So the caches are right under that root. -/
theorem placeOf_of_throughEntry : placeOf settings.cacheRoot = ["c"] := by
  obtain ⟨start, parts⟩ := components_of_throughEntry root
  unfold placeOf
  rw [start, parts]
  exact resolve_throughEntry (DiskCache.isFileName_entry key)

/-- Such a root can be made, in files where nothing is. -/
theorem makeDirectories_of_throughEntry :
    settings.cacheRoot.utf8ByteSize = 81 ∧
      (FileSystem.empty.makeDirectories settings.cacheRoot).1 = .ok () := by
  have one : "c".utf8ByteSize = 1 := rfl
  have eight : "Centroid".utf8ByteSize = 8 := rfl
  have two : "..".utf8ByteSize = 2 := rfl
  have weighs : weight (throughEntry (Digest.ofText key)) = 82 := by
    simp only [throughEntry, List.cons_append, List.nil_append, weight, Digest.utf8ByteSize_ofText,
      one, eight, two]
  have someName : throughEntry (Digest.ofText key) ≠ [] := by simp [throughEntry]
  have size := utf8ByteSize_intercalate someName
  constructor
  · rw [root]
    omega
  · rw [root]
    exact makeDirectories_empty (isName_throughEntry (DiskCache.isFileName_entry key)) (by decide)
      (weighs ▸ by decide)

/-- Of all that is in the directory of the cache, only that entry is on the way. -/
theorem mem_way_of_throughEntry {name : String} :
    (settings.cacheOf .centroid).place ++ [name] ∈ (settings.cacheOf .centroid).way ↔
      name = Digest.ofText key := by
  obtain ⟨start, parts⟩ := components_of_throughEntry root
  have kind : Kind.centroid.name = "Centroid" := rfl
  rw [mem_way_cacheOf, place_cacheOf, start, parts, placeOf_of_throughEntry root,
    way_throughEntry (DiskCache.isFileName_entry key)]
  simp [kind]

/-- The path of a root can lead through the place of an entry, so that putting another makes a
directory there. -/
theorem get_through_entry {other : String} (different : Digest.ofText other ≠ Digest.ofText key)
    (bytes : Bytes) :
    ∃ after, (settings.cacheOf .centroid).put .empty other bytes = (.ok (), after) ∧
      (settings.cacheOf .centroid).get after key = .error .isDirectory := by
  obtain ⟨size, made⟩ := makeDirectories_of_throughEntry root
  obtain ⟨-, parts⟩ := components_of_throughEntry root
  have roomy : (settings.cacheOf .centroid).Roomy :=
    ⟨noNul_join (clear_of_makeDirectories made).1 (isFileName_kind .centroid).toIsName,
      room_of_short (by omega) .centroid⟩
  have short : ∀ name ∈ components (settings.cacheOf .centroid).root, name.utf8ByteSize ≤ 255 := by
    refine short_join (isFileName_kind .centroid) fun name mem => ?_
    rw [parts] at mem
    exact (isName_throughEntry (DiskCache.isFileName_entry key) name mem).2
  have tree : FileSystem.empty.IsTree := isTree_of_entries fun entry h => nomatch h
  have absent : FileSystem.empty.find? (settings.cacheOf .centroid).place = none := by
    rw [place_cacheOf, placeOf_of_throughEntry root]
    rfl
  have nothing (name : String) :
      FileSystem.empty.find? ((settings.cacheOf .centroid).place ++ [name]) ≠ some .directory := by
    rw [tree.missing name absent]
    nofun
  -- The place of the entry is one of the directories on the way, and neither of what is written.
  obtain ⟨after, result, -, -, directories, -⟩ :=
    DiskCache.put_of_clear roomy (components_cacheOf .centroid) (isFileName_kind .centroid).noStay
      (clear_empty short) (nothing _) (nothing _)
      (fun onWay => different ((mem_way_of_throughEntry root).mp onWay))
      (fun onWay => Digest.draft_ne_ofText other key ((mem_way_of_throughEntry root).mp onWay))
      bytes
  exact ⟨after, result, DiskCache.get_of_mem_way roomy short directories
    ((mem_way_of_throughEntry root).mpr rfl)⟩

end ThroughEntry

/-- The path of a root can step out of a missing directory onto a file, so that a put that fails
makes the directory and the file is reached. -/
theorem get_after_failed_put :
    let files : FileSystem := ⟨[(["f"], .file [])]⟩
    let cache := cacheOf ⟨"x/../f", false⟩ .centroid
    files.IsTree ∧ (cache.get files "k").toOption = some none ∧
      (cache.put files "k" []).1.isOk = false ∧
      (cache.get (cache.put files "k" []).2 "k").isOk = false := by
  intro files cache
  have path : cache.entryPath "k" =
      "x/../f/Centroid/8254c329a92850f6d539dd376f4816ee2764517da5e0235514af433164480d7a" := by
    decide +kernel
  refine ⟨isTree_of_entries (by decide +kernel), ?_⟩
  unfold DiskCache.get DiskCache.put
  rw [path]
  decide +kernel

theorem utf8ByteSize_replicate (n : Nat) :
    (String.ofList (List.replicate n 'a')).utf8ByteSize = n := by
  induction n with
  | zero => rfl
  | succ n ih =>
    rw [List.replicate_succ, utf8ByteSize_ofList_cons, ih]
    exact Nat.add_comm 1 n

/-- A text of some times one letter is a name that a file can have. -/
theorem isFileName_replicate {n : Nat} (pos : 0 < n) (short : n ≤ 255) :
    IsFileName (String.ofList (List.replicate n 'a')) := by
  have only {c : Char} (h : c ∈ (String.ofList (List.replicate n 'a')).toList) : c = 'a' := by
    rw [String.toList_ofList] at h
    exact (List.mem_replicate.mp h).2
  have first : 'a' ∈ (String.ofList (List.replicate n 'a')).toList := by
    rw [String.toList_ofList]
    exact List.mem_replicate.mpr ⟨Nat.pos_iff_ne_zero.mp pos, rfl⟩
  have other {name : String} (h : 'a' ∉ name.toList) :
      String.ofList (List.replicate n 'a') ≠ name := fun same => h (same ▸ first)
  exact ⟨⟨other (by decide), fun h => absurd (only h) (by decide),
    fun h => absurd (only h) (by decide)⟩, other (by decide), other (by decide),
    (utf8ByteSize_replicate n).symm ▸ short⟩

end HandleSettings

end TextVec
