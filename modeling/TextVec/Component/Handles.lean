import TextVec.Disk.Cache
import TextVec.Text.Whitespace

/-!
# Handles

What a component is given by the process it runs in, and never stores: a disk cache of its own, and
whether it reports every batch.
-/

namespace TextVec

/-- The two variables of the environment that count. -/
structure Environment where
  /-- Where caches should be. -/
  cacheDirectory : Option String := none
  /-- Whether batches should be reported, as a text. -/
  verbose : Option String := none
  deriving Repr, Inhabited

/-- Where the caches of all components are, and whether components report every batch. -/
structure HandleSettings where
  /-- The directory with the caches of all kinds in it. -/
  cacheRoot : String := ".vecpipe_cache"
  /-- Whether batches are reported. -/
  verbose : Bool := false
  deriving DecidableEq, Repr, Inhabited

namespace HandleSettings

/-- Whether a variable says yes. -/
def isYes (text : String) : Bool :=
  let word := String.ofList (Text.asciiLower (Text.trim text.toList))
  ["1", "true", "yes", "on"].contains word

/-- Lets the environment override settings; an empty directory does not count. -/
def override (settings : HandleSettings) (environment : Environment) : HandleSettings where
  cacheRoot :=
    match environment.cacheDirectory with
    | some directory => if directory.isEmpty then settings.cacheRoot else directory
    | none => settings.cacheRoot
  verbose :=
    match environment.verbose with
    | some text => isYes text
    | none => settings.verbose

/-- The settings of an environment. -/
def ofEnvironment (environment : Environment) : HandleSettings :=
  override {} environment

end HandleSettings

/-- The handles of one component. -/
structure Handles where
  /-- The cache of the kind. -/
  cache : DiskCache
  /-- Whether batches are reported. -/
  verbose : Bool
  deriving DecidableEq, Repr

/-- The handles of a component of the given kind. -/
def Handles.attach (kind : String) (settings : HandleSettings) : Handles :=
  ⟨⟨Path.join settings.cacheRoot kind⟩, settings.verbose⟩

end TextVec
