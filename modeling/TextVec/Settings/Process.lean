import TextVec.Component.Handles
import TextVec.Settings.LogFilter
import TextVec.Text.Quoted
import TextVec.Yaml.Text

/-!
# Process settings

The settings of the process that runs the pipeline: how it logs, and where the handles of components
point. The environment counts more than the file.
-/

namespace TextVec

/-- The settings of a process. -/
structure ProcessSettings where
  /-- The layout of the file. -/
  version : String := "1.0"
  /-- A filter of what is logged. -/
  logLevel : String := "info"
  /-- Whether it is logged as JSON. -/
  jsonLogs : Bool := false
  /-- Where caches should be, which counts more than the environment. -/
  cacheDirectory : Option String := none
  /-- Whether batches are reported, which counts more as well. -/
  verbose : Option Bool := none
  deriving DecidableEq, Repr, Inhabited

/-- Why settings cannot be used. -/
inductive SettingsError where
  | file (error : DiskError)
  | malformed
  | emptyLogLevel
  | badLogLevel (filter : String) (error : LogFilter.FilterError)
  | emptyCacheDirectory
  | unsupportedVersion (version : String)
  deriving DecidableEq, Repr

/-- The text of why settings cannot be used. -/
def SettingsError.message : SettingsError → String
  | .file error => "failed to read config file: " ++ error.message
  | .malformed => "failed to parse YAML: malformed settings"
  | .emptyLogLevel => "validation error: log_level must not be empty"
  | .badLogLevel filter error =>
    "validation error: log_level " ++ Text.quoted filter ++ ": " ++ error.message
  | .emptyCacheDirectory => "validation error: cache_dir must not be empty"
  | .unsupportedVersion version => "unsupported config version: " ++ version

namespace ProcessSettings

/-- Checks the version, then the log filter, then the cache directory. -/
def validate [Patterns] (settings : ProcessSettings) : Except SettingsError Unit :=
  if settings.version != "1.0" && settings.version != "1" then
    .error (.unsupportedVersion settings.version)
  else if (Text.trim settings.logLevel.toList).isEmpty then .error .emptyLogLevel
  else
    match LogFilter.check settings.logLevel with
    | .error error => .error (.badLogLevel settings.logLevel error)
    | .ok () =>
      if settings.cacheDirectory == some "" then .error .emptyCacheDirectory else .ok ()

/-- The fields read so far. -/
structure Draft where
  version : Option String := none
  logLevel : Option String := none
  jsonLogs : Option Bool := none
  cacheDirectory : Option (Option String) := none
  verbose : Option (Option Bool) := none

/-- The value of a field that must not have one yet. -/
def onlyOnce (old : Option α) (value : Option α) : Option (Option α) :=
  if old.isSome then none else value.map some

/-- Reads a field; fields of other names are ignored. -/
def Draft.read (anchored : Yaml.Anchored) (draft : Draft) (field : String) (node : Yaml.Node) :
    Option Draft :=
  let text := Yaml.Node.text? anchored
  let bool := Yaml.Node.bool? anchored
  if field == "version" then do
    return { draft with version := ← onlyOnce draft.version (text node) }
  else if field == "log_level" then do
    return { draft with logLevel := ← onlyOnce draft.logLevel (text node) }
  else if field == "json_logs" then do
    return { draft with jsonLogs := ← onlyOnce draft.jsonLogs (bool node) }
  else if field == "cache_dir" then do
    let directory := node.option? anchored text
    return { draft with cacheDirectory := ← onlyOnce draft.cacheDirectory directory }
  else if field == "verbose" then do
    return { draft with verbose := ← onlyOnce draft.verbose (node.option? anchored bool) }
  else return draft

/-- The settings of the fields read; each of them may be missing. -/
def Draft.finish (draft : Draft) : ProcessSettings where
  version := draft.version.getD "1.0"
  logLevel := draft.logLevel.getD "info"
  jsonLogs := draft.jsonLogs.getD false
  cacheDirectory := draft.cacheDirectory.getD none
  verbose := draft.verbose.getD none

/-- The settings in a YAML text. -/
def ofText [Patterns] (text : String) : Except SettingsError ProcessSettings := do
  match Yaml.readFields? Draft.read {} text with
  | none => .error .malformed
  | some draft =>
    let settings := draft.finish
    settings.validate
    return settings

/-- The settings in a file. -/
def ofFile [Patterns] (files : FileSystem) (path : String) : Except SettingsError ProcessSettings :=
  match files.readText path with
  | .ok text => ofText text
  | .error error => .error (.file error)

/-- The settings for handles, over which the environment counts. -/
def handleSettings (settings : ProcessSettings) (environment : Environment) : HandleSettings :=
  let standard : HandleSettings := {}
  HandleSettings.override
    ⟨settings.cacheDirectory.getD standard.cacheRoot, settings.verbose.getD standard.verbose⟩
    environment

end ProcessSettings

end TextVec
