import TextVec.Pipeline
import TextVec.Settings.Process

/-!
# The command line

The program takes the file of an encoder and perhaps one of settings, and encodes the lines of its
input. The settings are read before a third argument is refused. The encoder is used in a scope,
which is finished when all lines are encoded.
-/

namespace TextVec.CommandLine

/-- Why the program failed. -/
inductive CommandFailure where
  /-- There are no arguments, or too many. -/
  | usage
  /-- The file of settings is missing, or what is in it is none. -/
  | settings (path : String) (error : SettingsError)
  /-- The file of the component does not give an encoder. -/
  | loading (path : String) (failure : PipelineFailure)
  /-- Encoding stopped at some line. -/
  | encoding (failure : PipelineFailure)
  /-- Everything was written, but closing failed. -/
  | closing (failure : Failure)
  deriving Repr

/-- How the program is called. -/
def usage : String := "usage: vecpipe <component.yml | component.bin> [runtime.yml]"

/-- The texts of a failure of the pipeline: what happened, and what caused it. -/
def pipelineTexts (failure : PipelineFailure) : List String :=
  failure.message :: match failure with
    | .component (.disk error) | .input error => [error.message]
    | _ => []

/-- The texts of a failure: what happened, what caused it, what caused that, and so on. -/
def CommandFailure.texts : CommandFailure → List String
  | .usage => [CommandLine.usage]
  | .settings path error =>
    let cause := match error with
      | .file disk => [disk.message]
      | _ => []
    ["loading runtime config " ++ path, error.message] ++ cause
  | .loading path failure => ("loading component " ++ path) :: pipelineTexts failure
  | .encoding failure => pipelineTexts failure
  | .closing failure => pipelineTexts (.component failure)

/-- The lines of a text. -/
def linesOf (text : String) : List String := text.splitOn "\n"

/-- The lines of a cause: the first after `head`, the others indented as far. -/
def causeLines (head text : String) : List String :=
  match linesOf text with
  | [] => []
  | first :: rest =>
    let indentation := String.ofList (List.replicate head.length ' ')
    (head ++ first) :: rest.map (indentation ++ ·)

/-- The lines by which the program reports a failure. Several causes are numbered. -/
def CommandFailure.lines (failure : CommandFailure) : List String :=
  match failure.texts with
  | [] => []
  | first :: causes =>
    let shown := match causes with
      | [] => []
      | [cause] => causeLines "    " cause
      | causes =>
        causes.zipIdx.flatMap fun (cause, number) =>
          causeLines ("    " ++ toString number ++ ": ") cause
    linesOf ("Error: " ++ first) ++ if shown.isEmpty then [] else ["", "Caused by:"] ++ shown

/-- What the program does: its output, and how it ends. -/
structure Run where
  /-- What was written before it ended. -/
  output : String := ""
  /-- Why it failed, if it did. -/
  failure : Option CommandFailure := none

/-- The exit code of a run. -/
def Run.code (run : Run) : Nat := if run.failure.isSome then 1 else 0

/-- The component file and the settings that arguments name. -/
def readArguments [Patterns] (files : FileSystem) (arguments : List String) :
    Except CommandFailure (String × ProcessSettings) :=
  match arguments with
  | [] => .error .usage
  | [path] => .ok (path, {})
  | path :: settingsPath :: rest =>
    match ProcessSettings.ofFile files settingsPath with
    | .error error => .error (.settings settingsPath error)
    | .ok settings => if rest.isEmpty then .ok (path, settings) else .error .usage

/-- The encoder that arguments name. -/
def loadFrom [Patterns] [Compressor] (files : FileSystem) (environment : Environment)
    (arguments : List String) : Except CommandFailure Encoder := do
  let (path, settings) ← readArguments files arguments
  match (loadEncoder (.standard (settings.handleSettings environment)) files path).result with
  | .ok encoder => .ok encoder
  | .error failure => .error (.loading path failure)

/-- Runs the program. Its arguments, what it finds in the environment and the paths that it meets
are texts, and there is memory for all that it makes. -/
def run [Patterns] [Compressor] (files : FileSystem) (environment : Environment)
    (arguments : List String) (input : Bytes) : Run :=
  match loadFrom files environment arguments with
  | .error failure => { failure := some failure }
  | .ok encoder =>
    match encodeLines files encoder input with
    | (.error failure, done) => { output := done.output, failure := some (.encoding failure) }
    | (.ok _, done) =>
      match (Component.finish done.encoder).result with
      | .error failure => { output := done.output, failure := some (.closing failure) }
      | .ok () => { output := done.output }

end TextVec.CommandLine
