import TextVec.CommandLine
import TextVec.Compression.Stored
import TextVec.Settings.Pattern

/-!
# The program

Takes from the disk the files that the arguments name, runs the command on them, and prints what it
answers. What happens is decided in `CommandLine`; this module only reads and prints.
-/

namespace TextVec.Program

/-- Adds what the disk holds at one path. A path that cannot be read stays absent. -/
def addPath (files : FileSystem) (path : String) : IO FileSystem := do
  match ← (IO.FS.readBinFile path).toBaseIO with
  | .ok content => return (files.write path content.toList).toOption.getD files
  | .error (.inappropriateType ..) => return (files.makeDirectory path).toOption.getD files
  | .error _ => return files

/-- Adds what the disk holds at a path and on the way to it. -/
def addFile (files : FileSystem) (path : String) : IO FileSystem :=
  let names := Path.components path
  let top := if Path.isAbsolute path then "/" else ""
  (List.range names.length).foldlM
    (fun files n => addPath files (top ++ "/".intercalate (names.take (n + 1)))) files

/-- All that a stream still holds. -/
partial def readAll (stream : IO.FS.Stream) (before : ByteArray) : IO ByteArray := do
  let chunk ← stream.read 65536
  if chunk.isEmpty then return before else readAll stream (before ++ chunk)

/-- What the process finds in its environment. -/
def readEnvironment : IO Environment := do
  return ⟨← IO.getEnv "VECPIPE_CACHE_DIR", ← IO.getEnv "VECPIPE_VERBOSE"⟩

open Compression Pattern in
/-- The files that a run on the arguments can look at. -/
def readFiles (environment : Environment) (arguments : List String) : IO FileSystem := do
  let files ← (arguments.take 2).foldlM addFile .empty
  match CommandLine.loadFrom files environment arguments with
  | .ok encoder => addFile files encoder.config.modelPath
  | .error _ => return files

end TextVec.Program

open TextVec TextVec.Compression TextVec.Pattern in
/-- Runs the command on the arguments of the process. -/
def main (arguments : List String) : IO UInt32 := do
  let environment ← Program.readEnvironment
  let files ← Program.readFiles environment arguments
  let input ←
    if (CommandLine.loadFrom files environment arguments).isOk then
      Program.readAll (← IO.getStdin) .empty
    else pure .empty
  let run := CommandLine.run files environment arguments input.toList
  (← IO.getStdout).putStr run.output
  match run.failure with
  | none => return 0
  | some failure =>
    let errors ← IO.getStderr
    failure.lines.forM errors.putStrLn
    return UInt32.ofNat run.code
