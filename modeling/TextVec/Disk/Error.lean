/-!
# File errors

What can go wrong with a file, and how a message says so.
-/

namespace TextVec

/-- Why an operation on files failed. -/
inductive DiskError where
  | notFound
  | alreadyExists
  | notDirectory
  | isDirectory
  | invalidArgument
  | nameTooLong
  | directoryNotEmpty
  /-- The path has a character that no path may have. -/
  | invalidName
  /-- The content should have been a text. -/
  | notText
  /-- A component could not be closed. -/
  | closeFailed
  deriving DecidableEq, Repr

/-- The result of an operation on files. -/
abbrev DiskResult (α : Type) := Except DiskError α

/-- The text of a file error. -/
def DiskError.message : DiskError → String
  | .notFound => "No such file or directory (os error 2)"
  | .alreadyExists => "File exists (os error 17)"
  | .notDirectory => "Not a directory (os error 20)"
  | .isDirectory => "Is a directory (os error 21)"
  | .invalidArgument => "Invalid argument (os error 22)"
  | .nameTooLong => "File name too long (os error 36)"
  | .directoryNotEmpty => "Directory not empty (os error 39)"
  | .invalidName => "file name contained an unexpected NUL byte"
  | .notText => "stream did not contain valid UTF-8"
  | .closeFailed => "close failed"

end TextVec
