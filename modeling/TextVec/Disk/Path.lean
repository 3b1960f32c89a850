import TextVec.Text.Utf8

/-!
# Paths

A path is a text whose components are between slashes. Empty components do not count.
-/

namespace TextVec.Path

/-- Whether a path starts at the top of the file system. -/
def isAbsolute (path : String) : Bool := path.toList.head? == some '/'

/-- Splits off the component that ends at the next slash: `part` holds its characters so far, last
first. -/
def componentsFrom (part : List Char) : List Char → List String
  | [] => if part.isEmpty then [] else [String.ofList part.reverse]
  | c :: rest =>
    if c = '/' then
      if part.isEmpty then componentsFrom [] rest
      else String.ofList part.reverse :: componentsFrom [] rest
    else componentsFrom (c :: part) rest

/-- The components of a path, in order. -/
def components (path : String) : List String := componentsFrom [] path.toList

/-- A path inside a directory; an absolute path stays as it is. -/
def join (directory path : String) : String :=
  if isAbsolute path || directory.isEmpty then path
  else if directory.toList.getLast? == some '/' then directory ++ path
  else directory ++ "/" ++ path

/-- The last component of a path, unless it only leads to another directory. -/
def fileName? (path : String) : Option String :=
  ((components path).filter (· != ".")).getLast?.filter (· != "..")

/-- What a file name has after its last point, which must not be its first character. -/
def extension? (path : String) : Option String := do
  let name ← fileName? path
  let reversed := name.toList.reverse
  let after := reversed.takeWhile (· != '.')
  let before := (reversed.drop after.length).drop 1
  if before.isEmpty then none else some (String.ofList after.reverse)

end TextVec.Path
