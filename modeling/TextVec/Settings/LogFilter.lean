import TextVec.Number.Decimal
import TextVec.Text.Whitespace
import TextVec.Text.WordBreak

/-!
# Log filters

A log filter is a list of directives between commas. A directive has a target, a span with fields,
and a level, each of which may be missing: `target[span\x7bfield=value\x7d]=level`. This module only
says which filters are valid. The value of a field may be a regular expression; which texts are one
is left open.
-/

namespace TextVec

/-- What is known of regular expressions. -/
class Patterns where
  /-- Refuses what is no regular expression, and says why. -/
  check (pattern : String) : Except String Unit

namespace LogFilter

/-- Why a filter is not valid. -/
inductive FilterError where
  /-- Some part of the filter has no meaning. -/
  | directive
  /-- Something in the place of a level is none. -/
  | level
  /-- The value of a span field is refused as a pattern. -/
  | field (why : String)
  /-- A part of a directive would begin or end inside a character. The program breaks off there. -/
  | insideCharacter
  deriving DecidableEq, Repr

/-- The text of a filter error. -/
def FilterError.message : FilterError → String
  | .directive => "invalid filter directive"
  | .level =>
    "error parsing level filter: expected one of \"off\", \"error\", \"warn\", \"info\", " ++
      "\"debug\", \"trace\", or a number 0-5"
  | .field why => "invalid field filter: " ++ why
  | .insideCharacter => "byte index is not a char boundary"

/-! ## Places -/

/-- The characters after the first `n` bytes, unless one of them is cut. -/
def after? : (n : Nat) → List Char → Option (List Char)
  | 0, text => some text
  | _, [] => none
  | n, c :: rest => if c.utf8Size ≤ n then after? (n - c.utf8Size) rest else none

/-- The characters that the first `n` bytes are, unless one of them is cut. -/
def before? : (n : Nat) → List Char → Option (List Char)
  | 0, _ => some []
  | _, [] => none
  | n, c :: rest =>
    if c.utf8Size ≤ n then (before? (n - c.utf8Size) rest).map (c :: ·) else none

/-- The part of a text between two places, which are numbers of bytes. -/
def slice (text : List Char) (first stop : Nat) : Except FilterError (List Char) :=
  match (after? first text).bind (before? (stop - first)) with
  | some part => .ok part
  | none => .error .insideCharacter

/-! ## Parts -/

/-- Whether a level is a number. -/
def isLevelNumber (text : List Char) : Bool :=
  let digits := if text.head? == some '+' then text.drop 1 else text
  !digits.isEmpty && digits.all Char.isDigit && natOfDigits digits ≤ 5

/-- Whether a text names a level; no text names the highest one. -/
def isLevel (text : List Char) : Bool :=
  let word := String.ofList (Text.asciiLower text)
  isLevelNumber text || ["", "off", "error", "warn", "info", "debug", "trace"].contains word

/-- Whether the value of a field is compared as it is: a truth value or a number. -/
def isPlainValue (value : List Char) : Bool :=
  value == "true".toList || value == "false".toList || (Numeral.read? value).isSome

/-- Checks a field: a name, and perhaps a value after the first equals sign and before the next. -/
def checkField [Patterns] (field : List Char) : Except FilterError Unit :=
  match field.dropWhile (· != '=') with
  | [] => .ok ()
  | _ :: rest =>
    let value := rest.takeWhile (· != '=')
    if isPlainValue value then .ok ()
    else (Patterns.check (String.ofList value)).mapError .field

/-! ## Directives -/

/-- The part of a directive that is being read, with the place where it began. -/
inductive Part where
  | start
  | levelOrTarget
  | span (first : Nat)
  | field (first : Nat)
  | afterFields
  | afterSpan
  | level (first : Nat)

/-- The part after a character `c` at a place of a directive. A part that has ended is cut out of
`text`. -/
def Part.next [Patterns] (text : List Char) (part : Part) (place : Nat) (c : Char) :
    Except FilterError Part := do
  match part with
  | .start =>
    if c = '[' then return .span (place + 1)
    else if c = '-' || c = ':' || c = '_' || Text.isAlphanumeric c then return .levelOrTarget
    else throw .directive
  | .levelOrTarget =>
    if c = '=' then
      let _ ← slice text 0 place
      return .level (place + 1)
    else if c = '[' then
      let _ ← slice text 0 place
      return .span (place + 1)
    else return .levelOrTarget
  | .span first =>
    if c = ']' then
      let _ ← slice text first place
      return .afterSpan
    else if c = '\x7b' then
      let _ ← slice text first place
      return .field (place + 1)
    else return .span first
  | .field first =>
    if c = '\x7d' then
      let field ← slice text first place
      if field.isEmpty then throw .directive
      checkField field
      return .afterFields
    else return .field first
  | .afterFields => if c = ']' then return .afterSpan else throw .directive
  | .afterSpan => if c = '=' then return .level (place + 1) else throw .directive
  | .level first => return .level first

/-- The part in which a directive ends, from the given characters and place on. -/
def run [Patterns] (text : List Char) (part : Part) (place : Nat) :
    List Char → Except FilterError Part
  | [] => .ok part
  | c :: rest => do
    let part ← part.next text place c
    run text part (place + c.utf8Size) rest

/-- Checks a directive. White space around it is not part of it, but its parts are still looked for
as many bytes after the beginning of the text as they come after that of the directive. -/
def checkDirective [Patterns] (text : String) : Except FilterError Unit := do
  let text := text.toList
  match ← run text .start 0 (Text.trim text) with
  | .levelOrTarget | .afterSpan => return ()
  | .level first =>
    match after? first text with
    | some level => if isLevel level then return () else throw .level
    | none => throw .insideCharacter
  | _ => throw .directive

/-- Splits off the directive that ends at the next comma: `part` holds its characters so far, last
first. -/
def directivesFrom (part : List Char) : List Char → List String
  | [] => if part.isEmpty then [] else [String.ofList part.reverse]
  | c :: rest =>
    if c = ',' then
      if part.isEmpty then directivesFrom [] rest
      else String.ofList part.reverse :: directivesFrom [] rest
    else directivesFrom (c :: part) rest

/-- Checks a filter. -/
def check [Patterns] (filter : String) : Except FilterError Unit :=
  (directivesFrom [] filter.toList).forM checkDirective

end LogFilter

end TextVec
