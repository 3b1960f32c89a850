import TextVec.Text.Utf8
import TextVec.Yaml.Scalar

/-!
# YAML tokens

The tokens of a YAML text. Indentation becomes tokens that open and close blocks, and a key that no
mark announces is found when the colon after it is met: its tokens are then put before what has been
read since it began.
-/

namespace TextVec.Yaml

/-- The written form of a scalar, as far as its meaning depends on it. -/
inductive ScalarStyle where
  | plain
  | quoted
  | literal
  | folded
  deriving DecidableEq, Repr

/-- A token. -/
inductive Token where
  | version (major minor : Nat)
  | handle (handle expansion : String)
  | documentStart
  | documentEnd
  | blockSequence
  | blockMapping
  | blockEnd
  | flowSequence
  | flowSequenceEnd
  | flowMapping
  | flowMappingEnd
  | entry
  | separator
  | key
  | value
  | alias (name : String)
  | anchor (name : String)
  | tag (handle suffix : String)
  | scalar (text : String) (style : ScalarStyle)
  deriving DecidableEq, Repr

/-- A place where a key may have begun. -/
structure PossibleKey where
  /-- The scalar is alone at the indentation of its block, so it must be a key. -/
  required : Bool
  /-- The number of tokens before it. -/
  place : Nat
  index : Nat
  line : Nat
  column : Nat

/-- The state of a scan. -/
structure Scan where
  cursor : Cursor
  tokens : Array Token := #[]
  /-- The column of the innermost block, and of those around it. -/
  indent : Int := -1
  indents : List Int := []
  /-- The places where a key may have begun, one for the block level and for each open bracket. -/
  keys : List (Option PossibleKey) := [none]
  /-- Whether a key may begin here. -/
  keyAllowed : Bool := true

namespace Scan

/-- Whether the scan is inside brackets or braces. -/
def inFlow (s : Scan) : Bool := s.keys.length > 1

def emit (s : Scan) (token : Token) : Scan := { s with tokens := s.tokens.push token }

/-- Forgets keys that ended on an earlier line or more than 1024 characters ago. -/
def dropStaleKeys (s : Scan) : Option Scan :=
  let stale := fun (k : PossibleKey) => k.line < s.cursor.line || k.index + 1024 < s.cursor.index
  if s.keys.any (·.any fun k => stale k && k.required) then none
  else some { s with keys := s.keys.map (·.filter fun k => !stale k) }

/-- Forgets the key that may have begun on this level; it must not be a required one. -/
def dropKey (s : Scan) : Option Scan :=
  match s.keys with
  | some k :: rest => if k.required then none else some { s with keys := none :: rest }
  | _ => some s

/-- Notes that a key may begin here. -/
def noteKey (s : Scan) : Option Scan :=
  if s.keyAllowed then do
    let s ← s.dropKey
    let c := s.cursor
    let required := !s.inFlow && s.indent == (c.column : Int)
    let key : PossibleKey := ⟨required, s.tokens.size, c.index, c.line, c.column⟩
    some { s with keys := some key :: s.keys.drop 1 }
  else some s

/-- Opens a block at `column` if it is deeper than the innermost one; `place` is where its token
goes. -/
def openBlock (s : Scan) (column : Nat) (place : Nat) (token : Token) : Scan :=
  if !s.inFlow && s.indent < column then
    { s with
      indents := s.indent :: s.indents
      indent := column
      tokens := s.tokens.insertIdxIfInBounds place token }
  else s

/-- The tokens, indentation and outer indentations once the blocks deeper than `column` are
closed. -/
def closeFrom (column : Int) : Array Token → Int → List Int → Array Token × Int × List Int
  | tokens, indent, [] => (tokens, indent, [])
  | tokens, indent, outer :: rest =>
    if column < indent then closeFrom column (tokens.push .blockEnd) outer rest
    else (tokens, indent, outer :: rest)

/-- Closes the blocks deeper than `column`. -/
def closeBlocks (s : Scan) (column : Int) : Scan :=
  if s.inFlow then s
  else
    let (tokens, indent, indents) := closeFrom column s.tokens s.indent s.indents
    { s with tokens, indent, indents }

/-- Goes to the next token: past blanks, comments and line ends. A tab may not stand where a key may
begin in a block. -/
def toToken : Nat → Scan → Scan
  | 0, s => s
  | steps + 1, s =>
    let c := s.cursor
    let c := if c.index == 0 && c.peek == some '\ufeff' then c.advance 1 else c
    let tabs := s.inFlow || !s.keyAllowed
    let c := c.dropWhile fun d => d == ' ' || (tabs && d == '\t')
    let c := if c.peek == some '#' then c.dropWhile (!isBreak ·) else c
    if c.peek.any isBreak then
      toToken steps
        { s with cursor := c.takeBreak.2, keyAllowed := s.keyAllowed || !s.inFlow }
    else { s with cursor := c }

/-! ## Tags and directives -/

/-- The characters of a tag; three more may stand in one between angle brackets. -/
def isTagChar (verbatim : Bool) (c : Char) : Bool :=
  isNameChar c || ";/?:@&=+$.!~*'()%".toList.contains c || (verbatim && ",[]".toList.contains c)

/-- Decodes the percent escapes of a tag, whose bytes must be a text. -/
def decodePercent : Nat → List Char → Option Bytes
  | 0, _ => none
  | _, [] => some []
  | steps + 1, '%' :: a :: b :: rest => do
    let code ← hexValue? [a, b]
    let bytes ← decodePercent steps rest
    some (code.toUInt8 :: bytes)
  | _, ['%'] => none
  | _, ['%', _] => none
  | steps + 1, c :: rest => do
    let bytes ← decodePercent steps rest
    some (Text.toUtf8 (String.singleton c) ++ bytes)

/-- Reads the characters of a tag after `head`. -/
def takeTagText (verbatim : Bool) (head : String) (s : Cursor) : Option (String × Cursor) := do
  let (chars, s) := s.takeWhile (isTagChar verbatim)
  if chars.isEmpty && head.isEmpty then none
  else
    let bytes ← decodePercent (chars.length + 1) chars
    let text ← Text.ofUtf8? bytes
    some ((head.drop 1).toString ++ text, s)

/-- Reads `!`, perhaps a name, and perhaps another `!`. -/
def takeHandle (s : Cursor) : Option (String × Cursor) :=
  if s.peek == some '!' then
    let (name, s) := (s.advance 1).takeWhile isNameChar
    if s.peek == some '!' then some ("!" ++ String.ofList name ++ "!", s.advance 1)
    else some ("!" ++ String.ofList name, s)
  else none

/-- Reads a tag. -/
def takeTag (inFlow : Bool) (s : Cursor) : Option (Token × Cursor) := do
  let (token, s) ←
    if s.peekAt 1 == some '<' then do
      let (text, s) ← takeTagText true "" (s.advance 2)
      if s.peek == some '>' then some (Token.tag "" text, s.advance 1) else none
    else do
      let (handle, s) ← takeHandle s
      if handle.length > 1 && handle.endsWith "!" then
        let (suffix, s) ← takeTagText false "" s
        some (Token.tag handle suffix, s)
      else
        let (suffix, s) ← takeTagText false handle s
        some (if suffix.isEmpty then Token.tag "" "!" else Token.tag "!" suffix, s)
  if (inFlow && s.peek == some ',') || endsWord s.peek then some (token, s) else none

/-- Reads a number of at most nine digits. -/
def takeVersionNumber (s : Cursor) : Option (Nat × Cursor) :=
  let (digits, s) := s.takeWhile Char.isDigit
  if digits.isEmpty || digits.length > 9 then none else some (natOfDigits digits, s)

/-- Reads a directive and the rest of its line. -/
def takeDirective (s : Cursor) : Option (Token × Cursor) := do
  let (name, s) := (s.advance 1).takeWhile isNameChar
  if !endsWord s.peek then none
  else
    let (token, s) ←
      if name == "YAML".toList then do
        let (major, s) ← takeVersionNumber (s.dropWhile isBlank)
        if s.peek == some '.' then
          let (minor, s) ← takeVersionNumber (s.advance 1)
          some (Token.version major minor, s)
        else none
      else if name == "TAG".toList then do
        let (handle, s) ← takeHandle (s.dropWhile isBlank)
        if (handle == "!" || handle.endsWith "!") && s.peek.any isBlank then
          let (expansion, s) ← takeTagText true "" (s.dropWhile isBlank)
          if endsWord s.peek then some (Token.handle handle expansion, s) else none
        else none
      else none
    let s := s.dropComment
    if endsLine s.peek then some (token, s.takeBreak.2) else none

/-- Reads the name of an anchor or an alias. -/
def takeAnchorName (s : Cursor) : Option (String × Cursor) :=
  let (name, s) := (s.advance 1).takeWhile isNameChar
  if !name.isEmpty &&
      (endsWord s.peek || s.peek.any fun c => "?:,]\x7d%@`".toList.contains c) then
    some (String.ofList name, s)
  else none

/-! ## One token -/

/-- Appends a token that starts something which may be a key. -/
def takeKeyPart (s : Scan) (take : Cursor → Option (Token × Cursor)) : Option Scan := do
  let s ← s.noteKey
  let (token, cursor) ← take s.cursor
  some ({ s with cursor, keyAllowed := false }.emit token)

/-- Takes an indicator of one character. -/
def takeIndicator (s : Scan) (token : Token) (keyAllowed : Bool) : Scan :=
  { s with cursor := s.cursor.advance 1, keyAllowed }.emit token

/-- Takes a document mark or a directive, which closes all blocks. -/
def takeAtMargin (s : Scan) (take : Cursor → Option (Token × Cursor)) : Option Scan := do
  let s ← (s.closeBlocks (-1)).dropKey
  let (token, cursor) ← take s.cursor
  some ({ s with cursor, keyAllowed := false }.emit token)

/-- Takes the mark of a sequence entry. -/
def takeEntry (s : Scan) : Option Scan := do
  if !s.inFlow && !s.keyAllowed then none
  else
    let s ← (s.openBlock s.cursor.column s.tokens.size .blockSequence).dropKey
    some (s.takeIndicator .entry true)

/-- Takes the mark of a key. -/
def takeKeyMark (s : Scan) : Option Scan := do
  if !s.inFlow && !s.keyAllowed then none
  else
    let s ← (s.openBlock s.cursor.column s.tokens.size .blockMapping).dropKey
    some (s.takeIndicator .key (!s.inFlow))

/-- Takes the mark of a value; if a key may have begun on this line it did. -/
def takeValueMark (s : Scan) : Option Scan :=
  match s.keys with
  | some k :: rest =>
    let s := { s with tokens := s.tokens.insertIdxIfInBounds k.place .key, keys := none :: rest }
    some ((s.openBlock k.column k.place .blockMapping).takeIndicator .value false)
  | _ =>
    if !s.inFlow && !s.keyAllowed then none
    else
      some ((s.openBlock s.cursor.column s.tokens.size .blockMapping).takeIndicator .value
        (!s.inFlow))

/-- Takes an opening bracket or brace. -/
def takeOpening (s : Scan) (token : Token) : Option Scan := do
  let s ← s.noteKey
  some ({ s with keys := none :: s.keys }.takeIndicator token true)

/-- Takes a closing bracket or brace. -/
def takeClosing (s : Scan) (token : Token) : Option Scan := do
  let s ← s.dropKey
  some ({ s with keys := if s.inFlow then s.keys.drop 1 else s.keys }.takeIndicator token false)

/-- Takes a block scalar. -/
def takeBlockScalar (s : Scan) (literal : Bool) : Option Scan := do
  let s ← s.dropKey
  let (text, cursor) ← takeBlock literal s.indent s.cursor
  let style := if literal then ScalarStyle.literal else .folded
  some ({ s with cursor, keyAllowed := true }.emit (.scalar (String.ofList text) style))

/-- Takes a plain scalar; after a line end at its end a key may begin. -/
def takePlainScalar (s : Scan) : Option Scan := do
  let s ← s.noteKey
  let (text, broken, cursor) ← takePlain s.inFlow (s.indent + 1) s.cursor
  some ({ s with cursor, keyAllowed := broken }.emit (.scalar (String.ofList text) .plain))

/-- Whether a plain scalar may begin with `c` before `next`. -/
def startsPlain (inFlow : Bool) (c : Char) (next : Option Char) : Bool :=
  (!endsWord (some c) && !"-?:,[]\x7b\x7d#&*!|>'\"%@`".toList.contains c) ||
    (c == '-' && !next.any isBlank) ||
    (!inFlow && (c == '?' || c == ':') && !endsWord next)

/-- Takes the token that begins with `c` at the cursor. -/
def takeToken (s : Scan) (c : Char) : Option Scan :=
  let cursor := s.cursor
  let next := cursor.peekAt 1
  if cursor.column == 0 && c == '%' then s.takeAtMargin takeDirective
  else if cursor.atDocumentMark then
    let token := if c == '-' then Token.documentStart else Token.documentEnd
    s.takeAtMargin fun cursor => some (token, cursor.advance 3)
  else if c == '[' then s.takeOpening .flowSequence
  else if c == '{' then s.takeOpening .flowMapping
  else if c == ']' then s.takeClosing .flowSequenceEnd
  else if c == '}' then s.takeClosing .flowMappingEnd
  else if c == ',' then s.dropKey.map (·.takeIndicator .separator true)
  else if c == '-' && endsWord next then s.takeEntry
  else if c == '?' && (s.inFlow || endsWord next) then s.takeKeyMark
  else if c == ':' && (s.inFlow || endsWord next) then s.takeValueMark
  else if c == '*' then
    s.takeKeyPart fun cursor => (takeAnchorName cursor).map fun (name, r) => (.alias name, r)
  else if c == '&' then
    s.takeKeyPart fun cursor => (takeAnchorName cursor).map fun (name, r) => (.anchor name, r)
  else if c == '!' then s.takeKeyPart (takeTag s.inFlow)
  else if c == '|' && !s.inFlow then s.takeBlockScalar true
  else if c == '>' && !s.inFlow then s.takeBlockScalar false
  else if c == '\'' || c == '"' then
    s.takeKeyPart fun cursor =>
      (takeQuoted (c == '\'') cursor).map fun (text, r) => (.scalar (String.ofList text) .quoted, r)
  else if startsPlain s.inFlow c next then s.takePlainScalar
  else none

/-- Takes tokens up to the end of the text, where all blocks are closed. -/
def run : Nat → Scan → Option (Array Token)
  | 0, _ => none
  | steps + 1, s => do
    let s := toToken (s.cursor.rest.length + 1) s
    let s ← s.dropStaleKeys
    let s := s.closeBlocks s.cursor.column
    match s.cursor.peek with
    | none =>
      let s ← (s.closeBlocks (-1)).dropKey
      some s.tokens
    | some c =>
      let s ← s.takeToken c
      run steps s

end Scan

/-- The tokens of a text, if it can be cut into tokens. -/
def tokens? (text : String) : Option (List Token) :=
  let chars := text.toList
  if chars.all isAllowed then
    (Scan.run (chars.length + 2) { cursor := { rest := chars } }).map (·.toList)
  else none

end TextVec.Yaml
