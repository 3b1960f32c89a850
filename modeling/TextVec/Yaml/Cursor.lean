/-!
# Positions in a YAML text

The character classes of YAML, and a position in a text with its line and column. Lines end in a
line feed, a carriage return, both, or one of three separators of the character standard.
-/

namespace TextVec.Yaml

/-- Whether `c` ends a line. -/
def isBreak (c : Char) : Bool :=
  c == '\r' || c == '\n' || c == '\u0085' || c == '\u2028' || c == '\u2029'

/-- A space or a tab. -/
def isBlank (c : Char) : Bool := c == ' ' || c == '\t'

/-- The end of the text or of a line. -/
def endsLine : Option Char → Bool
  | none => true
  | some c => isBreak c

/-- The end of the text or of a line, or a blank. -/
def endsWord : Option Char → Bool
  | none => true
  | some c => isBreak c || isBlank c

/-- The characters of anchors, handles and directive names. -/
def isNameChar (c : Char) : Bool := c.isAlphanum || c == '-' || c == '_'

/-- The characters that may stand in a YAML text at all. -/
def isAllowed (c : Char) : Bool :=
  let n := c.toNat
  n == 0x09 || n == 0x0A || n == 0x0D || (0x20 ≤ n && n ≤ 0x7E) || n == 0x85 ||
    (0xA0 ≤ n && n ≤ 0xD7FF) || (0xE000 ≤ n && n ≤ 0xFFFD) || 0x10000 ≤ n

/-- A position in a text: what is left of it, and how far it has come. -/
structure Cursor where
  /-- What was not read yet. -/
  rest : List Char
  /-- How many characters were read. -/
  index : Nat := 0
  /-- How many lines were read. -/
  line : Nat := 0
  /-- How many characters of the present line were read. -/
  column : Nat := 0

namespace Cursor

/-- The next character. -/
def peek (s : Cursor) : Option Char := s.rest.head?

/-- The character `n` places on. -/
def peekAt (s : Cursor) (n : Nat) : Option Char := s.rest[n]?

/-- Goes `n` characters on in the same line. -/
def advance (s : Cursor) (n : Nat) : Cursor :=
  { s with rest := s.rest.drop n, index := s.index + n, column := s.column + n }

/-- The next characters that satisfy `p`, and the position after them. -/
def takeWhile (s : Cursor) (p : Char → Bool) : List Char × Cursor :=
  let taken := s.rest.takeWhile p
  (taken, s.advance taken.length)

/-- Goes on as long as the characters satisfy `p`. -/
def dropWhile (s : Cursor) (p : Char → Bool) : Cursor := (s.takeWhile p).2

/-- Goes to the next line after a line end of `n` characters. -/
def newLine (s : Cursor) (n : Nat) : Cursor :=
  { rest := s.rest.drop n, index := s.index + n, line := s.line + 1, column := 0 }

/-- Takes a line end, which counts as a line feed unless it is a separator of its own. -/
def takeBreak (s : Cursor) : List Char × Cursor :=
  match s.rest with
  | '\r' :: '\n' :: _ => (['\n'], s.newLine 2)
  | c :: _ =>
    if c == '\u2028' || c == '\u2029' then ([c], s.newLine 1)
    else if isBreak c then (['\n'], s.newLine 1)
    else ([], s)
  | [] => ([], s)

/-- Whether a line of the form `---` or `...` starts here. -/
def atDocumentMark (s : Cursor) : Bool :=
  s.column == 0 && endsWord (s.peekAt 3) &&
    (s.rest.take 3 == ['-', '-', '-'] || s.rest.take 3 == ['.', '.', '.'])

/-- Goes past blanks and a comment after them. -/
def dropComment (s : Cursor) : Cursor :=
  let s := s.dropWhile isBlank
  if s.peek == some '#' then s.dropWhile (!isBreak ·) else s

end Cursor

end TextVec.Yaml
