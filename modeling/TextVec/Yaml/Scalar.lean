import TextVec.Yaml.Cursor
import TextVec.Number.Decimal

/-!
# YAML scalars

How the four written forms of a scalar are read: plain, between single or double quotation marks,
and as a block of lines. All but the literal block fold lines: a single line end becomes a space,
and of several the first is dropped.
-/

namespace TextVec.Yaml

/-- Joins the parts of a folded scalar: `first` is the line end after the text before, `more` the
line ends after that. -/
def foldBreaks (first more : List Char) : List Char :=
  if first.head? == some '\n' then (if more.isEmpty then [' '] else more) else first ++ more

/-- Blanks and line ends between the words of a folded scalar: the blanks if there was no line end,
else the first line end and those after it. -/
structure Gap where
  blanks : List Char := []
  first : List Char := []
  more : List Char := []
  broken : Bool := false

/-- What a gap contributes to the text of its scalar. -/
def Gap.text (gap : Gap) : List Char :=
  if gap.broken then foldBreaks gap.first gap.more else gap.blanks

/-- Takes the blanks and line ends at a position. `refuses` marks a blank that may not stand where
it is. -/
def takeGap (refuses : Gap → Cursor → Bool) : Nat → Gap → Cursor → Option (Gap × Cursor)
  | 0, _, _ => none
  | steps + 1, gap, s =>
    match s.peek with
    | none => some (gap, s)
    | some c =>
      if isBlank c then
        if refuses gap s then none
        else
          takeGap refuses steps
            (if gap.broken then gap else { gap with blanks := gap.blanks ++ [c] }) (s.advance 1)
      else if isBreak c then
        let (lineEnd, next) := s.takeBreak
        takeGap refuses steps
          (if gap.broken then { gap with more := gap.more ++ lineEnd }
            else { gap with first := lineEnd, broken := true }) next
      else some (gap, s)

/-! ## Plain scalars -/

/-- The characters that have a meaning of their own inside brackets and braces. -/
def isFlowIndicator (c : Char) : Bool :=
  c == ',' || c == '[' || c == ']' || c == '{' || c == '}'

/-- The characters of one word of a plain scalar. Inside brackets a colon right before an indicator
is an error. -/
def takePlainWord (inFlow : Bool) : List Char → Option (List Char)
  | [] => some []
  | c :: rest =>
    if endsWord (some c) then some []
    else if inFlow && c == ':' && (rest.head?.any fun d => isFlowIndicator d || d == '?') then none
    else if (c == ':' && endsWord rest.head?) || (inFlow && isFlowIndicator c) then some []
    else (takePlainWord inFlow rest).map (c :: ·)

/-- The rest of a plain scalar after `text`, with `gap` before it. The last component says whether
the scalar ends in a line end. -/
def takePlainFrom (inFlow : Bool) (indent : Int) :
    Nat → List Char → Gap → Cursor → Option (List Char × Bool × Cursor)
  | 0, _, _, _ => none
  | steps + 1, text, gap, s =>
    if s.atDocumentMark || s.peek == some '#' then some (text, gap.broken, s)
    else do
      let word ← takePlainWord inFlow s.rest
      let text := if word.isEmpty then text else text ++ gap.text ++ word
      let gap : Gap := if word.isEmpty then gap else {}
      let s := s.advance word.length
      match s.peek with
      | none => some (text, gap.broken, s)
      | some c =>
        if !(isBlank c || isBreak c) then some (text, gap.broken, s)
        else do
          let misplaced := fun (gap : Gap) (s : Cursor) =>
            gap.broken && (s.column : Int) < indent && s.peek == some '\t'
          let (gap, s) ← takeGap misplaced (s.rest.length + 1) gap s
          if !inFlow && (s.column : Int) < indent then some (text, gap.broken, s)
          else takePlainFrom inFlow indent steps text gap s

/-- Reads a plain scalar whose continuation lines are indented by `indent` at least. -/
def takePlain (inFlow : Bool) (indent : Int) (s : Cursor) : Option (List Char × Bool × Cursor) :=
  takePlainFrom inFlow indent (s.rest.length + 1) [] {} s

/-! ## Quoted scalars -/

/-- The number that hexadecimal digits write. -/
def hexValue? (digits : List Char) : Option Nat :=
  digits.foldlM (fun n c =>
    if c.isDigit then some (n * 16 + (c.toNat - '0'.toNat))
    else
      let d := c.toLower
      if 'a' ≤ d && d ≤ 'f' then some (n * 16 + (d.toNat - 'a'.toNat + 10)) else none) 0

/-- The character that `code` numbers, if it numbers one. -/
def charOfCode? (code : Nat) : Option Char :=
  if code.isValidChar then some (Char.ofNat code) else none

/-- What a backslash and the characters after it stand for, and how many those are. -/
def readEscape? : List Char → Option (Char × Nat)
  | [] => none
  | c :: rest =>
    let coded := fun width => do
      let digits := rest.take width
      if digits.length < width then none
      else
        let code ← hexValue? digits
        let decoded ← charOfCode? code
        some (decoded, width + 1)
    match c with
    | '0' => some ('\x00', 1)
    | 'a' => some ('\x07', 1)
    | 'b' => some ('\x08', 1)
    | 't' | '\t' => some ('\t', 1)
    | 'n' => some ('\n', 1)
    | 'v' => some ('\x0b', 1)
    | 'f' => some ('\x0c', 1)
    | 'r' => some ('\r', 1)
    | 'e' => some ('\x1b', 1)
    | ' ' => some (' ', 1)
    | '"' => some ('"', 1)
    | '/' => some ('/', 1)
    | '\\' => some ('\\', 1)
    | 'N' => some ('\u0085', 1)
    | '_' => some ('\u00a0', 1)
    | 'L' => some ('\u2028', 1)
    | 'P' => some ('\u2029', 1)
    | 'x' => coded 2
    | 'u' => coded 4
    | 'U' => coded 8
    | _ => none

/-- One word of a quoted scalar, of which `word` has been read, last character first, and whether an
escaped line end closed it. -/
def takeQuotedWord (single : Bool) : Nat → List Char → Cursor → Option (List Char × Bool × Cursor)
  | 0, _, _ => none
  | steps + 1, word, s =>
    match s.rest with
    | [] => some (word.reverse, false, s)
    | c :: rest =>
      if endsWord (some c) then some (word.reverse, false, s)
      else if single && c == '\'' && rest.head? == some '\'' then
        takeQuotedWord single steps ('\'' :: word) (s.advance 2)
      else if c == (if single then '\'' else '"') then some (word.reverse, false, s)
      else if !single && c == '\\' then
        if rest.head?.any isBreak then some (word.reverse, true, (s.advance 1).takeBreak.2)
        else do
          let (decoded, width) ← readEscape? rest
          takeQuotedWord single steps (decoded :: word) (s.advance (width + 1))
      else takeQuotedWord single steps (c :: word) (s.advance 1)

/-- The rest of a quoted scalar after `text`. -/
def takeQuotedFrom (single : Bool) : Nat → List Char → Cursor → Option (List Char × Cursor)
  | 0, _, _ => none
  | steps + 1, text, s =>
    if s.atDocumentMark || s.peek.isNone then none
    else do
      let (word, broken, s) ← takeQuotedWord single (s.rest.length + 1) [] s
      let text := text ++ word
      if s.peek == some (if single then '\'' else '"') then some (text, s.advance 1)
      else do
        let (gap, s) ← takeGap (fun _ _ => false) (s.rest.length + 1) { broken } s
        takeQuotedFrom single steps (text ++ gap.text) s

/-- Reads a quoted scalar from its opening mark on. -/
def takeQuoted (single : Bool) (s : Cursor) : Option (List Char × Cursor) :=
  takeQuotedFrom single (s.rest.length + 1) [] (s.advance 1)

/-! ## Block scalars -/

/-- What a block scalar does with the line ends at its end. -/
inductive Chomping where
  /-- No line break is kept. -/
  | strip
  /-- One is kept, if there is one. -/
  | clip
  /-- All are kept. -/
  | keep
  deriving DecidableEq

/-- Reads the chomping and indentation marks of a block scalar, in either order. -/
def takeBlockMarks (s : Cursor) : Option (Chomping × Nat × Cursor) :=
  let chomping := fun (s : Cursor) => match s.peek with
    | some '+' => some (Chomping.keep, s.advance 1)
    | some '-' => some (Chomping.strip, s.advance 1)
    | _ => none
  let width := fun (s : Cursor) => match s.peek with
    | some c =>
      if c == '0' then none
      else if c.isDigit then some (c.toNat - '0'.toNat, s.advance 1)
      else some (0, s)
    | none => some (0, s)
  match chomping s with
  | some (mode, s) => (width s).map fun (n, s) => (mode, n, s)
  | none => do
    let (n, next) ← width s
    if n = 0 then some (.clip, 0, next)
    else
      match chomping next with
      | some (mode, s) => some (mode, n, s)
      | none => some (.clip, n, next)

/-- Takes empty lines and the indentation of the next line that is not empty. Without a known
`indent` (0) it goes past any number of spaces; `widest` is the most it has seen. -/
def takeBlockBreaks (indent : Nat) :
    Nat → List Char → Nat → Cursor → Option (List Char × Nat × Cursor)
  | 0, _, _, _ => none
  | steps + 1, breaks, widest, s =>
    let spaces := (s.rest.takeWhile (· == ' ')).length
    let s := s.advance (if indent = 0 then spaces else min spaces (indent - s.column))
    let widest := max widest s.column
    if (indent = 0 || s.column < indent) && s.peek == some '\t' then none
    else if s.peek.any isBreak then
      let (lineEnd, next) := s.takeBreak
      takeBlockBreaks indent steps (breaks ++ lineEnd) widest next
    else some (breaks, widest, s)

/-- The lines of a block scalar after `text`. `lineEnd` is the end of the line before, `breaks` are
the empty lines after it, and `wasBlank` says that the line before started with a blank. Returns the
text with the line ends at its end apart. -/
def takeBlockLines (literal : Bool) (indent : Nat) :
    Nat → List Char → List Char → List Char → Bool → Cursor →
      Option (List Char × List Char × List Char × Cursor)
  | 0, _, _, _, _, _ => none
  | steps + 1, text, lineEnd, breaks, wasBlank, s =>
    if s.column == indent && s.peek.isSome then
      let blank := s.peek.any isBlank
      let joint :=
        if !literal && lineEnd.head? == some '\n' && !wasBlank && !blank then
          (if breaks.isEmpty then [' '] else [])
        else lineEnd
      let (line, s) := s.takeWhile (!isBreak ·)
      let text := text ++ joint ++ breaks ++ line
      let (lineEnd, s) := s.takeBreak
      match takeBlockBreaks indent (s.rest.length + 1) [] 0 s with
      | none => none
      | some (breaks, _, s) => takeBlockLines literal indent steps text lineEnd breaks blank s
    else some (text, lineEnd, breaks, s)

/-- Reads a block scalar from its indicator on, inside a block of indentation `parent`. -/
def takeBlock (literal : Bool) (parent : Int) (s : Cursor) : Option (List Char × Cursor) := do
  let (chomping, width, s) ← takeBlockMarks (s.advance 1)
  let s := s.dropComment
  if !endsLine s.peek then none
  else
    let s := s.takeBreak.2
    let known : Nat := if width = 0 then 0 else (max parent 0).toNat + width
    let (breaks, widest, s) ← takeBlockBreaks known (s.rest.length + 1) [] 0 s
    let indent := if known = 0 then max widest (max (parent + 1) 1).toNat else known
    let (text, lineEnd, breaks, s) ←
      takeBlockLines literal indent (s.rest.length + 1) [] [] breaks false s
    let tail := match chomping with
      | .strip => []
      | .clip => lineEnd
      | .keep => lineEnd ++ breaks
    some (text ++ tail, s)

end TextVec.Yaml
