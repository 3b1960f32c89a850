import TextVec.Number.Shortest
import TextVec.Yaml.Plain
import TextVec.Text.Utf8

/-!
# Printing YAML values

The text of a value. Sequences and mappings are written as blocks, a sequence inside a mapping at
the indentation of its key; a string is plain where that reads back as the same string, else between
single quotation marks, else between double ones, and one of several lines is a literal block.
-/

namespace TextVec.Yaml

/-! ## Scalars -/

/-- The forms in which a scalar is written. -/
inductive Form where
  | plain
  | single
  | double
  | literal
  deriving DecidableEq, Repr

/-- Whether `c` may be written as itself. -/
def isShown (c : Char) : Bool :=
  let n := c.toNat
  n == 0x0A || (0x20 ≤ n && n ≤ 0x7E) || (0xA0 ≤ n && n ≤ 0xD7FF) ||
    (0xE000 ≤ n && n ≤ 0xFFFD && n != 0xFEFF) || 0x10000 ≤ n

/-- Whether two neighbours in a text satisfy `p` and `q`. -/
def hasPair (p q : Char → Bool) : List Char → Bool
  | a :: b :: rest => (p a && q b) || hasPair p q (b :: rest)
  | _ => false

/-- A blank, the end of a line, or the end of the text. -/
def endsPlain (c : Option Char) : Bool := endsWord c || c == some '\x00'

/-- Whether a colon ends a word, or a number sign begins one, after the first character. -/
def hasInnerMark (text : List Char) : Bool :=
  hasPair (endsPlain ∘ some) (· == '#') text ||
    hasPair (· == ':') (endsPlain ∘ some) (text.drop 1) ||
    (text.drop 1).getLast? == some ':'

/-- Whether the beginning of a text would be read as something else than a plain scalar. -/
def hasOpeningMark (text : List Char) : Bool :=
  match text with
  | [] => false
  | c :: rest =>
    text.take 3 == ['-', '-', '-'] || text.take 3 == ['.', '.', '.'] ||
      "#,[]\x7b\x7d&*!|>'\"%@`".toList.contains c ||
      ((c == '?' || c == ':' || c == '-') && endsPlain rest.head?)

/-- Whether a text may stand between single quotation marks. -/
def allowsSingle (text : List Char) : Bool :=
  text.all isShown && !hasPair (· == ' ') isBreak text && !hasPair isBreak (· == ' ') text

/-- Whether a text may be a plain scalar. -/
def allowsPlain (text : List Char) : Bool :=
  let bare := fun (c : Option Char) => !c.any fun c => c == ' ' || isBreak c
  allowsSingle text && !text.any isBreak && bare text.head? && bare text.getLast? &&
    !hasOpeningMark text && !hasInnerMark text

/-- Whether a text may be a literal block. -/
def allowsLiteral (text : List Char) : Bool :=
  !text.isEmpty && text.all isShown && text.getLast? != some ' ' && !hasPair (· == ' ') isBreak text

/-- The form of a string. -/
def formOf (text : String) : Form :=
  let chars := text.toList
  let quoted := if allowsSingle chars then Form.single else .double
  if chars.contains '\n' then if allowsLiteral chars then .literal else .double
  else if hasIdleZero chars then quoted
  else
    match resolve text with
    | .text => if allowsPlain chars then .plain else quoted
    | _ => quoted

/-- `width` hexadecimal digits of a number. -/
def hexDigits (width n : Nat) : List Char :=
  let digits := (Nat.toDigits 16 n).map Char.toUpper
  List.replicate (width - digits.length) '0' ++ digits

/-- A character between double quotation marks. -/
def escapeChar (c : Char) : List Char :=
  let n := c.toNat
  if isShown c && !isBreak c && c != '"' && c != '\\' then [c]
  else
    '\\' :: match c with
      | '\x00' => ['0']
      | '\x07' => ['a']
      | '\x08' => ['b']
      | '\t' => ['t']
      | '\n' => ['n']
      | '\x0b' => ['v']
      | '\x0c' => ['f']
      | '\r' => ['r']
      | '\x1b' => ['e']
      | '"' => ['"']
      | '\\' => ['\\']
      | '\u0085' => ['N']
      | '\u2028' => ['L']
      | '\u2029' => ['P']
      | _ =>
        if n ≤ 0xFF then 'x' :: hexDigits 2 n
        else if n ≤ 0xFFFF then 'u' :: hexDigits 4 n
        else 'U' :: hexDigits 8 n

/-- The rest of a scalar of several lines that are indented by `indent`; `fresh` says that a line
has just begun. -/
def indentLines (indent : Nat) (shown : Char → List Char) : Bool → List Char → List Char
  | _, [] => []
  | fresh, c :: rest =>
    if isBreak c then c :: indentLines indent shown true rest
    else
      (if fresh then List.replicate indent ' ' else []) ++ shown c ++
        indentLines indent shown false rest

/-- The marks of a literal block: how its lines are indented, if that cannot be seen from the first,
and what becomes of the line ends at its end. -/
def literalMarks (text : List Char) : List Char :=
  let indentation := if text.head?.any (fun c => c == ' ' || isBreak c) then ['2'] else []
  let chomping := match text.reverse with
    | last :: before =>
      if !isBreak last then ['-']
      else if before.isEmpty || before.head?.any isBreak then ['+']
      else []
    | [] => ['-']
  indentation ++ chomping

/-- A scalar whose further lines are indented by `indent`. -/
def writeScalar (indent : Nat) (text : List Char) : Form → List Char
  | .plain => text
  | .double => '"' :: (text.flatMap escapeChar ++ ['"'])
  | .single =>
    let body := indentLines indent (fun c => if c == '\'' then ['\'', '\''] else [c]) false text
    let tail := if text.getLast?.any isBreak then List.replicate indent ' ' else []
    '\'' :: (body ++ tail ++ ['\''])
  | .literal => '|' :: (literalMarks text ++ '\n' :: indentLines indent (fun c => [c]) true text)

/-- The text of a number. -/
def Number.text : Number → String
  | .int n => toString n
  | .float x =>
    if x.isNaN then ".nan"
    else if x.isInfinite then if x.isNegative then "-.inf" else ".inf"
    else NumeralLayout.yaml.writeDouble x

/-- A byte of a tag that may not stand for itself. -/
def escapeByte (b : UInt8) : List Char := '%' :: hexDigits 2 b.toNat

/-- The text of a tag. -/
def tagText (name : String) : String :=
  let shown := fun (c : Char) =>
    if isNameChar c || ";/?:@&=+$,.~*'()[]".toList.contains c then [c]
    else (Text.toUtf8 (String.singleton c)).flatMap escapeByte
  if name == "!" then "!<%21>" else String.ofList ('!' :: name.toList.flatMap shown)

/-- The text and the form of a value that is a scalar. -/
def scalar? : Value → Option (String × Form)
  | .null => some ("null", .plain)
  | .bool b => some (if b then "true" else "false", .plain)
  | .number n => some (n.text, .plain)
  | .string text => some (text, formOf text)
  | .sequence _ | .mapping _ | .tagged _ _ => none

/-! ## Which values can be printed -/

/-- A mapping of one entry, which is written by the same means as a tag. -/
def isSingle : Value → Bool
  | .mapping [_] => true
  | _ => false

/-- Whether a value is a tag or a mapping of one entry. -/
def opensSingle : Value → Bool
  | .tagged _ _ => true
  | value => isSingle value

mutual

/-- Whether a value can be printed, under a tag or not: a tag cannot stand right under a tag, nor
can a tag or a mapping of one entry be the key of a mapping of one entry that has no tag. -/
def isPrintable (underTag : Bool) : Value → Bool
  | .null | .bool _ | .number _ | .string _ => true
  | .sequence items => itemsPrintable items
  | .mapping [] => true
  | .mapping [(key, value)] =>
    (underTag || !opensSingle key) && isPrintable false key && isPrintable false value
  | .mapping (first :: second :: rest) => entriesPrintable (first :: second :: rest)
  | .tagged _ value => !underTag && isPrintable true value

def itemsPrintable : List Value → Bool
  | [] => true
  | item :: rest => isPrintable false item && itemsPrintable rest

def entriesPrintable : List (Value × Value) → Bool
  | [] => true
  | (key, value) :: rest =>
    isPrintable false key && isPrintable false value && entriesPrintable rest

end

/-! ## Layout -/

/-- Where a value is written. -/
structure Place where
  /-- The indentation of the block around it, if there is one. -/
  parent : Option Nat
  /-- A space must go before it. -/
  gap : Bool
  /-- A block may begin on this line. -/
  inline : Bool
  /-- It is a key or a value of a mapping. -/
  inMapping : Bool

namespace Place

/-- The beginning of a document. -/
def root : Place := ⟨none, false, true, false⟩

/-- An item of a sequence of the given indentation. -/
def item (indent : Nat) : Place := ⟨some indent, true, true, false⟩

/-- The key of a mapping, on the line of its colon. -/
def simpleKey (indent : Nat) : Place := ⟨some indent, false, true, true⟩

/-- The value after such a key. -/
def simpleValue (indent : Nat) : Place := ⟨some indent, true, false, true⟩

/-- A key or a value with a mark of its own. -/
def marked (indent : Nat) : Place := ⟨some indent, true, true, true⟩

/-- What goes before a value on the same line. -/
def lead (place : Place) : String := if place.gap then " " else ""

/-- The place after a tag. -/
def tagged (place : Place) : Place := { place with gap := true, inline := false }

/-- The indentation of the further lines of a scalar. -/
def scalarIndent (place : Place) : Nat := place.parent.elim 2 (· + 2)

/-- The indentation of the entries of a mapping. -/
def mappingIndent (place : Place) : Nat := place.parent.elim 0 (· + 2)

/-- The indentation of the items of a sequence. -/
def sequenceIndent (place : Place) : Nat :=
  if place.inMapping && !place.inline then place.parent.getD 0 else place.mappingIndent

end Place

/-- Begins a line with the given indentation. -/
def freshLine (out : String) (indent : Nat) : String :=
  let out := if out.isEmpty || out.back?.any isBreak then out else out.push '\n'
  out ++ String.ofList (List.replicate indent ' ')

/-- Begins a block, on this line if its place admits that. -/
def beginBlock (place : Place) (indent : Nat) (out : String) : String :=
  if place.inline then out ++ place.lead else freshLine out indent

/-- The length that counts for a key on one line, if a value can be one. -/
def keyLength? : Value → Option Nat
  | .sequence [] | .mapping [] => some 0
  | .sequence _ | .mapping _ => none
  | .tagged name value =>
    (keyLength? value).map (· + name.utf8ByteSize + if name == "!" then 0 else 1)
  | value => (scalar? value).bind fun (text, _) =>
    if text.toList.any isBreak then none else some text.utf8ByteSize

/-- Whether a key is written on one line, without a mark of its own. -/
def isSimpleKey (key : Value) : Bool := (keyLength? key).any (· ≤ 128)

mutual

/-- Appends a value to the text before it. -/
def write (place : Place) (out : String) : Value → String
  | .sequence [] => out ++ place.lead ++ "[]"
  | .sequence (item :: rest) =>
    let indent := place.sequenceIndent
    let out := beginBlock place indent out ++ "-"
    writeItems indent (write (.item indent) out item) rest
  | .mapping [] => out ++ place.lead ++ "\x7b\x7d"
  | .mapping ((key, value) :: rest) =>
    let indent := place.mappingIndent
    let out := beginBlock place indent out
    let out :=
      if isSimpleKey key then
        write (.simpleValue indent) (write (.simpleKey indent) out key ++ ":") value
      else
        let out := write (.marked indent) (out ++ "?") key
        write (.marked indent) (freshLine out indent ++ ":") value
    writeEntries indent out rest
  | .tagged name value => write place.tagged (out ++ place.lead ++ tagText name) value
  | value =>
    match scalar? value with
    | some (text, form) =>
      out ++ place.lead ++ String.ofList (writeScalar place.scalarIndent text.toList form)
    | none => out

def writeItems (indent : Nat) (out : String) : List Value → String
  | [] => out
  | item :: rest => writeItems indent (write (.item indent) (freshLine out indent ++ "-") item) rest

def writeEntries (indent : Nat) (out : String) : List (Value × Value) → String
  | [] => out
  | (key, value) :: rest =>
    let out := freshLine out indent
    let out :=
      if isSimpleKey key then
        write (.simpleValue indent) (write (.simpleKey indent) out key ++ ":") value
      else
        let out := write (.marked indent) (out ++ "?") key
        write (.marked indent) (freshLine out indent ++ ":") value
    writeEntries indent out rest

end

/-- The text of a value, if it can be printed. -/
def Value.print? (value : Value) : Option String :=
  if isPrintable false value then some (freshLine (write .root "" value) 0) else none

end TextVec.Yaml
