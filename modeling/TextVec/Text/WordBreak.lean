import TextVec.Text.RunTable
import TextVec.Text.Table.Alphanumeric
import TextVec.Text.Table.WordClass

/-!
# Word boundaries

The default word segmentation of the character standard, as a machine that grows one segment at a
time. `segments` cuts a text into pieces that together are the text; `words` keeps those that hold a
letter or a digit.
-/

namespace TextVec.Text

open Table (WordClass)

/-- The class of a character at a word boundary. -/
def wordClass (c : Char) : WordClass :=
  match Table.wordClass.findSome? (findRun · c.toNat) with
  | some (_, _, value) => value
  | none => .other

/-- Whether `c` is a pictograph, which a joiner may attach to the one before it. -/
def isPictographic (c : Char) : Bool := inRanges Table.pictographic c.toNat

/-- Whether `c` is a letter or a number of some script. -/
def isAlphanumeric (c : Char) : Bool := Table.alphanumeric.any (inRanges · c.toNat)

/-- The classes that attach to whatever is before them. -/
def attaches : WordClass → Bool
  | .extend | .format | .zeroWidthJoiner => true
  | _ => false

/-- What the segment so far ends in. In the states named for a need it has taken a character that
only stays if the right one follows. -/
inductive SegmentState where
  | letter
  | hebrewLetter
  | numeric
  | katakana
  /-- It ends in what joins words, as an underscore does. -/
  | connector
  /-- It ends in a letter of flags that needs another one. -/
  | flagHalf
  /-- It ends in a whole flag. -/
  | flag
  /-- It is white space. -/
  | space
  /-- It ends in a joiner of pictographs. -/
  | joiner
  | pictograph
  /-- Any other character with marks on it: nothing more can follow. -/
  | closed
  /-- A mark between letters, which needs a letter after it. -/
  | needsLetter
  /-- A quotation mark after a Hebrew letter, which needs another after it. -/
  | needsHebrewLetter
  /-- A mark between digits, which needs a digit after it. -/
  | needsNumeric
  /-- An apostrophe after a Hebrew letter, which may stay without a letter after it. -/
  | acceptsLetter
  deriving DecidableEq, Repr

/-- Whether the segment must give back what it took to get into this state. -/
def SegmentState.isPending : SegmentState → Bool
  | .needsLetter | .needsHebrewLetter | .needsNumeric => true
  | _ => false

/-- The state that a first character opens; `none` when it stands alone. -/
def SegmentState.opening : WordClass → Option SegmentState
  | .letter => some .letter
  | .hebrewLetter => some .hebrewLetter
  | .numeric => some .numeric
  | .katakana => some .katakana
  | .extendNumLet => some .connector
  | .regionalIndicator => some .flagHalf
  | .zeroWidthJoiner => some .joiner
  | .space => some .space
  | .carriageReturn | .lineFeed | .newline => none
  | _ => some .closed

/-- The state after a character that continues the segment; `none` when it does not. A joined
pictograph and the marks that attach to anything are not decided here. -/
def SegmentState.next (state : SegmentState) (marked : Bool) (kind : WordClass) :
    Option SegmentState :=
  match state, kind with
  | .letter, .letter | .hebrewLetter, .letter | .numeric, .letter | .connector, .letter
  | .needsLetter, .letter | .acceptsLetter, .letter => some .letter
  | .letter, .hebrewLetter | .hebrewLetter, .hebrewLetter | .numeric, .hebrewLetter
  | .connector, .hebrewLetter | .needsLetter, .hebrewLetter | .acceptsLetter, .hebrewLetter
  | .needsHebrewLetter, .hebrewLetter => some .hebrewLetter
  | .letter, .numeric | .hebrewLetter, .numeric | .numeric, .numeric | .connector, .numeric
  | .needsNumeric, .numeric => some .numeric
  | .katakana, .katakana | .connector, .katakana => some .katakana
  | .letter, .extendNumLet | .hebrewLetter, .extendNumLet | .numeric, .extendNumLet
  | .katakana, .extendNumLet | .connector, .extendNumLet => some .connector
  | .hebrewLetter, .doubleQuote => some .needsHebrewLetter
  | .hebrewLetter, .singleQuote => some .acceptsLetter
  | .letter, .singleQuote | .letter, .midLetter | .letter, .midNumLet
  | .hebrewLetter, .midLetter | .hebrewLetter, .midNumLet => some .needsLetter
  | .numeric, .singleQuote | .numeric, .midNum | .numeric, .midNumLet => some .needsNumeric
  | .flagHalf, .regionalIndicator => some .flag
  | .space, .space => if marked then none else some .space
  | _, _ => none

/-- How many of the characters that follow belong to the segment; `none` when what the state needs
does not come. `joined` says that the last character was a joiner, and `marked` that the segment has
marks since it was opened. -/
def SegmentState.extent (state : SegmentState) (joined marked : Bool) : List Char → Option Nat
  | [] => if state.isPending then none else some 0
  | c :: rest =>
    let kind := wordClass c
    let stop := if state.isPending then none else some 0
    if attaches kind then
      (state.extent (kind = .zeroWidthJoiner) true rest).map (· + 1)
    else if joined && isPictographic c then
      (SegmentState.extent .pictograph false marked rest).map (· + 1)
    else
      match state.next marked kind with
      | none => stop
      | some after =>
        match after.extent false marked rest with
        | some n => some (n + 1)
        | none => stop

/-- How many characters after the first belong to the first segment of a text. -/
def firstExtent (c : Char) (rest : List Char) : Nat :=
  match wordClass c, rest with
  | .carriageReturn, d :: _ => if wordClass d = .lineFeed then 1 else 0
  | kind, _ =>
    match SegmentState.opening kind with
    | none => 0
    | some state => (state.extent (kind = .zeroWidthJoiner) false rest).getD 0

/-- The segments from a segment on that so far is `segment`, last character first, and takes `n`
more characters. -/
def segmentsFrom : List Char → Nat → List Char → List (List Char)
  | segment, _, [] => [segment.reverse]
  | segment, n + 1, c :: rest => segmentsFrom (c :: segment) n rest
  | segment, 0, c :: rest => segment.reverse :: segmentsFrom [c] (firstExtent c rest) rest

/-- The segments of a text, in order. -/
def segments : List Char → List (List Char)
  | [] => []
  | c :: rest => segmentsFrom [c] (firstExtent c rest) rest

theorem flatten_segmentsFrom (segment : List Char) (n : Nat) (text : List Char) :
    (segmentsFrom segment n text).flatten = segment.reverse ++ text := by
  induction text generalizing segment n with
  | nil => simp [segmentsFrom]
  | cons c rest ih => cases n <;> simp [segmentsFrom, ih]

/-- Cutting a text into segments loses nothing. -/
theorem flatten_segments (text : List Char) : (segments text).flatten = text := by
  cases text <;> simp [segments, flatten_segmentsFrom]

/-- The segments that hold a letter or a digit. -/
def words (text : List Char) : List (List Char) :=
  (segments text).filter fun segment => segment.any isAlphanumeric

end TextVec.Text
