import TextVec.Text.RunTable
import TextVec.Text.Table.Casing

/-!
# Lower case

The lower-case form of a text, the same in every language. It is the character standard's mapping of
single characters, with two rules of its own: a dotted capital I becomes two characters, and a
capital sigma takes its final form at the end of a word.
-/

namespace TextVec.Text

/-- Whether `c` has a case. -/
def isCased (c : Char) : Bool := inRanges Table.cased c.toNat

/-- Whether casing looks through `c` when it asks what is beside a sigma. -/
def isCaseIgnorable (c : Char) : Bool := Table.caseIgnorable.any (inRanges · c.toNat)

/-- The lower-case form of a single character. -/
def lowerChar (c : Char) : Char :=
  match findRun Table.lowercase c.toNat with
  | some (first, _, step, image) =>
    let distance := c.toNat - first
    if distance % step = 0 then Char.ofNat (image + distance) else c
  | none => c

/-- Whether the first of `cs` that is not case-ignorable is cased. -/
def meetsCased (cs : List Char) : Bool :=
  match cs.dropWhile isCaseIgnorable with
  | c :: _ => isCased c
  | [] => false

/-- The lower-case form of `c` between `before`, nearest first, and `after`. -/
def lowerAt (before : List Char) (c : Char) (after : List Char) : List Char :=
  if c = 'Σ' then [if meetsCased before && !meetsCased after then 'ς' else 'σ']
  else if c = 'İ' then ['i', '\u0307']
  else [lowerChar c]

/-- The lower-case form of a text that comes after `before`, nearest first. -/
def lowerFrom (before : List Char) : List Char → List Char
  | [] => []
  | c :: rest => lowerAt before c rest ++ lowerFrom (c :: before) rest

/-- The lower-case form of a text. -/
def lowercase (text : List Char) : List Char := lowerFrom [] text

end TextVec.Text
