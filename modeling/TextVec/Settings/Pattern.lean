import TextVec.Settings.LogFilter

/-!
# Patterns

Which texts are regular expressions, as far as their syntax goes: groups and sets are closed, there
is something before every repetition, escapes are known, and ranges are in order. Counted
repetitions are refused, since a field of a log filter ends at the first closing brace, and so are
word boundaries, for which there is no automaton.
-/

namespace TextVec.Pattern

/-- The part of a pattern that is being read. -/
inductive Part where
  /-- There is nothing here that can be repeated. -/
  | nothing
  /-- Something that can be repeated has just ended. -/
  | item
  /-- After the parenthesis that opens a group. -/
  | opened
  /-- After the question mark of a group. -/
  | question
  /-- After the letter that announces the name of a group. -/
  | naming
  | name (length : Nat)
  | flags
  /-- After a backslash; what it stands for belongs to a set of that depth, or to none at 0. -/
  | escape (depth : Nat)
  | property (depth : Nat)
  | hex (left depth : Nat)
  /-- At the beginning of a set, where a closing bracket stands for itself. -/
  | setOpened (depth : Nat) (negated : Bool)
  /-- In a set: the character before this place, and whether a range from it was begun. -/
  | set (depth : Nat) (last : Option Char) (range : Bool)

/-- Where a pattern is read: the part, and the number of groups that are open. -/
structure Place where
  part : Part := .nothing
  groups : Nat := 0

/-- The part after something of one character: an item, or an element of a set. -/
def Part.element : (depth : Nat) → Part
  | 0 => .item
  | depth => .set depth none false

/-- The part after the letter or sign `c` of an escape. -/
def Part.escaped (depth : Nat) (c : Char) : Option Part :=
  if "dDsSwWntrfva".toList.contains c then some (.element depth)
  else if c = 'A' || c = 'z' then if depth = 0 then some .item else none
  else if c = 'p' || c = 'P' then some (.property depth)
  else if c = 'x' then some (.hex 2 depth)
  else if c = 'u' then some (.hex 4 depth)
  else if c = 'U' then some (.hex 8 depth)
  else if c.isAlphanum || c.toNat ≥ 0x80 then none
  else some (.element depth)

/-- The place after a character outside sets. -/
def Place.nextOutside (place : Place) (c : Char) : Option Place :=
  match c with
  | '(' => some ⟨.opened, place.groups + 1⟩
  | ')' => if place.groups = 0 then none else some ⟨.item, place.groups - 1⟩
  | '|' => some { place with part := .nothing }
  | '*' | '+' | '?' =>
    match place.part with
    | .item => some place
    | _ => none
  | '\x7b' => none
  | '[' => some { place with part := .setOpened 1 false }
  | '\\' => some { place with part := .escape 0 }
  | _ => some { place with part := .item }

/-- The part after a character in a set. -/
def Part.nextInside (depth : Nat) (last : Option Char) (range : Bool) (c : Char) : Option Part :=
  match c with
  | ']' => some (if depth = 1 then .item else .set (depth - 1) none false)
  | '[' => some (.setOpened (depth + 1) false)
  | '\\' => some (.escape depth)
  | '-' => some (.set depth last (last.isSome && !range))
  | _ =>
    match range, last with
    | true, some first => if first ≤ c then some (.set depth none false) else none
    | _, _ => some (.set depth (some c) false)

/-- The place after a character, if the pattern can go on with it. -/
def Place.next (place : Place) (c : Char) : Option Place :=
  let go := fun part => some { place with part }
  match place.part with
  | .nothing | .item => place.nextOutside c
  | .opened => if c = '?' then go .question else Place.nextOutside ⟨.nothing, place.groups⟩ c
  | .question =>
    if c = 'P' then go .naming
    else if c = '<' then go (.name 0)
    else if c = ':' then go .nothing
    else if "imsUuxR-".toList.contains c then go .flags
    else none
  | .naming => if c = '<' then go (.name 0) else none
  | .name length =>
    if c = '>' then if length = 0 then none else go .nothing
    else if c.isAlpha || c = '_' || (length > 0 && c.isDigit) then go (.name (length + 1))
    else none
  | .flags =>
    if c = ':' then go .nothing
    else if c = ')' then some ⟨.nothing, place.groups - 1⟩
    else if "imsUuxR-".toList.contains c then go .flags
    else none
  | .escape depth => (Part.escaped depth c).bind go
  | .property depth => if "CLMNPSZ".toList.contains c then go (.element depth) else none
  | .hex left depth =>
    if c.isDigit || "abcdefABCDEF".toList.contains c then
      go (if left = 1 then .element depth else .hex (left - 1) depth)
    else none
  | .setOpened depth negated =>
    if c = '^' && !negated then go (.setOpened depth true)
    else if c = ']' then go (.set depth (some c) false)
    else (Part.nextInside depth none false c).bind go
  | .set depth last range => (Part.nextInside depth last range c).bind go

/-- Whether a text is a regular expression. -/
def isPattern (text : String) : Bool :=
  match text.toList.foldlM Place.next {} with
  | some ⟨.nothing, 0⟩ | some ⟨.item, 0⟩ => true
  | _ => false

example : isPattern "a.*(b|[^c-e])" = true := by decide +kernel

example : isPattern "(" = false := by decide +kernel

/-- Texts that are regular expressions by their syntax, for programs that are run. -/
scoped instance syntactic : Patterns where
  check pattern := if isPattern pattern then .ok () else .error "regex parse error"

end TextVec.Pattern
