import TextVec.Yaml.Token

/-!
# YAML nodes

The tree of a YAML text before its scalars have a meaning. A text holds at most one document.

An anchor gives a node a slot, and an alias stands for the node in a slot. The slot of an anchor is
the number of different names that were in use before it, so an anchor that repeats a name may share
its slot with the next new one; of two nodes in one slot the one that starts later holds it.
-/

namespace TextVec.Yaml

/-- A node, with the slot that an anchor gave it and its tag. -/
inductive Node where
  | alias (slot : Nat)
  | scalar (slot : Option Nat) (tag : Option String) (text : String) (style : ScalarStyle)
  | sequence (slot : Option Nat) (tag : Option String) (items : List Node)
  | mapping (slot : Option Nat) (tag : Option String) (entries : List (Node × Node))
  deriving Repr, Inhabited

namespace Node

/-- A node that nothing is written for. -/
def empty : Node := .scalar none none "" .plain

mutual

/-- The nodes that have a slot, in the order in which they start. -/
def anchored : Node → List (Nat × Node)
  | .alias _ => []
  | .scalar slot tag text style => (slot.map fun n => (n, Node.scalar slot tag text style)).toList
  | .sequence slot tag items =>
    (slot.map fun n => (n, Node.sequence slot tag items)).toList ++ anchoredItems items
  | .mapping slot tag entries =>
    (slot.map fun n => (n, Node.mapping slot tag entries)).toList ++ anchoredEntries entries

def anchoredItems : List Node → List (Nat × Node)
  | [] => []
  | item :: rest => item.anchored ++ anchoredItems rest

def anchoredEntries : List (Node × Node) → List (Nat × Node)
  | [] => []
  | (key, value) :: rest => key.anchored ++ value.anchored ++ anchoredEntries rest

/-- The weight of a node: two for a sequence or a mapping, one for anything else. -/
def weight : Node → Nat
  | .alias _ => 1
  | .scalar .. => 1
  | .sequence _ _ items => 2 + weightItems items
  | .mapping _ _ entries => 2 + weightEntries entries

def weightItems : List Node → Nat
  | [] => 0
  | item :: rest => item.weight + weightItems rest

def weightEntries : List (Node × Node) → Nat
  | [] => 0
  | (key, value) :: rest => key.weight + value.weight + weightEntries rest

end

end Node

/-! ## From tokens to nodes -/

/-- What is left of the tokens, the tag handles in force, and the slots of the anchors so far. -/
structure Parse where
  /-- What was not read yet. -/
  tokens : List Token
  /-- What the handles of tags stand for. -/
  handles : List (String × String) := []
  /-- The places of the anchors that were met. -/
  slots : List (String × Nat) := []

namespace Parse

/-- A step of parsing, which fails on tokens that no node begins with. -/
abbrev Step := StateT Parse Option

def peek : Step (Option Token) := do return (← get).tokens.head?

def skip : Step Unit := modify fun s => { s with tokens := s.tokens.drop 1 }

/-- Whether the next token is `token`, which is then skipped. -/
def skipIf (token : Token) : Step Bool := do
  if (← peek) == some token then
    skip
    return true
  else return false

/-- Whether the next token is one of `tokens`. -/
def atAny (tokens : List Token) : Step Bool := do
  return ((← peek).map tokens.contains).getD false

def fail : Step α := fun _ => none

/-- Gives the name of an anchor its slot. -/
def place (name : String) : Step Nat := do
  let s ← get
  let slot := s.slots.length
  set { s with slots := (name, slot) :: s.slots.filter (·.1 != name) }
  return slot

/-- The slot of the anchor that an alias names. -/
def find (name : String) : Step Nat := do
  match (← get).slots.lookup name with
  | some slot => return slot
  | none => fail

/-- The tag that a handle and a suffix write. -/
def expand (handle suffix : String) : Step String := do
  if handle.isEmpty then return suffix
  else
    match (← get).handles.lookup handle with
    | some expansion => return expansion ++ suffix
    | none => fail

def anchor? : Step (Option Nat) := do
  match ← peek with
  | some (.anchor name) =>
    skip
    return some (← place name)
  | _ => return none

def tag? : Step (Option String) := do
  match ← peek with
  | some (.tag handle suffix) =>
    skip
    return some (← expand handle suffix)
  | _ => return none

/-- The anchor and the tag of a node, in either order. -/
def marks : Step (Option Nat × Option String) := do
  let before ← anchor?
  let tag ← tag?
  let slot ← if before.isNone && tag.isSome then anchor? else pure before
  return (slot, tag)

mutual

/-- A node. `block` admits blocks, and `indentless` a sequence at the indentation of its parent. -/
def node : Nat → (block indentless : Bool) → Step Node
  | 0, _, _ => fail
  | fuel + 1, block, indentless => do
    if let some (.alias name) ← peek then
      skip
      return .alias (← find name)
    let (slot, tag) ← marks
    match ← peek with
    | some .entry =>
      if indentless then return .sequence slot tag (← indentlessItems fuel)
      else if slot.isSome || tag.isSome then return .scalar slot tag "" .plain
      else fail
    | some (.scalar text style) =>
      skip
      return .scalar slot tag text style
    | some .flowSequence =>
      skip
      return .sequence slot tag (← flowItems fuel true)
    | some .flowMapping =>
      skip
      return .mapping slot tag (← flowEntries fuel true)
    | some .blockSequence =>
      if block then
        skip
        return .sequence slot tag (← blockItems fuel)
      else if slot.isSome || tag.isSome then return .scalar slot tag "" .plain
      else fail
    | some .blockMapping =>
      if block then
        skip
        return .mapping slot tag (← blockEntries fuel)
      else if slot.isSome || tag.isSome then return .scalar slot tag "" .plain
      else fail
    | _ =>
      if slot.isSome || tag.isSome then return .scalar slot tag "" .plain
      else fail

/-- A node, or an empty one before a token that ends it. -/
def nodeUnless : Nat → List Token → (block indentless : Bool) → Step Node
  | 0, _, _, _ => fail
  | fuel + 1, ends, block, indentless => do
    if ← atAny ends then return .empty else node fuel block indentless

/-- The items of a block sequence. -/
def blockItems : Nat → Step (List Node)
  | 0 => fail
  | fuel + 1 => do
    if ← skipIf .entry then
      let item ← nodeUnless fuel [.entry, .blockEnd] true false
      return item :: (← blockItems fuel)
    else if ← skipIf .blockEnd then return []
    else fail

/-- The items of a sequence at the indentation of its parent, which no token ends. -/
def indentlessItems : Nat → Step (List Node)
  | 0 => fail
  | fuel + 1 => do
    if ← skipIf .entry then
      let item ← nodeUnless fuel [.entry, .key, .value, .blockEnd] true false
      return item :: (← indentlessItems fuel)
    else return []

/-- The entries of a block mapping. -/
def blockEntries : Nat → Step (List (Node × Node))
  | 0 => fail
  | fuel + 1 => do
    let ends := [Token.key, .value, .blockEnd]
    if ← skipIf .key then
      let key ← nodeUnless fuel ends true true
      let value ←
        if ← skipIf .value then nodeUnless fuel ends true true
        else pure Node.empty
      return (key, value) :: (← blockEntries fuel)
    else if ← skipIf .blockEnd then return []
    else fail

/-- The items of a sequence between brackets. -/
def flowItems : Nat → (first : Bool) → Step (List Node)
  | 0, _ => fail
  | fuel + 1, first => do
    if ← skipIf .flowSequenceEnd then return []
    if !first then
      if !(← skipIf .separator) then fail
    if ← skipIf .key then
      let ends := [Token.separator, .flowSequenceEnd]
      let key ←
        if ← atAny (.value :: ends) then
          -- The token that ends the empty key is dropped, even if it is the mark of the value.
          skip
          pure Node.empty
        else node fuel false false
      let value ←
        if ← skipIf .value then nodeUnless fuel ends false false
        else pure Node.empty
      return .mapping none none [(key, value)] :: (← flowItems fuel false)
    else if ← skipIf .flowSequenceEnd then return []
    else
      let item ← node fuel false false
      return item :: (← flowItems fuel false)

/-- The entries of a mapping between braces. -/
def flowEntries : Nat → (first : Bool) → Step (List (Node × Node))
  | 0, _ => fail
  | fuel + 1, first => do
    if ← skipIf .flowMappingEnd then return []
    if !first then
      if !(← skipIf .separator) then fail
    let ends := [Token.separator, .flowMappingEnd]
    if ← skipIf .key then
      let key ← nodeUnless fuel (.value :: ends) false false
      let value ←
        if ← skipIf .value then nodeUnless fuel ends false false
        else pure Node.empty
      return (key, value) :: (← flowEntries fuel false)
    else if ← skipIf .flowMappingEnd then return []
    else
      let key ← node fuel false false
      return (key, .empty) :: (← flowEntries fuel false)

end

/-- The directives before a document: whether a version was given, and the tag handles. -/
def directives : Nat → Bool → List (String × String) → Step (Bool × List (String × String))
  | 0, _, _ => fail
  | fuel + 1, version, handles => do
    match ← peek with
    | some (.version major minor) =>
      if version || major != 1 || (minor != 1 && minor != 2) then fail
      else
        skip
        directives fuel true handles
    | some (.handle handle expansion) =>
      if handles.any (·.1 == handle) then fail
      else
        skip
        directives fuel version ((handle, expansion) :: handles)
    | _ => return (version, handles)

/-- The handles that need no directive. -/
def standardHandles : List (String × String) := [("!", "!"), ("!!", "tag:yaml.org,2002:")]

/-- Whether a token can only stand between documents. -/
def isMargin : Token → Bool
  | .version .. | .handle .. | .documentStart | .documentEnd => true
  | _ => false

/-- Skips marks of the end of a document. -/
def skipEnds : List Token → List Token
  | .documentEnd :: rest => skipEnds rest
  | tokens => tokens

/-- The only document of a text, if it holds one, and nothing after it. -/
def document : Step (Option Node) := do
  let fuel := 3 * (← get).tokens.length + 8
  match ← peek with
  | none => return none
  | some first =>
    let explicit := isMargin first && first != .documentEnd
    let root ←
      if explicit then do
        let (_, handles) ← directives fuel false []
        modify fun s => { s with handles := handles ++ standardHandles }
        if !(← skipIf .documentStart) then fail
        match ← peek with
        | some next => if isMargin next then pure Node.empty else node fuel true false
        | none => pure Node.empty
      else do
        modify fun s => { s with handles := standardHandles }
        node fuel true false
    if (skipEnds (← get).tokens).isEmpty then return some root else fail

end Parse

/-- The document of a text: `none` if it holds none, and no result if it is not YAML. -/
def document? (text : String) : Option (Option Node) := do
  let tokens ← tokens? text
  let (root, _) ← Parse.document { tokens }
  some root

end TextVec.Yaml
