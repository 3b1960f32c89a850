import TextVec.Yaml.Node
import TextVec.Yaml.Plain

/-!
# Reading YAML values

The value of a YAML text. A tag of the program's own becomes part of the value; the standard tags
for truth values, numbers and null demand a scalar of their kind, and any other tag makes a scalar a
string. Nesting is limited, and so is the number of aliases that are followed.
-/

namespace TextVec.Yaml

/-- The name that a tag gives a value, if the tag is one of the program's own. -/
def tagName? (tag : String) : Option String :=
  let bare := fun (cs : List Char) => match cs with
    | '!' :: c :: rest => c :: rest
    | cs => cs
  match tag.toList with
  | '!' :: rest => some (String.ofList (bare (bare ('!' :: rest))))
  | _ => none

/-- The value of a scalar that stands for itself, if a value can have its size. -/
def plainValue? (text : String) : Option Value :=
  match resolve text with
  | .value value => some value
  | .tooLarge => none
  | .text => some (.string text)

/-- The value of a scalar under a standard tag. -/
def standardValue? (tag text : String) : Option Value :=
  if tag == "tag:yaml.org,2002:bool" then (boolOfWord? text).map .bool
  else if tag == "tag:yaml.org,2002:int" then
    match (wholeNumber? text.toList).bind resolveWhole with
    | some (.value value) => some value
    | _ => none
  else if tag == "tag:yaml.org,2002:float" then
    (double? text.toList).map fun x => .number (.float x)
  else if tag == "tag:yaml.org,2002:null" then if isNullWord text then some .null else none
  else some (.string text)

/-- The value of a scalar. -/
def scalarValue? (tag : Option String) (text : String) (style : ScalarStyle) : Option Value :=
  let content := if style = .plain then plainValue? text else some (.string text)
  match tag with
  | none => content
  | some tag =>
    match tagName? tag with
    | some name => content.map (.tagged name)
    | none => standardValue? tag text

/-- A value under the tag of its sequence or mapping. -/
def withTag (tag : Option String) (value : Value) : Value :=
  match tag.bind tagName? with
  | some name => .tagged name value
  | none => value

/-- Whether every key differs from those before it. -/
def keysDiffer : Mapping → Bool
  | [] => true
  | (key, _) :: rest => !Mapping.hasKey rest key && keysDiffer rest

/-- What reading a document goes by: the nodes that aliases stand for, and how many more of them may
be followed. -/
abbrev Reading := StateT Nat Option

/-- The node that an alias stands for, or the node itself. -/
def follow (anchored : List (Nat × Node)) : Node → Reading Node
  | .alias slot => do
    let left ← get
    if left = 0 then fun _ => none
    else
      set (left - 1)
      match anchored.lookup slot with
      | some node => return node
      | none => fun _ => none
  | node => return node

/-- The value of a node in which sequences and mappings may nest `depth` deep. -/
def valueOf (anchored : List (Nat × Node)) : (depth : Nat) → Node → Reading Value
  | 0, node => do
    match ← follow anchored node with
    | .scalar _ tag text style => fun left => (scalarValue? tag text style).map (·, left)
    | _ => fun _ => none
  | depth + 1, node => do
    match ← follow anchored node with
    | .scalar _ tag text style => fun left => (scalarValue? tag text style).map (·, left)
    | .sequence _ tag items =>
      return withTag tag (.sequence (← items.mapM (valueOf anchored depth)))
    | .mapping _ tag entries => do
      let entries ← entries.mapM fun entry => do
        let key ← valueOf anchored depth entry.1
        return (key, ← valueOf anchored depth entry.2)
      if keysDiffer entries then return withTag tag (.mapping entries) else fun _ => none
    | .alias _ => fun _ => none

/-- How deep sequences and mappings may nest. -/
def nestingLimit : Nat := 128

/-- The value of a document. Each of its nodes allows for a hundred aliases. -/
def documentValue? (root : Node) : Option Value :=
  ((valueOf root.anchored.reverse nestingLimit root).run (100 * root.weight)).map (·.1)

/-- The value of a YAML text. A text without a document is null. -/
def Value.read? (text : String) : Option Value := do
  match ← document? text with
  | none => some .null
  | some root => documentValue? root

/-- The entries of a YAML text that is a mapping, whatever its tag. A text without a document has
none, nor has one in which nothing is written for it. -/
def Mapping.read? (text : String) : Option Mapping := do
  match ← document? text with
  | none => some []
  | some (.scalar _ _ text style) => if text.isEmpty && style = .plain then some [] else none
  | some root =>
    match (← documentValue? root).untagged with
    | .mapping entries => some entries
    | _ => none

end TextVec.Yaml
