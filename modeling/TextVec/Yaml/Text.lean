import TextVec.Yaml.Read

/-!
# Settings from YAML texts

Typed readings of the nodes of a text. A setting that is a text is the text of its scalar, whatever
the scalar would stand for elsewhere. Settings that are not known are not read at all.
-/

namespace TextVec.Yaml

/-- A document as it is read: its nodes that have slots, the later ones first. -/
abbrev Anchored := List (Nat × Node)

namespace Node

/-- The node that an alias stands for, or the node itself. -/
def resolved (anchored : Anchored) : Node → Node
  | .alias slot => (anchored.lookup slot).getD .empty
  | node => node

/-- The text of a scalar. -/
def text? (anchored : Anchored) (node : Node) : Option String :=
  match node.resolved anchored with
  | .scalar _ _ text _ => some text
  | _ => none

/-- A truth value. -/
def bool? (anchored : Anchored) (node : Node) : Option Bool :=
  match node.resolved anchored with
  | .scalar _ tag text style =>
    if style = .plain || (style = .literal && tag == some "tag:yaml.org,2002:bool") then
      boolOfWord? text
    else none
  | _ => none

/-- What `read` reads, or nothing for null; no result if neither is there. -/
def option? (anchored : Anchored) (read : Node → Option α) (node : Node) : Option (Option α) :=
  match node.resolved anchored with
  | .scalar _ tag text .plain =>
    match tag with
    | none => if text.isEmpty || isNullWord text then some none else (read node).map some
    | some tag =>
      if tag == "tag:yaml.org,2002:null" then if isNullWord text then some none else none
      else (read node).map some
  | _ => (read node).map some

/-- The entries of a mapping. A node that nothing is written for has none. -/
def entries? : Node → Option (List (Node × Node))
  | .mapping _ _ entries => some entries
  | .scalar _ _ text style => if text.isEmpty && style = .plain then some [] else none
  | _ => none

end Node

/-- Reads a record, field by field from `start` on. A text without a document has no fields. -/
def readFields? (step : Anchored → σ → String → Node → Option σ) (start : σ) (text : String) :
    Option σ := do
  match ← document? text with
  | none => some start
  | some root =>
    let anchored := root.anchored.reverse
    (← root.entries?).foldlM (fun fields entry => do
      step anchored fields (← entry.1.text? anchored) entry.2) start

end TextVec.Yaml
