import TextVec.Text.Quoted
import TextVec.Yaml.Print

/-!
# Inspected values

The form in which a message shows a YAML value: every value with the name of its kind, except that a
scalar key of a mapping stands alone.
-/

namespace TextVec.Yaml

/-- A list between two marks. -/
def enclosed (opening : String) (items : List String) (closing : String) : String :=
  opening ++ ", ".intercalate items ++ closing

mutual

/-- The inspected form of a value. -/
def inspect : Value → String
  | .null => "Null"
  | .bool b => "Bool(" ++ (if b then "true" else "false") ++ ")"
  | .number n => "Number(" ++ n.text ++ ")"
  | .string text => "String(" ++ Text.quoted text ++ ")"
  | .sequence items => enclosed "Sequence [" (inspectItems items) "]"
  | .mapping entries => enclosed "Mapping \x7b" (inspectEntries entries) "\x7d"
  | .tagged name value =>
    "TaggedValue \x7b tag: !" ++ name ++ ", value: " ++ inspect value ++ " \x7d"

def inspectItems : List Value → List String
  | [] => []
  | item :: rest => inspect item :: inspectItems rest

def inspectEntries : List (Value × Value) → List String
  | [] => []
  | (key, value) :: rest =>
    let shown := match key with
      | .bool b => if b then "true" else "false"
      | .number n => n.text
      | .string text => Text.quoted text
      | key => inspect key
    (shown ++ ": " ++ inspect value) :: inspectEntries rest

end

end TextVec.Yaml
