import TextVec.Component.Failure

/-!
# Captured arguments

Every component keeps the arguments it was made with as a mapping, in the order of their first
capture. A component may also keep positional and keyword arguments beside those of its
configuration, under two keys of their own.
-/

namespace TextVec

open Yaml (Value Mapping)

/-- Positional and keyword arguments that the configuration does not have. -/
structure RawArguments where
  /-- Those without a name. -/
  args : List Value := []
  /-- Those with a key, which need not be a text. -/
  kwargs : Mapping := []
  deriving Repr, Inhabited

/-- The key of the positional arguments. -/
def argsKey : String := "args"

/-- The key of the keyword arguments. -/
def kwargsKey : String := "kwargs"

/-- The mapping that a section or an argument holds; null is an empty one. -/
def mappingOr (why : String → Misconfiguration) : Value → Result Mapping
  | .mapping entries => .ok entries
  | .null => .ok []
  | value => .error (.misconfigured (why value.kindName))

namespace RawArguments

/-- Puts those arguments that are there under their keys. -/
def store (raw : RawArguments) (named : Mapping) : Mapping :=
  let named := if raw.args.isEmpty then named else Mapping.put named argsKey (.sequence raw.args)
  if raw.kwargs.isEmpty then named else Mapping.put named kwargsKey (.mapping raw.kwargs)

/-- The positional arguments that a value stands for. -/
def positional : Value → List Value
  | .sequence items => items
  | .null => []
  | value => [value]

/-- Splits stored arguments into those of the configuration and the others. -/
def collect : Mapping → Mapping → RawArguments → Result (Mapping × RawArguments)
  | [], named, raw => .ok (named, raw)
  | (key, value) :: rest, named, raw =>
    if key.text? == some argsKey then collect rest named { raw with args := positional value }
    else if key.text? == some kwargsKey then do
      let kwargs ← mappingOr .keywordsNotMapping value
      collect rest named { raw with kwargs }
    else collect rest (Mapping.insert named key value) raw

/-- Splits stored arguments into named ones and the others. Keyword arguments are also named ones,
unless the configuration has the same name. -/
def split (stored : Mapping) : Result (Mapping × RawArguments) := do
  let (named, raw) ← collect stored [] {}
  return (Mapping.overlay raw.kwargs named, raw)

end RawArguments

/-- The arguments that a configuration and raw arguments make; the latter count only if `storesRaw`
says so. -/
def capture (configuration : Value) (raw : RawArguments) (storesRaw : Bool) : Result Mapping := do
  let named ← mappingOr .notMapping configuration
  return if storesRaw then raw.store named else named

end TextVec
