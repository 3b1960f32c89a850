import TextVec.Component.Storage
import TextVec.Component.Scope

/-!
# Runs of components

A component comes from a configuration, from a document or from an envelope. After that it is
operated on, in any order and any number of times, where operations may fail. A property that every
operation keeps is kept by every run.

Using a component in a scope is no operation of its own: it is what is done in the scope, and then
closing the component.
-/

namespace TextVec.Component

/-- What is done to a component: what all kinds allow, or something of the kind itself. -/
inductive Operation (Config Own : Type) where
  /-- Captures other arguments than those of its configuration. -/
  | recapture (config : Config) (raw : RawArguments)
  | setTrained (value : Bool)
  | setBatchSize (value : Option UInt64)
  /-- Gives it other handles. -/
  | attach (settings : HandleSettings)
  | close
  /-- Something that only the kind allows. -/
  | own (operation : Own)

/-- Whether an operation captures arguments without configuring the component again. -/
def Operation.isRecapture {Config Own : Type} : Operation Config Own → Bool
  | .recapture .. => true
  | _ => false

section

variable {α Config State Own : Type} [Component α Config State]

/-! ## Where components come from -/

/-- A component that was made by its constructor, directly or for a document. -/
inductive Constructed : α → Prop where
  /-- It was built directly. -/
  | built {environment : Environment} {config : Config} {raw : RawArguments} {component : α}
      (h : build environment config raw = .ok component) : Constructed component
  /-- It was built for a document. -/
  | loaded {settings : HandleSettings} {sections : Yaml.Mapping} {component : α}
      (h : ofBody α settings sections = .ok component) : Constructed component

/-- A component that was constructed, or restored from an envelope. -/
inductive Made : α → Prop where
  /-- It was made by its constructor. -/
  | constructed {component : α} (h : Constructed component) : Made component
  /-- It was restored without it. -/
  | restored {settings : HandleSettings} {e : Envelope} {component : α}
      (h : ofEnvelope α settings e = .ok component) : Made component

/-! ## What happens to them -/

/-- The component after an operation, which may have failed. What an operation of the kind itself
does is `act`. -/
def perform (act : Own → α → α) (component : α) : Operation Config Own → α
  | .recapture config raw => (recapture component config raw).state
  | .setTrained value =>
    withProperties component { properties component with isTrained := value }
  | .setBatchSize value =>
    withProperties component { properties component with batchSize := value }
  | .attach settings => attach component settings
  | .close => (close component).state
  | .own operation => act operation component

/-- The component after a run of operations. -/
def run (act : Own → α → α) (component : α) (operations : List (Operation Config Own)) : α :=
  operations.foldl (perform act) component

/-- Leaving a scope closes the component, whether that is reported or not. -/
theorem state_leave (component : α) : (leave component).1 = (close component).state := by
  simp only [leave, Scope.drop, Bool.false_eq_true, if_false]
  split <;> rfl

/-- What operations of some sort keep, a run of such operations keeps. -/
theorem run_induction {act : Own → α → α} {P : α → Prop} (allowed : Operation Config Own → Prop)
    (step : ∀ c operation, allowed operation → P c → P (perform act c operation))
    {component : α} {operations : List (Operation Config Own)}
    (all : ∀ operation ∈ operations, allowed operation) (start : P component) :
    P (run act component operations) := by
  -- The first operation is done first, so the rest begins with another component.
  induction operations generalizing component with
  | nil => exact start
  | cons operation rest ih =>
    have first : P (perform act component operation) :=
      step _ _ (all operation (List.mem_cons_self ..)) start
    exact ih (fun other h => all other (List.mem_cons_of_mem _ h)) first

end

end TextVec.Component
