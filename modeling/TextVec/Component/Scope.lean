import TextVec.Component.Basic

/-!
# Scopes

Using a component in a scope closes it once, however the use ends. A scope that is finished reports
how the closing went; one that is left can only log a failure of it. Either way the scope is dropped
in the end, and what was closed by then is not closed again.
-/

namespace TextVec.Component

/-- A component in use, and whether the scope has closed it. -/
structure Scope (α : Type) where
  /-- The component that is used in it. -/
  component : α
  /-- Whether it was closed by finishing the scope. -/
  closed : Bool := false

variable {α Config State : Type} [Component α Config State]

/-- Drops a scope: a component that is still open is closed, and a failure of that is only
logged. -/
def Scope.drop (scope : Scope α) : α × List Event :=
  if scope.closed then (scope.component, [])
  else
    let step := close scope.component
    match step.result with
    | .ok () => (step.state, step.events)
    | .error failure =>
      (step.state, step.events ++ [.closeFailed (kind α) failure.message])

/-- Closes the component of a scope and reports how that went, and then drops the scope. -/
def Scope.finish (scope : Scope α) : Step α Unit :=
  let step := close scope.component
  let (component, events) := Scope.drop { component := step.state, closed := true }
  ⟨step.result, component, step.events ++ events⟩

/-- Ends a scope and reports how closing went. -/
def finish (component : α) : Step α Unit := Scope.finish { component }

/-- Leaves a scope: a failure to close is only logged. -/
def leave (component : α) : α × List Event := Scope.drop { component }

/-- Uses a component in a scope, which is finished. The failure of the use counts before that of the
closing. -/
def within {β : Type} (component : α) (use : α → Step α β) : Step α β :=
  let used := use component
  let closed := finish used.state
  let result := match used.result, closed.result with
    | .error failure, _ => .error failure
    | .ok _, .error failure => .error failure
    | .ok value, .ok () => .ok value
  ⟨result, closed.state, used.events ++ closed.events⟩

/-- Trains a component by fitting it. A component that was trained before says so first; a failure
to fit leaves it as it was. -/
def train (component : α) (fit : α → Step α Unit) : Step α Unit :=
  let warned := if (properties component).isTrained then [Event.retraining (kind α)] else []
  let fitted := fit component
  match fitted.result with
  | .error failure => ⟨.error failure, fitted.state, warned ++ fitted.events⟩
  | .ok () =>
    let component := fitted.state
    ⟨.ok (), withProperties component { properties component with isTrained := true },
      warned ++ fitted.events ++ [.trained (kind α)]⟩

end TextVec.Component
