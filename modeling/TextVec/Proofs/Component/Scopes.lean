import TextVec.Proofs.Component.Run
import TextVec.Proofs.Outcome

/-!
# Runs with scopes

A script says what is done to a component in scopes and outside of them, where every step may depend
on how those before it went. A run of it keeps account of all that should close the component: calls
to close it, and scopes. That the component is closed just as often is proved for any kind, by
running the script once more on a component that counts how often it is closed.
-/

namespace TextVec.Component

/-! ## Scripts -/

/-- What is done to a component. Scopes can be inside one another. -/
inductive Script (Config Own Reply : Type) where
  /-- Nothing more is done, and this is the result. -/
  | done (result : Result (Option Reply))
  /-- An operation, and then what depends on how that went. -/
  | operate (operation : Operation Config Own)
      (next : Result (Option Reply) → Script Config Own Reply)
  /-- A scope that is dropped after `body`. -/
  | dropped (body : Script Config Own Reply)
      (next : Result (Option Reply) → Script Config Own Reply)
  /-- A scope that is finished after `body`. -/
  | finished (body : Script Config Own Reply)
      (next : Result (Option Reply) → Result Unit → Script Config Own Reply)
  /-- What is done inside of a scope that reports how both that and closing went. -/
  | within (body : Script Config Own Reply)
      (next : Result (Option Reply) → Script Config Own Reply)

/-- What should close a component, and only once. -/
inductive Call where
  /-- Closing itself. -/
  | close
  /-- A scope that is dropped or finished. -/
  | scope
  /-- Something done inside of a scope. -/
  | within
  deriving DecidableEq

/-- The calls that an operation is. -/
def Operation.calls {Config Own : Type} : Operation Config Own → List Call
  | .close => [.close]
  | _ => []

/-- What a run gives: its result, the component after it and the reports, the calls that were made,
and the component at the end of every scope. -/
structure Ran (α β : Type) extends Step α β where
  /-- All that should have closed the component, in the order in which it was begun. -/
  calls : List Call
  /-- The component at the end of every scope, in the order in which these ended. -/
  ends : List α

/-- Puts before a run what happened earlier. -/
def Ran.after {α β : Type} (ran : Ran α β) (events : List Event) (calls : List Call)
    (ends : List α) : Ran α β :=
  { ran with events := events ++ ran.events, calls := calls ++ ran.calls, ends := ends ++ ran.ends }

/-- How often a component should be closed in a run. -/
def Ran.closings {α β : Type} (ran : Ran α β) : Nat :=
  ran.calls.count .close + ran.calls.count .scope + ran.calls.count .within

section

variable {α Config State Own Reply : Type} [Component α Config State]

/-- An operation with its result. What an operation of the kind itself does is `act`. -/
def operate (act : Own → α → Step α (Option Reply)) (component : α) :
    Operation Config Own → Step α (Option Reply)
  | .recapture config raw =>
    let step := recapture component config raw
    ⟨step.result.map fun _ => none, step.state, step.events⟩
  | .close =>
    let step := close component
    ⟨step.result.map fun _ => none, step.state, step.events⟩
  | .own operation => act operation component
  | operation => ⟨.ok none, perform (fun own c => (act own c).state) component operation, []⟩

/-- The run of a script. -/
def Script.run (act : Own → α → Step α (Option Reply)) :
    Script Config Own Reply → α → Ran α (Option Reply)
  | .done result, component => { result, state := component, calls := [], ends := [] }
  | .operate operation next, component =>
    let step := Component.operate act component operation
    ((next step.result).run act step.state).after step.events operation.calls []
  | .dropped body next, component =>
    let used := body.run act component
    let left := leave used.state
    ((next used.result).run act left.1).after (used.events ++ left.2) (.scope :: used.calls)
      (used.ends ++ [left.1])
  | .finished body next, component =>
    let used := body.run act component
    let ended := finish used.state
    ((next used.result ended.result).run act ended.state).after (used.events ++ ended.events)
      (.scope :: used.calls) (used.ends ++ [ended.state])
  | .within body next, component =>
    -- This is what is done inside; it is run again only to know which calls that made.
    let used := body.run act component
    let ended := Component.within component fun component => (body.run act component).toStep
    ((next ended.result).run act ended.state).after ended.events (.within :: used.calls)
      (used.ends ++ [ended.state])

/-- An operation does to a component what it does in a run without scopes. -/
theorem state_operate (act : Own → α → Step α (Option Reply)) (component : α)
    (operation : Operation Config Own) :
    (operate act component operation).state =
      perform (fun own c => (act own c).state) component operation := by
  cases operation <;> rfl

/-! ## How scopes end -/

/-- To finish a scope is to close its component: that the scope is dropped then does nothing
more. -/
theorem finish_eq_close (component : α) : finish component = close component := by
  simp only [finish, Scope.finish, Scope.drop, if_true, List.append_nil]

section

variable {β : Type} {component : α} {use : α → Step α β}

theorem state_within : (within component use).state = (close (use component).state).state := by
  simp only [within, finish_eq_close]

/-- The failure of what is done in a scope counts before that of closing. -/
theorem result_within_of_failed {failure : Failure}
    (failed : (use component).result = .error failure) :
    (within component use).result = .error failure := by
  simp only [within, failed]

/-- What was done without a failure fails nevertheless if closing does. -/
theorem result_within_of_not_closed {value : β} {failure : Failure}
    (used : (use component).result = .ok value)
    (failed : (close (use component).state).result = .error failure) :
    (within component use).result = .error failure := by
  simp only [within, used, finish_eq_close, failed]

/-- Only where closing succeeds as well, there is the value. -/
theorem result_within_of_closed {value : β} (used : (use component).result = .ok value)
    (closed : (close (use component).state).result = .ok ()) :
    (within component use).result = .ok value := by
  simp only [within, used, finish_eq_close, closed]

end

/-- What follows a scope that is dropped meets a closed component, and the result of what was done
in the scope, however closing went. -/
theorem result_run_dropped (act : Own → α → Step α (Option Reply))
    (body : Script Config Own Reply) (next : Result (Option Reply) → Script Config Own Reply)
    (component : α) :
    ((Script.dropped body next).run act component).result =
      ((next (body.run act component).result).run act
        (close (body.run act component).state).state).result := by
  rw [← state_leave]
  rfl

/-! ## How often a component is closed -/

/-- Every call is of one of the three sorts. -/
theorem Ran.length_calls {α β : Type} (ran : Ran α β) : ran.calls.length = ran.closings := by
  unfold closings
  induction ran.calls with
  | nil => rfl
  | cons call rest ih =>
    -- A call counts among its own sort and among no other.
    cases call <;>
      simp only [List.length_cons, List.count_cons, ih, beq_self_eq_true, beq_iff_eq, reduceCtorEq,
        if_true, if_false] <;>
      omega

/-- If closing counts once, and otherwise operations do not count, then in a run it counts once for
each call. -/
theorem closes_run {act : Own → α → Step α (Option Reply)} (closes : α → Nat)
    (counts : ∀ (c : α) (operation : Operation Config Own),
      closes (operate act c operation).state = closes c + operation.calls.length)
    (script : Script Config Own Reply) (component : α) :
    closes (script.run act component).state =
      closes component + (script.run act component).calls.length := by
  have once (c : α) : closes (close c).state = closes c + 1 := counts c .close
  -- Each way to go on does some of its calls first, and goes on with another component.
  induction script generalizing component with
  | done result => rfl
  | operate operation next ih =>
    simp only [Script.run, Ran.after, List.length_append]
    -- What an operation counts comes before what the rest counts.
    rw [ih, counts]
    omega
  | dropped body next ihBody ih =>
    simp only [Script.run, Ran.after, List.length_append, List.length_cons]
    rw [ih, state_leave, once, ihBody]
    omega
  | finished body next ihBody ih =>
    simp only [Script.run, Ran.after, List.length_append, List.length_cons]
    rw [ih, finish_eq_close, once, ihBody]
    omega
  | within body next ihBody ih =>
    simp only [Script.run, Ran.after, List.length_append, List.length_cons]
    rw [ih, state_within, once, ihBody]
    omega

/-- What closing brings about holds at the end of every scope. -/
theorem forall_ends_run {act : Own → α → Step α (Option Reply)} {P : α → Prop}
    (closed : ∀ c : α, P (close c).state) (script : Script Config Own Reply) (component : α) :
    ∀ c ∈ (script.run act component).ends, P c := by
  have left (c : α) : P (leave c).1 := by
    rw [state_leave]
    exact closed c
  -- The scopes inside of a scope end before it, and those that follow it end later.
  induction script generalizing component with
  | done result => exact fun c member => absurd member List.not_mem_nil
  | operate operation next ih => exact ih _ _
  | dropped body next ihBody ih =>
    simp only [Script.run, Ran.after, List.forall_mem_append, List.forall_mem_singleton]
    exact ⟨⟨ihBody _, left _⟩, ih _ _⟩
  | finished body next ihBody ih =>
    simp only [Script.run, Ran.after, List.forall_mem_append, List.forall_mem_singleton]
    exact ⟨⟨ihBody _, closed _⟩, ih _ _ _⟩
  | within body next ihBody ih =>
    simp only [Script.run, Ran.after, List.forall_mem_append, List.forall_mem_singleton]
    exact ⟨⟨ihBody _, closed _⟩, ih _ _⟩

end

/-! ## Counting for any kind -/

/-- A component with a count of how often it was closed. -/
@[ext]
structure Counted (α : Type) where
  /-- The component that is counted for. -/
  component : α
  /-- How often it was closed since the count began. -/
  closes : Nat := 0

namespace Counted

variable {α Config State Own Reply : Type} [Component α Config State]

/-- A step of the component, with the count after it. -/
def lift {β : Type} (step : Step α β) (closes : Nat) : Step (Counted α) β :=
  ⟨step.result, ⟨step.state, closes⟩, step.events⟩

instance : Component (Counted α) Config State where
  kind := kind α
  version := version α
  storesRaw := storesRaw α
  toYaml := toYaml α
  ofYaml := ofYaml α
  make config raw base := (make config raw base).map fun component => { component }
  base c := base c.component
  withBase c base := { c with component := withBase c.component base }
  snapshot c := snapshot c.component
  putState := putState α
  takeState := takeState α
  restore base state := (restore base state).map fun component => { component }
  close c := lift (close c.component) (c.closes + 1)

/-- An operation of the kind itself, which does not count. -/
def act (act : Own → α → Step α (Option Reply)) (operation : Own) (c : Counted α) :
    Step (Counted α) (Option Reply) :=
  lift (act operation c.component) c.closes

/-- An operation on a counted component is that on the component, and closing counts. -/
theorem operate_eq (act : Own → α → Step α (Option Reply)) (c : Counted α)
    (operation : Operation Config Own) :
    operate (Counted.act act) c operation =
      lift (operate act c.component operation) (c.closes + operation.calls.length) := by
  cases operation with
  | recapture config raw =>
    -- Capturing may fail, but then it fails for both.
    have same : captureFor (Counted α) config raw = captureFor α config raw := rfl
    simp only [operate, recapture, same]
    cases captureFor α config raw <;> rfl
  | _ => rfl

theorem finish_eq (c : Counted α) : finish c = lift (finish c.component) (c.closes + 1) := rfl

theorem leave_eq (c : Counted α) :
    leave c = (⟨(leave c.component).1, c.closes + 1⟩, (leave c.component).2) := by
  have closed : close c = lift (close c.component) (c.closes + 1) := rfl
  simp only [leave, Scope.drop, closed, lift, Bool.false_eq_true, if_false]
  cases (close c.component).result <;> rfl

/-- A run of a counted component is that of the component, but for the count. -/
structure Mirrors {β : Type} (counted : Ran (Counted α) β) (ran : Ran α β) : Prop where
  /-- It goes the same way. -/
  result : counted.result = ran.result
  /-- It leads to the same component. -/
  component : counted.state.component = ran.state
  /-- The same is reported. -/
  events : counted.events = ran.events
  /-- The same calls are made. -/
  calls : counted.calls = ran.calls

omit [Component α Config State] in
theorem Mirrors.after {β : Type} {counted : Ran (Counted α) β} {ran : Ran α β}
    (h : Mirrors counted ran) (events : List Event) (calls : List Call)
    (countedEnds : List (Counted α)) (ends : List α) :
    Mirrors (counted.after events calls countedEnds) (ran.after events calls ends) where
  result := h.result
  component := h.component
  events := congrArg (events ++ ·) h.events
  calls := congrArg (calls ++ ·) h.calls

/-- Counting has no part in how a script goes on. -/
theorem mirrors_run (act : Own → α → Step α (Option Reply)) (script : Script Config Own Reply)
    (c : Counted α) :
    Mirrors (script.run (Counted.act act) c) (script.run act c.component) := by
  -- What was done in a scope had the same result, so the same is done after it.
  induction script generalizing c with
  | done result => exact ⟨rfl, rfl, rfl, rfl⟩
  | operate operation next ih =>
    simp only [Script.run]
    rw [operate_eq]
    exact (ih _ _).after _ _ _ _
  | dropped body next ihBody ih =>
    -- Both continuations are given the same, since what was done inside went the same way.
    obtain ⟨result, component, events, calls⟩ := ihBody c
    simp only [Script.run, leave_eq, result, component, events, calls]
    exact (ih _ _).after _ _ _ _
  | finished body next ihBody ih =>
    obtain ⟨result, component, events, calls⟩ := ihBody c
    simp only [Script.run, finish_eq, lift, result, component, events, calls]
    exact (ih _ _ _).after _ _ _ _
  | within body next ihBody ih =>
    obtain ⟨result, component, events, calls⟩ := ihBody c
    simp only [Script.run, Component.within, finish_eq, lift, result, component, events, calls]
    exact (ih _ _).after _ _ _ _

/-- In a run of any component, closing is done once for each call. -/
theorem state_run (act : Own → α → Step α (Option Reply)) (script : Script Config Own Reply)
    (component : α) :
    (script.run (Counted.act act) { component }).state =
      ⟨(script.run act component).state, (script.run act component).closings⟩ := by
  have mirrors := mirrors_run act script { component }
  -- The count begins at zero and is one measure of those that grow with each call.
  have counts (c : Counted α) (operation : Operation Config Own) :
      (operate (Counted.act act) c operation).state.closes =
        c.closes + operation.calls.length := by
    rw [operate_eq]
    rfl
  have counted := closes_run Counted.closes counts script { component }
  rw [mirrors.calls, Ran.length_calls] at counted
  exact Counted.ext mirrors.component (counted.trans (Nat.zero_add _))

end Counted

end TextVec.Component
