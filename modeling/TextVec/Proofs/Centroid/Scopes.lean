import TextVec.Proofs.Centroid.Document
import TextVec.Proofs.Component.Scopes

/-!
# Scopes of centroids and encoders

A centroid counts how often it was closed, and its closing can be made to fail, so that it shows
what scopes do: each of them closes once, whatever fails. An encoder has no table then.
-/

namespace TextVec

open Component (Call Counted Made Ran Script)

namespace Centroid

/-- An operation of a centroid with its result, which is a number at most. -/
def answer (action : Action) (c : Centroid) : Step Centroid (Option Double) :=
  match action with
  | .train rows => ⟨(c.train rows).result.map fun _ => none, (c.train rows).state,
      (c.train rows).events⟩
  | .distance point => ⟨(c.distance point).map some, c, []⟩
  | .failToClose value => ⟨.ok none, { c with failsToClose := value }, []⟩

/-- With its result, an operation does what it does without. -/
theorem state_answer (action : Action) (c : Centroid) : (answer action c).state = act action c := by
  cases action <;> rfl

/-- A script for a centroid. -/
abbrev Script := Component.Script CentroidConfig Action Double

/-- A centroid that was made was not closed yet. -/
theorem closes_of_made {c : Centroid} (h : Made c) : c.closes = 0 := by
  cases h with
  | constructed h =>
    cases h with
    | built h =>
      obtain ⟨-, rfl⟩ := build_eq_ok_iff.mp h
      rfl
    | loaded h =>
      obtain ⟨_, _, _, _, -, -, -, -, -, rfl⟩ := ofBody_eq_ok_iff.mp h
      rfl
  | restored h =>
    -- The count is no part of a state, so it begins again.
    obtain ⟨-, -, state, _, _, -, -, hRestored⟩ := Component.ofEnvelope_eq_ok_iff.mp h
    cases hRestored
    rfl

/-- An operation counts if it closes the centroid, and only then. -/
theorem closes_operate (c : Centroid) (operation : Operation) :
    (Component.operate answer c operation).state.closes = c.closes + operation.calls.length := by
  rw [Component.state_operate]
  cases operation with
  | own action =>
    show (answer action c).state.closes = c.closes
    rw [state_answer]
    cases action with
    | train rows =>
      show (c.train rows).state.closes = c.closes
      -- Training moves the centroid or does nothing; neither closes it.
      rcases c.train_cases rows with ⟨mean, -, -, state⟩ | ⟨failure, -, state⟩ <;> rw [state]
    | distance point => rfl
    | failToClose value => rfl
  | _ => rfl

end Centroid

/-- **Scopes close exactly once.** In a run of any component, in which anything may fail, closing is
done once for each call to close it and once for each scope: a component that counts goes through
the same run, and a centroid counts by itself. A scope gives the failure of what was done in it, or
else that of closing; finishing gives the result of closing, and dropping a scope leaves the result
of what was done in it alone. At the end of a scope no encoder has a table. -/
theorem scopes_close_once :
    (∀ {α Config State Own Reply : Type} [Component α Config State]
      (act : Own → α → Step α (Option Reply)) (script : Script Config Own Reply) (component : α),
      let ran := script.run act component
      let counted := script.run (Counted.act act) { component }
      counted.result = ran.result ∧ counted.events = ran.events ∧ counted.calls = ran.calls ∧
        counted.state = ⟨ran.state, ran.closings⟩) ∧
    (∀ (script : Centroid.Script) (c : Centroid), Made c →
      (script.run Centroid.answer c).state.closes =
        (script.run Centroid.answer c).closings) ∧
    (∀ {α Config State β : Type} [Component α Config State] (component : α) (use : α → Step α β),
      let used := use component
      let closed := Component.close used.state
      (Component.finish used.state).result = closed.result ∧
      (∀ failure, used.result = .error failure →
        (Component.within component use).result = .error failure) ∧
      (∀ value failure, used.result = .ok value → closed.result = .error failure →
        (Component.within component use).result = .error failure) ∧
      ∀ value, used.result = .ok value → closed.result = .ok () →
        (Component.within component use).result = .ok value) ∧
    (∀ {α Config State Own Reply : Type} [Component α Config State]
      (act : Own → α → Step α (Option Reply)) (body : Script Config Own Reply)
      (next : Result (Option Reply) → Script Config Own Reply) (component : α),
      let used := body.run act component
      ((Script.dropped body next).run act component).result =
        ((next used.result).run act (Component.close used.state).state).result) ∧
    ∀ {Own Reply : Type} (act : Own → Encoder → Step Encoder (Option Reply))
      (script : Script GivenConfig Own Reply) (e : Encoder),
      ∀ ended ∈ (script.run act e).ends, ended.isLoaded = false := by
  refine ⟨?_, ?_, ?_, ?_, ?_⟩
  · intro α Config State Own Reply _ act script component
    have mirrors := Counted.mirrors_run act script { component }
    exact ⟨mirrors.result, mirrors.events, mirrors.calls, Counted.state_run act script component⟩
  · intro script c made
    have closes := Component.closes_run Centroid.closes Centroid.closes_operate script c
    -- It begins at zero, so what the run adds is all there is.
    rw [Centroid.closes_of_made made, Nat.zero_add, Ran.length_calls] at closes
    exact closes
  · intro α Config State β _ component use used closed
    have finished := Component.finish_eq_close used.state
    exact ⟨congrArg Step.result finished, fun failure => Component.result_within_of_failed,
      fun value failure => Component.result_within_of_not_closed,
      fun value => Component.result_within_of_closed⟩
  · intro α Config State Own Reply _ act body next component
    exact Component.result_run_dropped act body next component
  · intro Own Reply act script e
    refine Component.forall_ends_run (P := fun e => Encoder.isLoaded e = false) ?_ script e
    intro e
    show e.close.state.isLoaded = false
    rw [e.close_state]
    rfl

/-- Closing fails. In a scope that is dropped another one asks a centroid for a distance which it
cannot tell, and in a scope that is finished the centroid is closed already. -/
theorem scopes_close_once_failing :
    let c := Centroid.fresh {} { dims := 2 }
    let script : Centroid.Script :=
      .operate (.own (.failToClose true)) fun _ =>
        .dropped (.within (.operate (.own (.distance [])) .done) .done) fun asked =>
          .finished (.operate .close .done) fun _ _ => .done asked
    Made c ∧
      (script.run Centroid.answer c).calls = [.scope, .within, .scope, .close] ∧
      (script.run Centroid.answer c).state.closes = 4 ∧
      (script.run Centroid.answer c).result = .error (.untrained "distance") := by
  intro c script
  have built : Component.build {} { dims := 2 } {} = .ok c :=
    Centroid.build_eq_ok_iff.mpr ⟨by decide, rfl⟩
  have made : Made c := .constructed (.built built)
  refine ⟨made, rfl, ?_, rfl⟩
  rw [scopes_close_once.2.1 script c made]
  rfl

end TextVec
