import TextVec.Proofs.Component.Splitting
import TextVec.Proofs.Centroid.Trained
import TextVec.Proofs.Registry.Given
import TextVec.Proofs.Splat.RoundTrip
import TextVec.Proofs.Yaml.ReadKeys

/-!
# Capturing again and again

What is captured later is laid over what was captured before. So after any run the arguments of a
component have every key that ever was captured, at the place of its first capture and with the
value of its last one. In particular the raw arguments stay where later captures come without any.
-/

namespace TextVec

open Yaml (Value Mapping)

namespace Component

variable {α Config State Own : Type} [Component α Config State]

/-! ## What is captured -/

/-- The arguments that an operation captures, if it does. What an operation of the kind itself
captures is `own`. -/
def capturedBy (α : Type) {Config State Own : Type} [Component α Config State]
    (own : Own → Option Mapping) : Operation Config Own → Option Mapping
  | .recapture config raw => (captureFor α config raw).toOption
  | .own operation => own operation
  | _ => none

/-- A kind of which every configuration that can be written is a mapping without keys of raw
arguments, and which changes its captured arguments by capturing others only. -/
structure MergesArguments (act : Own → α → α) (own : Own → Option Mapping) : Prop
    extends KeepsHandles α where
  /-- What is written of a configuration is a mapping, without raw arguments in it. -/
  parameters : ∀ {config : Config} {value : Value}, toYaml α config = .ok value →
    ∃ parameters, value = .mapping parameters ∧ Yaml.keysDiffer parameters = true ∧
      ∀ entry ∈ parameters, RawArguments.isRaw entry = false
  /-- The constructor leaves the captured arguments as they are. -/
  arguments_make : ∀ {config : Config} {raw : RawArguments} {b : Base} {component : α},
    make config raw b = .ok component → (base component).arguments = b.arguments
  /-- So does restoring. -/
  arguments_restore : ∀ {b : Base} {state : State} {component : α},
    restore b state = .ok component → (base component).arguments = b.arguments
  /-- Closing has nothing to do with them. -/
  arguments_close : ∀ component : α,
    (base (close component).state).arguments = (base component).arguments
  /-- An operation of the kind itself lays what it captures over them. -/
  arguments_act : ∀ (operation : Own) (component : α),
    (base (act operation component)).arguments =
      (own operation).elim (base component).arguments
        (Mapping.overlay (base component).arguments)
  /-- What such an operation captures has no key twice. -/
  differ_own : ∀ {operation : Own} {captured : Mapping}, own operation = some captured →
    Yaml.keysDiffer captured = true

section

variable {act : Own → α → α} {own : Own → Option Mapping} (merges : MergesArguments act own)
include merges

/-- Arguments that are captured have no key twice. -/
theorem MergesArguments.differ_of_captureFor {config : Config} {raw : RawArguments}
    {captured : Mapping} (h : captureFor α config raw = .ok captured) :
    Yaml.Differ (Mapping.keys captured) := by
  unfold captureFor at h
  obtain ⟨value, written, h⟩ := Outcome.bind_eq_ok_iff.mp h
  obtain ⟨parameters, rfl, differ, plain⟩ := merges.parameters written
  rw [Mapping.keysDiffer_iff] at differ
  obtain rfl : (if storesRaw α then raw.store parameters else parameters) = captured :=
    Except.ok.inj h
  split
  · -- Both sorts of raw arguments are set like any other entry.
    have put {entries : Mapping} (differ : Yaml.Differ (Mapping.keys entries)) (name : String)
        (value : Value) : Yaml.Differ (Mapping.keys (Mapping.put entries name value)) :=
      Mapping.differ_overlay differ [(.string name, value)]
    unfold RawArguments.store
    split <;> split
    · exact differ
    · exact put differ _ _
    · exact put differ _ _
    · exact put (put differ _ _) _ _
  · exact differ

theorem MergesArguments.differ_capturedBy {operation : Operation Config Own} {captured : Mapping}
    (h : capturedBy α own operation = some captured) : Yaml.Differ (Mapping.keys captured) := by
  cases operation with
  | recapture config raw =>
    cases made : captureFor α config raw with
    | error failure => simp only [capturedBy, made, Except.toOption, reduceCtorEq] at h
    | ok other =>
      simp only [capturedBy, made, Except.toOption, Option.some.injEq] at h
      rw [← h]
      exact merges.differ_of_captureFor made
  | own operation => exact Mapping.keysDiffer_iff.mp (merges.differ_own h)
  | _ => cases h

/-! ## Where components come from -/

theorem MergesArguments.arguments_withBase (component : α) (b : Base) :
    (base (withBase component b)).arguments = b.arguments := by
  rw [merges.base_withBase]

/-- However a component is made, its arguments have no key twice. -/
theorem MergesArguments.differ_of_made {component : α} (made : Made component) :
    Yaml.Differ (Mapping.keys (base component).arguments) := by
  -- The one way to construct a component, used by itself and for documents.
  have built {environment : Environment} {config : Config} {raw : RawArguments} {component : α}
      (h : build environment config raw = .ok component) :
      Yaml.Differ (Mapping.keys (base component).arguments) := by
    unfold build at h
    obtain ⟨arguments, captured, h⟩ := Outcome.bind_eq_ok_iff.mp h
    rw [merges.arguments_make h]
    exact merges.differ_of_captureFor captured
  cases made with
  | constructed h =>
    cases h with
    | built h => exact built h
    | loaded h =>
      -- A component that is loaded is built, and then given handles and properties.
      obtain ⟨_, _, _, _, fresh, set, -, -, -, hFresh, -, rfl⟩ := ofBody_eq_ok_iff.mp h
      unfold withProperties
      rw [merges.arguments_withBase]
      unfold attach
      rw [merges.arguments_withBase]
      exact built hFresh
  | restored h =>
    obtain ⟨-, -, state, rest, arguments, -, read, restored⟩ := ofEnvelope_eq_ok_iff.mp h
    rw [merges.arguments_restore restored]
    exact Mapping.keysDiffer_iff.mp (Mapping.keysDiffer_of_read? read)

/-! ## Runs -/

/-- An operation lays what it captures over the arguments, or leaves them as they were. -/
theorem MergesArguments.arguments_perform (component : α) (operation : Operation Config Own) :
    (base (perform act component operation)).arguments =
      (capturedBy α own operation).elim (base component).arguments
        (Mapping.overlay (base component).arguments) := by
  cases operation with
  | recapture config raw =>
    cases made : captureFor α config raw with
    | error failure =>
      simp only [perform, recapture, capturedBy, made, Except.toOption, Option.elim_none]
    | ok captured =>
      simp only [perform, recapture, capturedBy, made, Except.toOption, Option.elim_some]
      rw [merges.arguments_withBase]
  | setTrained value => exact merges.arguments_withBase _ _
  | setBatchSize value => exact merges.arguments_withBase _ _
  | attach settings => exact merges.arguments_withBase _ _
  | close => exact merges.arguments_close component
  | own operation => exact merges.arguments_act operation component

/-- After a run the arguments are those from before it with everything that was captured laid over
them, one capture after the other. -/
theorem MergesArguments.arguments_run (component : α) (operations : List (Operation Config Own)) :
    (base (run act component operations)).arguments =
      (operations.filterMap (capturedBy α own)).foldl Mapping.overlay
        (base component).arguments := by
  induction operations generalizing component with
  | nil => rfl
  | cons operation rest ih =>
    have step := merges.arguments_perform component operation
    -- The rest of the run begins with what the first operation left.
    have onward := ih (perform act component operation)
    rw [step] at onward
    cases captured : capturedBy α own operation with
    | none =>
      rw [captured] at onward
      rw [List.filterMap_cons_none captured]
      exact onward
    | some entries =>
      rw [captured] at onward
      rw [List.filterMap_cons_some captured]
      exact onward

end

/-- A component whose arguments are, after any run, what was captured first and last: the keys of
all captures in the order of their first one, and under each of them what the last capture has that
has it. Capturing without raw arguments leaves those that were captured before. -/
structure RemembersCaptures (act : Own → α → α) (own : Own → Option Mapping) (component : α) :
    Prop where
  /-- Every key that ever was captured is there, at the place of its first capture. -/
  order : ∀ operations : List (Operation Config Own),
    Mapping.keys (base (run act component operations)).arguments =
      Yaml.firstOf (((base component).arguments ::
        operations.filterMap (capturedBy α own)).flatMap Mapping.keys)
  /-- Under it is what the last capture has that has it. -/
  latest : ∀ (operations : List (Operation Config Own)) (key : Value),
    Mapping.find? (base (run act component operations)).arguments key =
      ((base component).arguments :: operations.filterMap (capturedBy α own)).reverse.findSome?
        fun captured => Mapping.find? captured key
  /-- Capturing again without raw arguments does not take the old ones away. -/
  keepsRaw : ∀ (operations : List (Operation Config Own)) (config : Config) (name : String),
    name = argsKey ∨ name = kwargsKey →
      Mapping.find? (base (run act component (operations ++ [.recapture config {}]))).arguments
          (.string name) =
        Mapping.find? (base (run act component operations)).arguments (.string name)

/-- Capturing without raw arguments sets none of their two keys. -/
theorem MergesArguments.find?_capturedBy_raw {act : Own → α → α} {own : Own → Option Mapping}
    (merges : MergesArguments act own) {config : Config} {captured : Mapping}
    (h : capturedBy α own (.recapture config {}) = some captured) {name : String}
    (isName : name = argsKey ∨ name = kwargsKey) :
    Mapping.find? captured (.string name) = none := by
  cases written : toYaml α config with
  | error failure =>
    have same : captureFor α config {} = .error failure := by
      rw [captureFor, written]
      rfl
    simp only [capturedBy, same, Except.toOption, reduceCtorEq] at h
  | ok value =>
    obtain ⟨parameters, rfl, -, plain⟩ := merges.parameters written
    have same : captureFor α config {} = .ok parameters := by
      unfold captureFor capture
      rw [written]
      cases storesRaw α <;> rfl
    simp only [capturedBy, same, Except.toOption, Option.some.injEq] at h
    rw [← h, Mapping.find?_eq_none_iff]
    exact RawArguments.not_isAmong_of_not_raw plain isName

/-- A kind that merges its arguments remembers what was captured, wherever it comes from. -/
theorem MergesArguments.remembersCaptures {act : Own → α → α} {own : Own → Option Mapping}
    (merges : MergesArguments act own) {component : α} (made : Made component) :
    RemembersCaptures act own component where
  order operations := by
    rw [merges.arguments_run, Mapping.keys_foldl_overlay (merges.differ_of_made made),
      List.flatMap_cons]
  latest operations key := by
    rw [merges.arguments_run]
    refine Mapping.find?_foldl_overlay _ (fun captured member => ?_) key
    obtain ⟨operation, -, h⟩ := List.mem_filterMap.mp member
    exact merges.differ_capturedBy h
  keepsRaw operations config name isName := by
    have last : run act component (operations ++ [.recapture config {}]) =
        perform act (run act component operations) (.recapture config {}) := by
      simp [run]
    rw [last, merges.arguments_perform]
    cases captured : capturedBy α own (.recapture config {}) with
    | none => rfl
    | some entries =>
      rw [Option.elim_some, Mapping.find?_overlay _ (merges.differ_capturedBy captured),
        merges.find?_capturedBy_raw captured isName, Option.none_or]

end Component

/-! ## Every kind -/

theorem Centroid.mergesArguments : Component.MergesArguments Centroid.act fun _ => none where
  toKeepsHandles := Centroid.keepsHandles
  parameters {config _} h := by
    cases h
    refine ⟨Centroid.parameters config, rfl, ?_, ?_⟩
    · simp [Centroid.parameters, Yaml.keysDiffer, Mapping.hasKey, Value.same]
    · simp [Centroid.parameters, RawArguments.isRaw, Value.text?, Value.untagged, argsKey,
        kwargsKey]
  arguments_make h := congrArg Base.arguments (Centroid.base_of_make h)
  arguments_restore h := by
    cases h
    rfl
  arguments_close _ := rfl
  arguments_act action c := by
    cases action with
    | train rows =>
      show (c.train rows).state.base.arguments = c.base.arguments
      rcases c.train_cases rows with ⟨mean, -, -, state⟩ | ⟨failure, -, state⟩ <;> rw [state]
    | distance point => rfl
    | failToClose value => rfl
  differ_own h := by cases h

theorem Splat.mergesArguments : Component.MergesArguments Splat.act fun _ => none where
  toKeepsHandles := Splat.keepsHandles
  parameters {config _} h := by
    cases h
    refine ⟨[(.string "name", .string config.name)], rfl, ?_, ?_⟩
    · simp [Yaml.keysDiffer, Mapping.hasKey]
    · simp [RawArguments.isRaw, Value.text?, Value.untagged, argsKey, kwargsKey]
  arguments_make h := congrArg Base.arguments (Splat.base_of_make h)
  arguments_restore h := congrArg Base.arguments (Splat.base_of_restore h)
  arguments_close _ := rfl
  arguments_act action _ := action.elim
  differ_own h := by cases h

namespace Encoder

/-- Configuring an encoder again captures the configuration, if that is valid and its path is a
text. -/
def capturedBy : Action → Option Mapping
  | .reconfigure given => (do given.validate; given.textual).toOption.map EncoderConfig.parameters
  | _ => none

theorem keysDiffer_parameters (config : EncoderConfig) :
    Yaml.keysDiffer config.parameters = true := by
  simp [EncoderConfig.parameters, Yaml.keysDiffer, Mapping.hasKey, Value.same]

/-- An encoder captures its configuration when it is configured again. -/
theorem mergesArguments : Component.MergesArguments act capturedBy where
  toKeepsHandles := Encoder.keepsHandles
  parameters h := by
    obtain ⟨config, -, rfl⟩ := Outcome.map_eq_ok_iff.mp h
    refine ⟨config.parameters, rfl, keysDiffer_parameters config, ?_⟩
    simp [EncoderConfig.parameters, RawArguments.isRaw, Value.text?, Value.untagged, argsKey,
        kwargsKey]
  arguments_make h := by
    have same := congrArg Base.arguments (base_of_make h)
    exact same
  arguments_restore h := congrArg Base.arguments (base_of_restore h)
  arguments_close e := by
    show e.close.state.base.arguments = e.base.arguments
    rw [e.close_state]
  arguments_act action e := by
    -- Of what is special to encoders only configuring again touches the arguments.
    have unchanged (other : ∀ given, action ≠ .reconfigure given) :
        (act action e).base.arguments = e.base.arguments := by
      rcases e.perform_frame (.own action) with ⟨given, h⟩ | ⟨-, same⟩
      · cases h
        exact absurd rfl (other given)
      · exact same rfl
    cases action with
    | reconfigure given =>
      show (e.reconfigure given).state.base.arguments = _
      cases valid : given.validate with
      | error failure =>
        rw [e.reconfigure_of_invalid valid, capturedBy, valid]
        rfl
      | ok _ =>
        cases textual : given.textual with
        | error failure =>
          rw [e.reconfigure_of_notText valid textual, capturedBy, valid, textual]
          rfl
        | ok config =>
          obtain rfl := GivenConfig.textual_eq_ok_iff.mp textual
          rw [e.reconfigure_of_valid valid, capturedBy, valid, textual]
          rfl
    | _ => exact unchanged fun given h => by cases h
  differ_own {action captured} h := by
    cases action with
    | reconfigure given =>
      obtain ⟨config, -, rfl⟩ := Option.map_eq_some_iff.mp h
      exact keysDiffer_parameters config
    | _ => cases h

end Encoder

/-! ## Merging -/

/-- **Merging is an ordered union** in which the later mapping counts more. Laying mappings over
each other is associative, and the empty mapping changes nothing on either side. The union has under
each key what the later mapping has, or else what the earlier one has; its keys are those of the
earlier one in their order and then the new ones of the later, and no key comes twice. Laying the
same mapping over the union once more changes nothing. So a component of any kind, wherever it comes
from and whatever happens to it, remembers what was captured. -/
theorem merging_is_ordered_union :
    (∀ a b c : Mapping, Yaml.keysDiffer a = true → Yaml.keysDiffer b = true →
      Yaml.keysDiffer c = true →
      (a.overlay b).overlay c = a.overlay (b.overlay c) ∧
      Mapping.overlay [] a = a ∧ a.overlay [] = a ∧
      (∀ key, (a.overlay b).find? key = (b.find? key).or (a.find? key)) ∧
      (a.overlay b).keys = a.keys ++ b.keys.filter (fun key => !a.hasKey key) ∧
      Yaml.keysDiffer (a.overlay b) = true ∧
      (a.overlay b).overlay b = a.overlay b) ∧
    (∀ c : Centroid, Component.Made c →
      Component.RemembersCaptures Centroid.act (fun _ => none) c) ∧
    (∀ s : Splat, Component.Made s → Component.RemembersCaptures Splat.act (fun _ => none) s) ∧
    ∀ e : Encoder, Component.Made e →
      Component.RemembersCaptures Encoder.act Encoder.capturedBy e := by
  refine ⟨?_, fun c => Centroid.mergesArguments.remembersCaptures,
    fun s => Splat.mergesArguments.remembersCaptures,
    fun e => Encoder.mergesArguments.remembersCaptures⟩
  intro a b c differA differB differC
  rw [Mapping.keysDiffer_iff] at differA differB differC ⊢
  have assoc : (a.overlay b).overlay b = a.overlay (b.overlay b) :=
    Mapping.overlay_assoc differA differB differB
  refine ⟨Mapping.overlay_assoc differA differB differC, Mapping.nil_overlay differA, rfl,
    Mapping.find?_overlay a differB, ?_, Mapping.differ_overlay differA b, ?_⟩
  · simp only [Mapping.hasKey_eq]
    exact Mapping.keys_overlay_of_differ differA differB
  · rw [assoc, Mapping.overlay_self differB]

/-- Two mappings with one key under a tag and one written as a mapping in another order, and a splat
that captures other arguments twice: the second time without raw ones. -/
theorem merging_is_ordered_union_twice :
    let pair : Mapping := [(.string "p", .nat 1), (.string "q", .nat 2)]
    let a : Mapping := [(.tagged "t" (.string "x"), .nat 3), (.mapping pair, .nat 4)]
    let b : Mapping := [(.string "x", .nat 5), (.mapping pair.reverse, .nat 6)]
    let operations : List Splat.Operation :=
      [.recapture ⟨"b"⟩ ⟨[], [(.string "extra", .bool true)]⟩, .close, .recapture ⟨"c"⟩ {}]
    Yaml.keysDiffer a = true ∧ Yaml.keysDiffer b = true ∧
      (a.overlay b).keys = [.tagged "t" (.string "x"), .mapping pair, .string "x"] ∧
      (a.overlay b).find? (.mapping pair) = some (.nat 6) ∧
      ∃ s : Splat,
        Component.build {} ⟨"a"⟩ ⟨[.nat 7], []⟩ = .ok s ∧ Component.Made s ∧
        (s.run operations).base.arguments.keys =
          [.string "name", .string "args", .string "kwargs"] ∧
        (s.run operations).base.arguments.find? (.string "name") = some (.string "c") ∧
        (s.run operations).base.arguments.find? (.string "args") = some (.sequence [.nat 7]) := by
  intro pair a b operations
  have differA : Yaml.keysDiffer a = true := by
    simp [a, pair, Yaml.keysDiffer, Mapping.hasKey, Value.same]
  have differB : Yaml.keysDiffer b = true := by
    simp [b, pair, Yaml.keysDiffer, Mapping.hasKey, Value.same]
  obtain ⟨laws, -, splats, -⟩ := merging_is_ordered_union
  obtain ⟨-, -, -, under, order, -, -⟩ := laws a b [] differA differB rfl
  obtain ⟨s, built, -, -, captured⟩ := Splat.exists_build_eq {} ⟨"a"⟩ ⟨[.nat 7], []⟩
  have made : Component.Made s := .constructed (.built built)
  have remembers := splats s made
  rw [Splat.captureFor_eq] at captured
  have first : (Component.base s).arguments =
      [(.string "name", .string "a"), (.string "args", .sequence [.nat 7])] :=
    (Except.ok.inj captured).symm
  -- The second capture came without raw arguments, so it has the name alone.
  have later : operations.filterMap (Component.capturedBy Splat fun _ => none) =
      [[(.string "name", .string "b"), (.string "kwargs", .mapping [(.string "extra", .bool true)])],
        [(.string "name", .string "c")]] := by
    simp only [operations, List.filterMap_cons, List.filterMap_nil, Component.capturedBy,
      Splat.captureFor_eq]
    rfl
  have keys := remembers.order operations
  have latest := remembers.latest operations
  rw [first, later] at keys latest
  refine ⟨differA, differB, ?_, ?_, s, built, made, ?_, ?_, ?_⟩
  · rw [order]
    simp [a, b, pair, Mapping.keys, Mapping.hasKey, Value.same, Yaml.eachIn, Yaml.hasEntry,
      Value.nat, Yaml.Number.same]
  · rw [under]
    simp [b, pair, Mapping.find?, Value.same, Yaml.eachIn, Yaml.hasEntry, Value.nat,
      Yaml.Number.same]
  · rw [show (s.run operations).base.arguments.keys = _ from keys]
    simp [Yaml.firstOf, Mapping.keys, Value.same]
  · rw [show (s.run operations).base.arguments.find? _ = _ from latest _]
    simp [Mapping.find?, Value.same]
  · rw [show (s.run operations).base.arguments.find? _ = _ from latest _]
    simp [Mapping.find?, Value.same]

end TextVec
