import TextVec.Proofs.Outcome
import TextVec.Registry

/-!
# What a registry finds

Loaders can be registered in any order and any number of times. Under a name, a registry finds the
loader that was registered last for it. So what a registry of kinds loads from a file was made by
the loader of the kind that the file names.
-/

namespace TextVec

namespace Loaders

variable {β : Type}

/-! ## What is registered -/

/-- The registry in which loaders were registered one after the other. -/
def registered (settings : HandleSettings) (loaders : List (Loader β)) : Loaders β :=
  loaders.foldl add ⟨settings, []⟩

/-- The loader that was registered last for a name, if there is one. -/
def latest (loaders : List (Loader β)) (name : String) : Option (Loader β) :=
  loaders.reverse.find? (·.name == name)

/-- There is no last one exactly if there is none at all. -/
theorem latest_eq_none_iff {loaders : List (Loader β)} {name : String} :
    latest loaders name = none ↔ ∀ loader ∈ loaders, loader.name ≠ name := by
  simp [latest]

theorem name_of_latest {loaders : List (Loader β)} {name : String} {loader : Loader β}
    (h : latest loaders name = some loader) : loader.name = name := by
  have named := List.find?_some h
  exact eq_of_beq named

theorem find?_cons (l : Loader β) (rest : List (Loader β)) (name : String) :
    (l :: rest).find? (·.name == name) =
      if l.name = name then some l else rest.find? (·.name == name) := by
  rw [List.find?_cons]
  by_cases h : l.name = name
  · rw [beq_iff_eq.mpr h, if_pos h]
  · rw [beq_eq_false_iff_ne.mpr h, if_neg h]

/-- A loader is found under its own name, and whatever was found under others is found still. -/
theorem find?_insert (loader : Loader β) (kinds : List (Loader β)) (name : String) :
    (insert loader kinds).find? (·.name == name) =
      if loader.name = name then some loader else kinds.find? (·.name == name) := by
  -- On the loaders in their order, one of which the new one may replace.
  induction kinds with
  | nil => rw [insert, find?_cons]
  | cons l rest ih =>
    unfold insert
    by_cases same : l.name = loader.name
    · rw [if_pos same, find?_cons, find?_cons, same]
      split <;> rfl
    · rw [if_neg same]
      by_cases before : loader.name < l.name
      · rw [if_pos before, find?_cons]
      · -- The first entry stays first, and having another name it does not hide the loader.
        rw [if_neg before, find?_cons, find?_cons, ih]
        by_cases named : loader.name = name
        · have other : l.name ≠ name := by rwa [← named]
          rw [if_neg other, if_pos named, if_pos named]
        · rw [if_neg named, if_neg named]

/-- Adding loaders one after the other: under every name the last of them is found, and if there is
none, what was found before. -/
theorem find?_foldl_add (before : Loaders β) (loaders : List (Loader β)) (name : String) :
    (loaders.foldl add before).kinds.find? (·.name == name) =
      (latest loaders name).or (before.kinds.find? (·.name == name)) := by
  induction loaders generalizing before with
  | nil => rfl
  | cons loader rest ih =>
    -- What comes later counts first, and the new loader counts before what was there.
    have last : latest (loader :: rest) name =
        (latest rest name).or (if loader.name = name then some loader else none) := by
      simp only [latest, List.reverse_cons, List.find?_append, find?_cons, List.find?_nil]
    rw [List.foldl_cons, ih, last, Option.or_assoc]
    congr 1
    rw [add, find?_insert]
    split <;> simp

theorem settings_foldl_add (before : Loaders β) (loaders : List (Loader β)) :
    (loaders.foldl add before).settings = before.settings := by
  induction loaders generalizing before with
  | nil => rfl
  | cons loader rest ih => exact ih (before.add loader)

theorem settings_registered (settings : HandleSettings) (loaders : List (Loader β)) :
    (registered settings loaders).settings = settings :=
  settings_foldl_add ⟨settings, []⟩ loaders

/-- **What a registry finds**: the loader that was registered last for the name. -/
theorem find_registered (settings : HandleSettings) (loaders : List (Loader β)) (name : String) :
    (registered settings loaders).find name =
      match latest loaders name with
      | some loader => .ok loader
      | none => .error (.unknownKind name) := by
  unfold find registered
  rw [find?_foldl_add]
  cases latest loaders name <;> rfl

end Loaders

/-! ## Kinds that are registered -/

theorem Kind.name_loader (k : Kind) : k.loader.name = k.name := by
  cases k <;> rfl

theorem Kind.eq_of_name_eq {k k' : Kind} (h : k.name = k'.name) : k = k' := by
  cases k <;> cases k' <;> first | rfl | exact absurd h (by decide)

/-- What a kind loads is of that kind. -/
theorem Kind.kind_of_loader {k : Kind} {settings : HandleSettings} {component : AnyComponent} :
    (∀ e, k.loader.ofEnvelope settings e = .ok component → component.kind = k) ∧
      ∀ body, k.loader.ofBody settings body = .ok component → component.kind = k := by
  -- Both ways of loading only wrap what the kind has made of the file.
  have wrapped {α : Type} {wrap : α → AnyComponent} {result : Result α}
      (kinds : ∀ a, (wrap a).kind = k) (h : result.map wrap = .ok component) :
      component.kind = k := by
    cases result with
    | error failure => cases h
    | ok a =>
      cases h
      exact kinds a
  cases k <;> exact ⟨fun _ => wrapped fun _ => rfl, fun _ => wrapped fun _ => rfl⟩

namespace Registry

/-- Registering kinds is registering their loaders. -/
theorem foldl_register (settings : HandleSettings) (kinds : List Kind) :
    kinds.foldl register ⟨settings, []⟩ = Loaders.registered settings (kinds.map Kind.loader) := by
  rw [Loaders.registered, List.foldl_map]
  rfl

/-- Whatever is found is the loader of a kind that was registered. -/
theorem exists_of_latest {kinds : List Kind} {name : String} {loader : Loader AnyComponent}
    (h : Loaders.latest (kinds.map Kind.loader) name = some loader) :
    ∃ k ∈ kinds, k.loader = loader ∧ k.name = name := by
  obtain ⟨k, hMem, hLoader⟩ := List.mem_map.mp (List.mem_reverse.mp (List.mem_of_find?_eq_some h))
  refine ⟨k, hMem, hLoader, ?_⟩
  rw [← k.name_loader, hLoader]
  exact Loaders.name_of_latest h

theorem settings_foldl_register (settings : HandleSettings) (kinds : List Kind) :
    (kinds.foldl register ⟨settings, []⟩).settings = settings := by
  rw [foldl_register]
  exact Loaders.settings_registered settings _

/-- What a registry of kinds finds is the loader of a kind of that name. -/
theorem exists_of_find {settings : HandleSettings} {kinds : List Kind} {name : String}
    {loader : Loader AnyComponent}
    (h : (kinds.foldl register ⟨settings, []⟩).find name = .ok loader) :
    ∃ k : Kind, k.loader = loader ∧ k.name = name := by
  rw [foldl_register, Loaders.find_registered] at h
  -- What is found was registered, and only loaders of kinds were.
  cases found : Loaders.latest (kinds.map Kind.loader) name with
  | none =>
    rw [found] at h
    cases h
  | some other =>
    rw [found] at h
    cases h
    obtain ⟨k, -, same, named⟩ := exists_of_latest found
    exact ⟨k, same, named⟩

section

variable {settings : HandleSettings} {kinds : List Kind} {files : FileSystem} {path : String}
  {component : AnyComponent}

/-- What is loaded from a binary file is made by the loader of the kind that the file names, with
the settings of the registry. -/
theorem exists_of_loadBinary [Compressor]
    (h : (kinds.foldl register ⟨settings, []⟩).loadBinary files path = .ok component) :
    ∃ (e : Envelope) (k : Kind), Envelope.readFile files path = .ok e ∧ k.name = e.kind ∧
      k.loader.ofEnvelope settings e = .ok component := by
  obtain ⟨e, read, h⟩ := Outcome.bind_eq_ok_iff.mp h
  obtain ⟨loader, found, made⟩ := Outcome.bind_eq_ok_iff.mp h
  obtain ⟨k, rfl, named⟩ := exists_of_find found
  rw [settings_foldl_register] at made
  exact ⟨e, k, read, named, made⟩

/-- What is loaded from a structured file is made by the loader of the kind in its tag. -/
theorem exists_of_loadStructured
    (h : (kinds.foldl register ⟨settings, []⟩).loadStructured files path = .ok component) :
    ∃ (document : Document) (k : Kind), Document.readFile files path = .ok document ∧
      document.kind = some k.name ∧ k.loader.ofBody settings document.body = .ok component := by
  obtain ⟨document, read, h⟩ := Outcome.bind_eq_ok_iff.mp h
  cases tagged : document.kind with
  | none =>
    rw [tagged] at h
    cases h
  | some name =>
    rw [tagged] at h
    obtain ⟨loader, found, made⟩ := Outcome.bind_eq_ok_iff.mp h
    obtain ⟨k, rfl, rfl⟩ := exists_of_find found
    rw [settings_foldl_register] at made
    exact ⟨document, k, read, tagged, made⟩

end

/-- A kind that was registered is found. -/
theorem latest_of_mem {kinds : List Kind} {k : Kind} (h : k ∈ kinds) :
    Loaders.latest (kinds.map Kind.loader) k.name = some k.loader := by
  cases found : Loaders.latest (kinds.map Kind.loader) k.name with
  | none =>
    have nowhere := Loaders.latest_eq_none_iff.mp found _ (List.mem_map_of_mem h)
    exact absurd k.name_loader nowhere
  | some loader =>
    -- Some kind of this name is found, and there is only one.
    obtain ⟨k', -, rfl, named⟩ := exists_of_latest found
    rw [Kind.eq_of_name_eq named]

end Registry

end TextVec
