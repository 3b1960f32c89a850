import TextVec.Proofs.Splat.Recorded

/-!
# Documents of splats

The document of a splat keeps its raw arguments as they are. Loading it reads the configuration
from all names at once, though, those of the keyword arguments among them. So the raw arguments come
back exactly if every one of their keys can be the name of a field, and no other key than the
configuration's own reads as `name`.
-/

namespace TextVec

open Yaml (Value Mapping)

/-! ## Setting a name -/

/-- Setting a name in a mapping gives one entry of that name, among all entries of other keys. -/
theorem Yaml.Mapping.exists_put_eq {entries : Mapping} (differ : Yaml.keysDiffer entries = true)
    (name : String) (value : Value) :
    ∃ before after,
      put entries name value = before ++ (.string name, value) :: after ∧
        ∀ entry, entry ∈ before ++ after ↔ entry ∈ entries ∧ entry.1 ≠ .string name := by
  -- On the entries; the name is put where it is, or else at the end.
  induction entries with
  | nil => exact ⟨[], [], rfl, by simp⟩
  | cons first rest ih =>
    obtain ⟨key, old⟩ := first
    rw [Yaml.keysDiffer, Bool.and_eq_true, Bool.not_eq_true'] at differ
    obtain ⟨other, differ⟩ := differ
    by_cases same : key.same (.string name) = true
    · -- The name is there already, so no later entry has it.
      obtain rfl := Value.eq_string_of_same same
      have others : ∀ entry ∈ rest, entry.1 ≠ .string name := by
        intro entry member h
        have differs := List.any_eq_false.mp other entry member
        rw [h] at differs
        exact differs same
      refine ⟨[], rest, by simp [put, insert, same], fun entry => ?_⟩
      rw [List.nil_append, List.mem_cons]
      constructor
      · exact fun member => ⟨.inr member, others entry member⟩
      · rintro ⟨rfl | member, h⟩
        · exact absurd rfl h
        · exact member
    · have differs : key ≠ .string name := by
        rintro rfl
        exact same (by simp [Value.same])
      obtain ⟨before, after, hPut, members⟩ := ih differ
      refine ⟨(key, old) :: before, after, ?_, fun entry => ?_⟩
      · rw [put, insert, if_neg same]
        exact congrArg ((key, old) :: ·) hPut
      · rw [List.cons_append, List.mem_cons, members, List.mem_cons]
        constructor
        · rintro (rfl | ⟨member, h⟩)
          · exact ⟨.inl rfl, differs⟩
          · exact ⟨.inr member, h⟩
        · rintro ⟨rfl | member, h⟩
          · exact .inl rfl
          · exact .inr ⟨member, h⟩

/-! ## Reading the configuration -/

theorem Yaml.Value.decodeText_eq_ok_iff {expected text : String} {value : Value} :
    value.decodeText expected = .ok text ↔ value.text? = some text := by
  unfold decodeText text? wrongType
  cases value.untagged <;> simp

namespace SplatConfig

/-- An entry that is read as a field other than the name, and so is ignored. -/
def IsIgnored (entry : Value × Value) : Prop :=
  ∃ field, entry.1.text? = some field ∧ field ≠ "name"

/-- Reads one entry of a configuration. -/
def readEntry (name : Option String) (entry : Value × Value) : Decoded (Option String) := do
  let field ← entry.1.decodeText "field identifier"
  readField name field entry.2

theorem ofYaml_mapping (entries : Mapping) :
    ofYaml (.mapping entries) =
      (entries.foldlM readEntry none >>= fun name => return ⟨← required "name" name⟩) := rfl

/-- Reading an entry keeps what was read before, or gives the first name. -/
theorem readEntry_eq_ok_iff {name result : Option String} {entry : Value × Value} :
    readEntry name entry = .ok result ↔
      (IsIgnored entry ∧ result = name) ∨
        (entry.1.text? = some "name" ∧ name = none ∧
          ∃ text, entry.2.text? = some text ∧ result = some text) := by
  unfold readEntry
  rw [Outcome.bind_eq_ok_iff]
  simp only [Value.decodeText_eq_ok_iff, readField, beq_iff_eq]
  constructor
  · rintro ⟨field, hField, read⟩
    -- An entry for the name counts once; all others are passed over.
    split at read
    · rename_i isName
      cases name with
      | some _ => cases read
      | none =>
        obtain ⟨text, hText, rfl⟩ := Outcome.map_eq_ok_iff.mp read
        exact .inr ⟨isName ▸ hField, rfl, text, Value.decodeText_eq_ok_iff.mp hText, rfl⟩
    · rename_i notName
      exact .inl ⟨⟨field, hField, notName⟩, (Except.ok.inj read).symm⟩
  · rintro (⟨⟨field, hField, notName⟩, rfl⟩ | ⟨hName, rfl, text, hText, rfl⟩)
    · exact ⟨field, hField, if_neg notName⟩
    · refine ⟨"name", hName, (if_pos rfl).trans ?_⟩
      exact Outcome.map_eq_ok_iff.mpr ⟨text, Value.decodeText_eq_ok_iff.mpr hText, rfl⟩

/-- A name that was read stays. -/
theorem eq_of_foldlM_readEntry {entries : Mapping} {text : String} {result : Option String}
    (h : entries.foldlM readEntry (some text) = .ok result) : result = some text := by
  induction entries with
  | nil => exact (Except.ok.inj h).symm
  | cons entry rest ih =>
    rw [List.foldlM_cons, Outcome.bind_eq_ok_iff] at h
    obtain ⟨next, first, h⟩ := h
    -- A second name would have been refused.
    rcases readEntry_eq_ok_iff.mp first with ⟨-, rfl⟩ | ⟨-, none, -⟩
    · exact ih h
    · cases none

/-- Reading entries changes nothing exactly if all of them are ignored. -/
theorem foldlM_readEntry_eq_self_iff {entries : Mapping} {name : Option String} :
    entries.foldlM readEntry name = .ok name ↔ ∀ entry ∈ entries, IsIgnored entry := by
  induction entries with
  | nil => simp [pure, Except.pure]
  | cons entry rest ih =>
    rw [List.foldlM_cons, Outcome.bind_eq_ok_iff, List.forall_mem_cons, ← ih]
    constructor
    · rintro ⟨next, first, h⟩
      rcases readEntry_eq_ok_iff.mp first with ⟨ignored, rfl⟩ | ⟨-, rfl, text, -, rfl⟩
      · exact ⟨ignored, h⟩
      · -- A name that was read would have stayed.
        cases eq_of_foldlM_readEntry h
    · rintro ⟨ignored, h⟩
      exact ⟨name, readEntry_eq_ok_iff.mpr (.inl ⟨ignored, rfl⟩), h⟩

/-- Where a name stands among other entries, a configuration is read exactly if all others are
ignored. -/
theorem ofYaml_eq_ok_iff {before after : Mapping} {text : String} {config : SplatConfig} :
    ofYaml (.mapping (before ++ (.string "name", .string text) :: after)) = .ok config ↔
      (∀ entry ∈ before ++ after, IsIgnored entry) ∧ config = ⟨text⟩ := by
  rw [ofYaml_mapping, List.foldlM_append, Outcome.bind_eq_ok_iff]
  constructor
  · rintro ⟨last, whole, made⟩
    obtain ⟨name, first, rest⟩ := Outcome.bind_eq_ok_iff.mp whole
    rw [List.foldlM_cons, Outcome.bind_eq_ok_iff] at rest
    obtain ⟨next, here, rest⟩ := rest
    rcases readEntry_eq_ok_iff.mp here with ⟨⟨field, hField, notName⟩, -⟩ | ⟨-, rfl, _, hText, rfl⟩
    · exact absurd (Option.some.inj hField).symm notName
    · -- Nothing was read before the name, and nothing is read after it.
      cases Option.some.inj hText
      obtain rfl := eq_of_foldlM_readEntry rest
      refine ⟨List.forall_mem_append.mpr ⟨?_, ?_⟩, (Except.ok.inj made).symm⟩
      · exact foldlM_readEntry_eq_self_iff.mp first
      · exact foldlM_readEntry_eq_self_iff.mp rest
  · rintro ⟨ignored, rfl⟩
    obtain ⟨ignoredBefore, ignoredAfter⟩ := List.forall_mem_append.mp ignored
    refine ⟨some text, Outcome.bind_eq_ok_iff.mpr ⟨none, ?_, ?_⟩, rfl⟩
    · exact foldlM_readEntry_eq_self_iff.mpr ignoredBefore
    · have here : readEntry none (.string "name", .string text) = .ok (some text) := rfl
      rw [List.foldlM_cons, here]
      exact foldlM_readEntry_eq_self_iff.mpr ignoredAfter

end SplatConfig

/-! ## Loading a document -/

namespace Splat

/-- All keyword arguments have the names of fields, and only that of the configuration's own field,
without a tag, is the name of a splat. -/
def Readable (kwargs : Mapping) : Prop :=
  ∀ entry ∈ kwargs,
    ∃ field, entry.1.text? = some field ∧ (field = "name" → entry.1 = .string "name")

/-- The configuration is read from among the keyword arguments exactly if those are readable. -/
theorem ofYaml_put_eq_ok_iff {kwargs : Mapping} (differ : Yaml.keysDiffer kwargs = true)
    {name : String} {config : SplatConfig} :
    SplatConfig.ofYaml (.mapping (Mapping.put kwargs "name" (.string name))) = .ok config ↔
      Readable kwargs ∧ config = ⟨name⟩ := by
  obtain ⟨before, after, hPut, members⟩ := Mapping.exists_put_eq differ "name" (.string name)
  rw [hPut, SplatConfig.ofYaml_eq_ok_iff]
  -- What is left of the keyword arguments is all but the one that the name has replaced.
  refine and_congr_left fun _ => ?_
  simp only [members]
  constructor
  · intro ignored entry member
    by_cases own : entry.1 = .string "name"
    · exact ⟨"name", by rw [own]; rfl, fun _ => own⟩
    · obtain ⟨field, hField, notName⟩ := ignored entry ⟨member, own⟩
      exact ⟨field, hField, fun h => absurd h notName⟩
  · intro readable entry ⟨member, notOwn⟩
    obtain ⟨field, hField, own⟩ := readable entry member
    exact ⟨field, hField, fun h => notOwn (own h)⟩

/-- Every configuration and all raw arguments make a splat, with the arguments that are captured for
them. -/
theorem exists_build_eq (environment : Environment) (config : SplatConfig) (raw : RawArguments) :
    ∃ s : Splat, Component.build environment config raw = .ok s ∧ s.config = config ∧ s.raw = raw ∧
      Component.captureFor Splat config raw = .ok s.base.arguments := by
  have captured := captureFor_eq config raw
  refine ⟨⟨⟨_, {}, .attach "Splat" (.ofEnvironment environment)⟩, config, raw⟩, ?_, rfl, rfl,
    captured⟩
  unfold Component.build
  rw [captured]
  rfl

section

variable {config : SplatConfig} {raw : RawArguments} {arguments : Mapping}
  (captured : Component.captureFor Splat config raw = .ok arguments)
include captured

/-- The configuration is read from the keyword arguments with the name set among them. -/
theorem readArguments_of_captureFor :
    Component.readArguments Splat arguments =
      match SplatConfig.ofYaml (.mapping (Mapping.put raw.kwargs "name" (.string config.name))) with
      | .ok config => .ok (config, raw)
      | .error error => .error (.misconfigured (.undecodable "Splat" error)) := by
  have stores : Component.storesRaw Splat = true := rfl
  have decodes : Component.ofYaml Splat = SplatConfig.ofYaml := rfl
  simp only [Component.readArguments, stores, decodes, ↓reduceIte, split_captureFor captured,
    Outcome.ok_bind]
  cases SplatConfig.ofYaml (.mapping (Mapping.put raw.kwargs "name" (.string config.name))) <;> rfl

variable (differ : Yaml.keysDiffer raw.kwargs = true)
include differ

theorem readArguments_of_readable (readable : Readable raw.kwargs) :
    Component.readArguments Splat arguments = .ok (config, raw) := by
  rw [readArguments_of_captureFor captured, (ofYaml_put_eq_ok_iff differ).mpr ⟨readable, rfl⟩]

theorem readArguments_of_not_readable (unreadable : ¬Readable raw.kwargs) :
    ∃ error, Component.readArguments Splat arguments =
      .error (.misconfigured (.undecodable "Splat" error)) := by
  rw [readArguments_of_captureFor captured]
  cases h : SplatConfig.ofYaml (.mapping (Mapping.put raw.kwargs "name" (.string config.name))) with
  | ok read => exact absurd ((ofYaml_put_eq_ok_iff differ).mp h).1 unreadable
  | error error => exact ⟨error, rfl⟩

end

section

variable {s : Splat} (captured : Component.captureFor Splat s.config s.raw = .ok s.base.arguments)
  (differ : Yaml.keysDiffer s.raw.kwargs = true) (settings : HandleSettings)
include captured differ

/-- The document of a splat gives back its configuration and all its arguments, if its keyword
arguments are readable. -/
theorem ofBody_body_of_readable (readable : Readable s.raw.kwargs) :
    ∃ loaded : Splat,
      Component.ofBody Splat settings (Component.body s) = .ok loaded ∧
        loaded.config = s.config ∧ loaded.raw = s.raw ∧
        loaded.base.arguments = s.base.arguments := by
  obtain ⟨fresh, built, hConfig, hRaw, again⟩ := exists_build_eq {} s.config s.raw
  have same : fresh.base.arguments = s.base.arguments := by
    rw [captured] at again
    exact (Except.ok.inj again).symm
  -- What is read is built as it was the first time, and the properties are set over that.
  exact ⟨_, Component.ofBody_eq_ok_iff.mpr ⟨_, _, s.config, s.raw, fresh, _,
    Component.sectionOf_body_parameter s, Component.sectionOf_body_property s,
    readArguments_of_readable captured differ readable, built, Properties.apply_overrides .., rfl⟩,
    hConfig, hRaw, same⟩

/-- The document of a splat cannot be loaded if its keyword arguments are not readable. -/
theorem ofBody_body_of_not_readable (unreadable : ¬Readable s.raw.kwargs) :
    ∃ error, Component.ofBody Splat settings (Component.body s) =
      .error (.misconfigured (.undecodable "Splat" error)) := by
  obtain ⟨error, hError⟩ := readArguments_of_not_readable captured differ unreadable
  refine ⟨error, ?_⟩
  unfold Component.ofBody
  rw [Component.sectionOf_body_parameter, Component.sectionOf_body_property]
  show (Component.readArguments Splat s.base.arguments >>= _) = _
  rw [hError]
  rfl

end

/-- **The round trip of a splat through its document.** Every configuration and all raw arguments
make a splat, and its document can always be taken apart again. Loading that gives the same
configuration, the same raw arguments and the same captured ones if all keyword arguments are
readable, and fails if they are not. -/
theorem raw_arguments_survive_iff (environment : Environment) (config : SplatConfig)
    (raw : RawArguments) (differ : Yaml.keysDiffer raw.kwargs = true) :
    ∃ s : Splat,
      Component.build environment config raw = .ok s ∧ s.config = config ∧ s.raw = raw ∧
      ∃ sections,
        Document.ofValue (Component.document s) = .ok ⟨some "Splat", sections⟩ ∧
        ∀ settings,
          (Readable raw.kwargs → ∃ loaded,
            Component.ofBody Splat settings sections = .ok loaded ∧ loaded.config = config ∧
              loaded.raw = raw ∧ loaded.base.arguments = s.base.arguments) ∧
          (¬Readable raw.kwargs → ∃ error,
            Component.ofBody Splat settings sections =
              .error (.misconfigured (.undecodable "Splat" error))) := by
  obtain ⟨s, built, rfl, rfl, captured⟩ := exists_build_eq environment config raw
  refine ⟨s, built, rfl, rfl, _, Component.ofValue_document s, fun settings => ⟨?_, ?_⟩⟩
  · exact ofBody_body_of_readable captured differ settings
  · exact ofBody_body_of_not_readable captured differ settings

/-- Keyword arguments that have the names of the configuration's field and of both sorts of raw
arguments are harmless. -/
theorem raw_arguments_survive_shadowing :
    let kwargs : Mapping :=
      [(.string "name", .bool true), (.string "args", .null), (.string "kwargs", .null)]
    Yaml.keysDiffer kwargs = true ∧ Readable kwargs ∧
      ∃ s loaded : Splat,
        Component.build {} ⟨"a"⟩ ⟨[.null], kwargs⟩ = .ok s ∧
        Component.ofBody Splat {} (Component.body s) = .ok loaded ∧
        loaded.config = ⟨"a"⟩ ∧ loaded.raw = ⟨[.null], kwargs⟩ ∧
        loaded.base.arguments = s.base.arguments := by
  intro kwargs
  have differ : Yaml.keysDiffer kwargs = true := by
    simp [kwargs, Yaml.keysDiffer, Mapping.hasKey, Value.same]
  have readable : Readable kwargs := by
    simp [Readable, kwargs, Value.text?, Value.untagged]
  obtain ⟨s, built, -, -, sections, hDocument, loads⟩ :=
    raw_arguments_survive_iff {} ⟨"a"⟩ ⟨[.null], kwargs⟩ differ
  obtain ⟨loaded, hLoaded, survived⟩ := (loads {}).1 readable
  cases hDocument
  exact ⟨differ, readable, s, loaded, built, hLoaded, survived⟩

/-- A keyword argument whose key is a number keeps the document of its splat from loading. -/
theorem raw_arguments_lost :
    ∃ s : Splat, ∃ error,
      Component.build {} ⟨"n"⟩ ⟨[], [(.nat 1, .string "a")]⟩ = .ok s ∧
      s.raw = ⟨[], [(.nat 1, .string "a")]⟩ ∧
      Component.ofBody Splat {} (Component.body s) =
        .error (.misconfigured (.undecodable "Splat" error)) := by
  -- A number is no name of a field.
  have unreadable : ¬Readable [(.nat 1, .string "a")] := by
    simp [Readable, Value.text?, Value.untagged, Value.nat]
  obtain ⟨s, built, hConfig, hRaw, captured⟩ :=
    exists_build_eq {} ⟨"n"⟩ ⟨[], [(.nat 1, .string "a")]⟩
  rw [← hConfig, ← hRaw] at captured
  obtain ⟨error, failed⟩ :=
    ofBody_body_of_not_readable captured (by rw [hRaw]; rfl) {} (by rw [hRaw]; exact unreadable)
  exact ⟨s, error, built, hRaw, failed⟩

end Splat

end TextVec
