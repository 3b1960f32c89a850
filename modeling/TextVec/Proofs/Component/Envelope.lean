import TextVec.Encoder.Basic
import TextVec.Component.Centroid
import TextVec.Component.Splat
import TextVec.Component.Storage
import TextVec.Proofs.Binary.ReadBack

/-!
# Reading back envelopes

An envelope, and the state of every kind of component inside it, is read back as it was written,
whatever follows it: field by field, each reader takes what its writer put.
-/

namespace TextVec

open Binary

/-! ## States -/

theorem CentroidConfig.take_put {config : CentroidConfig} (h : config.put.length < UInt64.size)
    (rest : Bytes) : take (config.put ++ rest) = some (config, rest) := by
  -- A part is never longer than the whole, so the bound on the whole is enough for each.
  simp only [put, List.length_append] at h
  have label (rest : Bytes) :
      takeOption takeText (putOption putText config.label ++ rest) = some (config.label, rest) := by
    refine takeOption_putOption fun text present => takeText_putText ?_ rest
    simp only [present, putOption, List.length_cons] at h
    omega
  simp only [take, put, List.append_assoc, takeUInt64_putUInt64, label, takeDouble_putDouble, bind,
    Option.bind]

theorem CentroidState.take_put {state : CentroidState} (h : state.put.length < UInt64.size)
    (rest : Bytes) : take (state.put ++ rest) = some (state, rest) := by
  simp only [put, List.length_append] at h
  have config (rest : Bytes) :
      CentroidConfig.take (state.config.put ++ rest) = some (state.config, rest) :=
    CentroidConfig.take_put (by omega) rest
  -- A number takes eight bytes, so there are fewer numbers than bytes.
  have centroid (rest : Bytes) :
      takeList takeDouble (putList putDouble state.centroid ++ rest) =
        some (state.centroid, rest) :=
    takeList_putList (fun x => by simp [putDouble]) (fun x rest _ => takeDouble_putDouble x rest)
      (by omega) rest
  simp only [take, put, List.append_assoc, config, centroid, bind, Option.bind]

theorem SplatConfig.take_put {config : SplatConfig} (h : config.put.length < UInt64.size)
    (rest : Bytes) : take (config.put ++ rest) = some (config, rest) := by
  have name : takeText (putText config.name ++ rest) = some (config.name, rest) :=
    takeText_putText h rest
  simp only [take, put, name, Option.map_some]

namespace EncoderConfig

theorem takeTokenizer_putTokenizer (tokenizer : Tokenizer) (rest : Bytes) :
    takeTokenizer (putTokenizer tokenizer ++ rest) = some (tokenizer, rest) := by
  have kind (kind : TokenizerKind) (rest : Bytes) :
      takeKind (putKind kind ++ rest) = some (kind, rest) := by
    cases kind <;> rfl
  simp only [takeTokenizer, putTokenizer, List.append_assoc, kind, takeBool_putBool, bind,
    Option.bind]

theorem take_put {config : EncoderConfig} (h : config.put.length < UInt64.size) (rest : Bytes) :
    take (config.put ++ rest) = some (config, rest) := by
  simp only [put, List.length_append] at h
  have modelPath (rest : Bytes) :
      takeText (putText config.modelPath ++ rest) = some (config.modelPath, rest) :=
    takeText_putText (by omega) rest
  have pooling (rest : Bytes) :
      takeText (putText config.pooling ++ rest) = some (config.pooling, rest) :=
    takeText_putText (by omega) rest
  simp only [take, put, List.append_assoc, modelPath, takeUInt64_putUInt64, pooling,
    takeTokenizer_putTokenizer, bind, Option.bind]

end EncoderConfig

/-! ## Envelopes -/

namespace Envelope

theorem takeProperties_putProperties (properties : Properties) (rest : Bytes) :
    takeProperties (putProperties properties ++ rest) = some (properties, rest) := by
  have size (rest : Bytes) :
      takeOption takeUInt64 (putOption putUInt64 properties.batchSize ++ rest) =
        some (properties.batchSize, rest) :=
    takeOption_putOption fun n _ => takeUInt64_putUInt64 n rest
  simp only [takeProperties, putProperties, List.append_assoc, takeBool_putBool, size, bind,
    Option.bind]

theorem take_put {e : Envelope} (h : e.put.length < UInt64.size) (rest : Bytes) :
    take (e.put ++ rest) = some (e, rest) := by
  simp only [put, List.length_append] at h
  have kind (rest : Bytes) : takeText (putText e.kind ++ rest) = some (e.kind, rest) :=
    takeText_putText (by omega) rest
  have arguments (rest : Bytes) :
      takeText (putText e.arguments ++ rest) = some (e.arguments, rest) :=
    takeText_putText (by omega) rest
  have state (rest : Bytes) : takeCounted (putBytes e.state ++ rest) = some (e.state, rest) :=
    takeCounted_putBytes (by omega) rest
  simp only [take, put, List.append_assoc, takeUInt16_putUInt16, kind, arguments,
    takeProperties_putProperties, state, bind, Option.bind]

/-- An envelope of the present layout is read from the file that it makes. -/
theorem read_compress_put [Compressor] {e : Envelope} (present : e.layout = layoutVersion)
    (h : e.put.length < UInt64.size) : read (Compressor.compress e.put) = .ok e := by
  have taken := take_put h []
  rw [List.append_nil] at taken
  simp only [read, Compressor.decompress_compress, Option.bind_some, taken, present, if_true]

end Envelope

/-- The state in an envelope is not longer than the envelope. -/
theorem Envelope.length_state_le (e : Envelope) : e.state.length ≤ e.put.length := by
  have := length_le_length_putBytes e.state
  simp only [put, List.length_append]
  omega

/-! ## Components -/

namespace Component

variable {α Config State : Type} [Component α Config State]

/-- An envelope gives a component exactly if its kind and version are those of the component, its
state and its captured arguments can be read, and the component can be restored from them. -/
theorem ofEnvelope_eq_ok_iff {settings : HandleSettings} {e : Envelope} {component : α} :
    ofEnvelope α settings e = .ok component ↔
      e.kind = kind α ∧ e.version = version α ∧
        ∃ state rest arguments,
          takeState α e.state = some (state, rest) ∧
          Yaml.Mapping.read? e.arguments = some arguments ∧
          restore ⟨arguments, e.properties, .attach (kind α) settings⟩ state = .ok component := by
  unfold ofEnvelope
  -- The kind is compared first, then the version, and only then are the contents read.
  by_cases hKind : e.kind = kind α
  · by_cases hVersion : e.version = version α
    · simp only [hKind, hVersion, bne_self_eq_false, Bool.false_eq_true, if_false, true_and]
      cases takeState α e.state with
      | none => simp
      | some taken =>
        obtain ⟨state, rest⟩ := taken
        cases Yaml.Mapping.read? e.arguments with
        | none => simp
        | some arguments => simp
    · simp [hKind, hVersion]
  · simp [hKind]

end Component

end TextVec
