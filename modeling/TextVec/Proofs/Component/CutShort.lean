import TextVec.Compression.Stored
import TextVec.Proofs.Component.Acceptance

/-!
# Binary files that were cut short

The binary format says itself where a value ends. Envelopes and the states of all kinds are taken
exactly as they were written, and nothing that was cut short is taken at all. So no kind loads a
file whose envelope was cut short, or one with a whole envelope in which the state was cut short.
-/

namespace TextVec

open Binary

/-! ## Formats that say where a value ends -/

/-- A reader takes what was written and leaves what follows, and it takes nothing off a written
value that was cut short. What is written must have a length of 64 bits, as everything that fits in
memory has. -/
structure Binary.SelfDelimiting {α : Type} (put : α → Bytes) (take : Reader α) : Prop where
  /-- What was written is taken exactly, and what follows is left. -/
  exact : ∀ x, (put x).length < UInt64.size → ∀ rest, take (put x ++ rest) = some (x, rest)
  /-- Of what was cut short nothing is taken. -/
  short : ∀ x, (put x).length < UInt64.size → ∀ cut, cut <+: put x → cut ≠ put x → take cut = none

/-- A reader that looks at no more than it takes, and takes back what is written, is of that
sort. -/
theorem Binary.TakesFront.selfDelimiting {α : Type} {put : α → Bytes} {take : Reader α}
    (front : TakesFront take)
    (back : ∀ {x}, (put x).length < UInt64.size → ∀ rest, take (put x ++ rest) = some (x, rest)) :
    SelfDelimiting put take where
  exact _ fits := back fits
  short x fits cut prefixed shorter := by
    have whole := back fits []
    rw [List.append_nil] at whole
    exact front.eq_none_of_prefix whole prefixed shorter

theorem Envelope.selfDelimiting : SelfDelimiting put take :=
  takesFront_take.selfDelimiting take_put

/-! ## Files -/

namespace Component

section

variable {α Config State : Type} [Component α Config State]

/-- A kind loads no file that holds an envelope that was cut short, and none that would be one of
its own but for a state that was cut short. -/
structure RefusesCut [Compressor] (α : Type) {Config State : Type}
    [Component α Config State] : Prop where
  /-- The content decompresses to an envelope that lacks something at its end. -/
  envelope : ∀ settings files path content cut (e : Envelope),
    files.read path = .ok content → Compressor.decompress content = some cut →
    e.put.length < UInt64.size → cut <+: e.put → cut ≠ e.put →
    loadBinary α settings files path = .error (.unreadable .malformed)
  /-- The envelope is whole, and the state inside of it lacks something. -/
  state : ∀ settings files path content bytes (e : Envelope) (state : State),
    files.read path = .ok content → Compressor.decompress content = some bytes →
    Begins Envelope.take bytes e → e.layout = layoutVersion → e.kind = kind α →
    e.version = version α →
    (putState α state).length < UInt64.size → e.state <+: putState α state →
    e.state ≠ putState α state →
    loadBinary α settings files path = .error (.unreadable .malformed)

/-- If the states of a kind say where they end, then it refuses what was cut short. -/
theorem refusesCut [Compressor]
    (states : SelfDelimiting (putState α) (takeState α)) : RefusesCut α where
  envelope settings files path content cut e hRead hContent fits prefixed shorter := by
    -- Reading stops before the layout is even compared.
    have nothing := Envelope.selfDelimiting.short e fits cut prefixed shorter
    simp only [loadBinary, Envelope.readFile, hRead, Envelope.read, hContent, Option.bind_some,
      nothing, bind, Except.bind]
  state settings files path content bytes e state hRead hContent hTake layout sameKind sameVersion
      fits prefixed shorter := by
    have stored : Envelope.readFile files path = .ok e :=
      Envelope.readFile_eq_ok_iff.mpr
        ⟨content, hRead, Envelope.read_eq_ok_iff.mpr ⟨⟨bytes, hContent, hTake⟩, layout⟩⟩
    -- The state is read only after the kind and the version were found to be right.
    have nothing := states.short state fits e.state prefixed shorter
    simp only [loadBinary, stored, bind, Except.bind, ofEnvelope, sameKind, sameVersion, nothing,
      bne_self_eq_false, Bool.false_eq_true, if_false]

end

end Component

/-- **The binary format is self-delimiting.** An envelope, and a state of every kind, is taken
exactly as it was written, whatever follows, and nothing is taken off one that was cut short at any
byte. So whatever was cut short in a file, its envelope or the state in that, no kind loads it, and
the file is unreadable. -/
theorem binary_format_self_delimiting [Compressor] :
    (SelfDelimiting Envelope.put Envelope.take ∧
      SelfDelimiting CentroidState.put CentroidState.take ∧
      SelfDelimiting SplatConfig.put SplatConfig.take ∧
      SelfDelimiting EncoderConfig.put EncoderConfig.take) ∧
    Component.RefusesCut Centroid ∧ Component.RefusesCut Splat ∧ Component.RefusesCut Encoder := by
  have centroids := CentroidState.takesFront_take.selfDelimiting CentroidState.take_put
  have splats := SplatConfig.takesFront_take.selfDelimiting SplatConfig.take_put
  have encoders := EncoderConfig.takesFront_take.selfDelimiting EncoderConfig.take_put
  exact ⟨⟨Envelope.selfDelimiting, centroids, splats, encoders⟩, Component.refusesCut centroids,
    Component.refusesCut splats, Component.refusesCut encoders⟩

open Compression in
/-- A splat whose envelope lacks its last byte, and one whose state does. -/
theorem binary_format_self_delimiting_splat :
    let config : SplatConfig := ⟨"s"⟩
    let e : Envelope := ⟨1, "Splat", 1, "name: s\n", {}, config.put⟩
    let files : FileSystem :=
      ⟨[(["f"], .file (Compressor.compress e.put.dropLast)),
        (["g"], .file (Compressor.compress { e with state := config.put.dropLast }.put))]⟩
    Envelope.take (e.put ++ [7]) = some (e, [7]) ∧ Envelope.take e.put.dropLast = none ∧
      Component.loadBinary Splat {} files "f" = .error (.unreadable .malformed) ∧
      Component.loadBinary Splat {} files "g" = .error (.unreadable .malformed) := by
  intro config e files
  obtain ⟨⟨envelopes, -, -, -⟩, -, splats, -⟩ := binary_format_self_delimiting
  have fits : e.put.length < UInt64.size := by decide +kernel
  have shorter : e.put.dropLast ≠ e.put := by decide +kernel
  refine ⟨envelopes.exact e fits [7], envelopes.short e fits _ (List.dropLast_prefix _) shorter,
    ?_, ?_⟩
  · exact splats.envelope {} files "f" _ _ e rfl (Compressor.decompress_compress _) fits
      (List.dropLast_prefix _) shorter
  · refine splats.state {} files "g" _ _ { e with state := config.put.dropLast } config rfl
      (Compressor.decompress_compress _) ?_ rfl rfl rfl (by decide +kernel)
      (List.dropLast_prefix _) (by decide +kernel)
    exact ⟨_, [], (List.append_nil _).symm, by decide +kernel⟩

end TextVec
