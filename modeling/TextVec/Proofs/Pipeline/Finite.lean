import TextVec.Proofs.Encoder.CachedTable
import TextVec.Proofs.Number.Numeral
import TextVec.Proofs.Number.Single
import TextVec.Proofs.Pipeline.Batching
import TextVec.Proofs.Table.LastRow

/-!
# Finite vectors

A table has finite numbers only, but their sum need not be finite, and dividing it by the number of
tokens comes too late then. Main statement: a number of a vector is finite exactly if adding up what
the tokens have at its place stays within single precision, and a line of JSON has numbers at
exactly the places that are finite and null at all others.
-/

namespace TextVec

/-! ## Means -/

namespace Pooling

/-- What vectors have at a place, of those that reach so far. -/
def column (place : Nat) (vectors : List Vector32) : List Float32 :=
  vectors.filterMap fun v => v[place]?

/-- Adding is done at each place by itself, up to the end of the sum. -/
theorem getElem?_addTo (xs ys : Vector32) (place : Nat) :
    (addTo xs ys)[place]? = xs[place]?.map fun x => ys[place]?.elim x (x + ·) := by
  induction xs generalizing ys place with
  | nil => cases ys <;> rfl
  | cons x xs ih =>
    cases ys with
    | nil => simp [addTo]
    | cons y ys =>
      cases place with
      | zero => rfl
      | succ place => simpa [addTo] using ih ys place

/-- Vectors are added up at each place for itself. -/
theorem getElem?_foldl_addTo (vectors : List Vector32) (start : Vector32) (place : Nat) :
    (vectors.foldl addTo start)[place]? =
      start[place]?.map fun x => (column place vectors).foldl (· + ·) x := by
  -- On the vectors, from any sum that was reached so far.
  induction vectors generalizing start with
  | nil => simp [column]
  | cons v rest ih =>
    rw [List.foldl_cons, ih, getElem?_addTo, Option.map_map]
    congr
    funext x
    cases h : v[place]? <;> simp [column, h]

/-- A number of a mean is the sum of what the vectors have at its place, divided by their number. -/
theorem getElem?_pool {pooling : Pooling} {vectors : List Vector32} {dimension place : Nat}
    {x : Float32} (h : (pooling.pool vectors dimension)[place]? = some x) :
    if vectors.isEmpty then x = 0
    else x = Single.sum (column place vectors) / Float32.ofNat vectors.length := by
  have start {zero : Float32} (h : (zeros dimension)[place]? = some zero) : zero = 0 :=
    List.eq_of_mem_replicate (List.mem_of_getElem? h)
  unfold pool at h
  simp only at h
  split
  · rename_i none
    rw [if_pos none, List.isEmpty_iff.mp none] at h
    exact start h
  · rename_i some
    rw [if_neg some, List.getElem?_map, getElem?_foldl_addTo, Option.map_map] at h
    obtain ⟨zero, first, rfl⟩ := Option.map_eq_some_iff.mp h
    rw [start first]
    rfl

/-- How finite a vector is that was made of others: it has the dimension that was asked for, and a
number of it is finite exactly if adding up what the others have at its place stays within the
finite numbers. It is a number in any case, if there are not too many others to be counted. -/
structure FiniteAsSums (found : List Vector32) (dimension : Nat) (vector : Vector32) : Prop where
  /-- It has the dimension that was asked for. -/
  length : vector.length = dimension
  /-- At each place it is finite exactly if no sum on the way to it leaves the finite numbers. -/
  finite_iff : ∀ place x, vector[place]? = some x →
    (x.isFinite = true ↔ ∀ n, (Single.sum ((column place found).take n)).isFinite = true)
  /-- It is a number at each place, if the vectors can be counted. -/
  number : found.length < UInt64.size → ∀ x ∈ vector, x.isNaN = false

/-- The mean of finite vectors is as finite as their sums. -/
theorem finiteAsSums_pool (pooling : Pooling) {found : List Vector32} (dimension : Nat)
    (finite : ∀ v ∈ found, ∀ x ∈ v, x.isFinite = true) :
    FiniteAsSums found dimension (pooling.pool found dimension) where
  length := length_pool pooling found dimension
  finite_iff place x h := by
    -- Dividing by a count neither leaves the finite numbers nor comes back to them.
    rw [← Single.isFinite_sum_iff]
    have mean := getElem?_pool h
    split at mean
    · rename_i none
      rw [mean, List.isEmpty_iff.mp none]
      rfl
    · rename_i some
      have positive : 0 < found.length := List.length_pos_iff.mpr (by simpa using some)
      rw [mean, Single.isFinite_div_ofNat positive]
  number counted x member := by
    obtain ⟨place, h⟩ := List.mem_iff_getElem?.mp member
    have mean := getElem?_pool h
    split at mean
    · rw [mean]
      rfl
    · rename_i some
      have positive : 0 < found.length := List.length_pos_iff.mpr (by simpa using some)
      rw [mean]
      refine Single.isNaN_div_ofNat positive counted (Single.isNaN_sum fun y member => ?_)
      obtain ⟨v, there, here⟩ := List.mem_filterMap.mp member
      exact finite v there y (List.mem_of_getElem? here)

end Pooling

/-- A table that was read has finite vectors only, those of the tokens that it does not have among
them. -/
theorem VectorTable.IsFrom.finite {table : VectorTable} {config : EncoderConfig}
    {files : FileSystem} (h : table.IsFrom config files) (token : String) :
    ∀ x ∈ table.lookup token, x.isFinite = true := by
  obtain ⟨content, -, rfl⟩ := h
  intro x member
  unfold lookup at member
  cases found : (parse config.skipRows config.dimension content).1.get? token with
  | none =>
    rw [found] at member
    rw [List.eq_of_mem_replicate member]
    rfl
  | some vector =>
    rw [found] at member
    obtain ⟨line, -, row⟩ := exists_row_of_get? found
    exact row.wellFormed.2 x member

theorem VectorTable.IsFrom.dimension {table : VectorTable} {config : EncoderConfig}
    {files : FileSystem} (h : table.IsFrom config files) : table.dimension = config.dimension := by
  obtain ⟨content, -, rfl⟩ := h
  rfl

/-! ## Lines -/

/-- Whatever the lines are, the output is that of some texts. -/
theorem exists_texts_of_encodeFrom {files : FileSystem} {vector : String → Vector32} {size : Nat}
    {texts : List String} {done : Encoded} (h : done.Holds files vector texts) (lines : List Bytes)
    (pending : List String) :
    ∃ more, (encodeFrom files size pending done lines).2.Holds files vector more := by
  -- On the lines; at each of them the loop may end, and then some texts were encoded.
  induction lines generalizing pending texts done with
  | nil =>
    rw [encodeFrom]
    split
    · exact ⟨texts, h⟩
    · obtain ⟨after, step, held⟩ := encodeBatchOf_holds h pending.reverse
      rw [step]
      exact ⟨_, held⟩
  | cons line rest ih =>
    rw [encodeFrom]
    cases Text.ofUtf8? line with
    | none => exact ⟨texts, h⟩
    | some text =>
      simp only
      split
      · obtain ⟨middle, step, held⟩ := encodeBatchOf_holds h (text :: pending).reverse
        rw [step]
        exact ih held []
      · exact ih h (text :: pending)

/-- An encoder that cannot encode writes nothing. -/
theorem output_encodeFrom_of_error {files : FileSystem} {failure : Failure} {size : Nat}
    {done : Encoded} (h : done.encoder.encoding files = .error failure) (lines : List Bytes)
    (pending : List String) :
    (encodeFrom files size pending done lines).2.output = done.output := by
  induction lines generalizing pending with
  | nil =>
    rw [encodeFrom]
    split
    · rfl
    · obtain ⟨after, step, kept⟩ := encodeBatchOf_error h pending.reverse
      rw [step]
      exact kept
  | cons line rest ih =>
    rw [encodeFrom]
    cases Text.ofUtf8? line with
    | none => rfl
    | some text =>
      simp only
      -- Only a whole batch is encoded here; a shorter one goes on to the next line.
      split
      · obtain ⟨after, step, kept⟩ := encodeBatchOf_error h (text :: pending).reverse
        rw [step]
        exact kept
      · exact ih (text :: pending)

theorem output_encodeLines (files : FileSystem) (e : Encoder) (input : Bytes) :
    (encodeLines files e input).2.output =
      (encodeFrom files e.batchSize [] { encoder := e } (inputLines input)).2.output := by
  unfold encodeLines
  split <;> rename_i run <;> rw [run]

/-- Every line that is written is that of a vector which some text is encoded as. -/
theorem exists_vectors_of_encodeLines (files : FileSystem) (e : Encoder) (input : Bytes) :
    ∃ vectors, (encodeLines files e input).2.output = outputOf vectors ∧
      ∀ vector ∈ vectors, ∃ text, (e.encode files [text]).result = .ok [vector] := by
  rw [output_encodeLines]
  cases able : e.encoding files with
  | error failure =>
    have start : (Encoded.mk e 0 "" []).encoder.encoding files = .error failure := able
    exact ⟨[], output_encodeFrom_of_error start .., by simp⟩
  | ok vectorOf =>
    have start : (Encoded.mk e 0 "" []).Holds files vectorOf [] := ⟨able, rfl, rfl⟩
    obtain ⟨texts, held⟩ := exists_texts_of_encodeFrom start (inputLines input) []
    refine ⟨texts.map vectorOf, held.output, fun vector member => ?_⟩
    obtain ⟨text, -, rfl⟩ := List.mem_map.mp member
    exact ⟨text, Encoder.encode_eq_ok_iff.mpr ⟨vectorOf, able, rfl⟩⟩

namespace Encoder

/-- What a new encoder encodes with, once its file is found. -/
theorem encoding_fresh {settings : HandleSettings} {config : EncoderConfig}
    {properties : Properties} {pooling : Pooling} {files : FileSystem} {content : Bytes}
    (trained : properties.isTrained = true) (named : config.pooling = pooling.name)
    (found : files.read config.modelPath = .ok content) :
    (fresh settings config properties).encoding files = .ok fun text =>
      vectorOf pooling (VectorTable.parse config.skipRows config.dimension content).1
        (config.tokenizer.tokenize text) :=
  encoding_eq_ok_iff.mpr
    ⟨pooling, _, if_pos trained, pooling_of_name named, needTable_of_read rfl found, rfl⟩

/-- **Vectors are finite unless a sum is not.** Whatever has happened to an encoder, the table that
it encodes with has finite numbers only, and each number of a vector is finite exactly if adding up
the numbers that the tokens of the text have at its place stays within the finite numbers of single
precision; the division never leaves them. Every line that is written, whether encoding all lines
succeeds or not, is an array of the configured number of items: for each finite number of such a
vector a number that stands for it, and null for any other. -/
theorem finite_unless_sum_overflows {e : Encoder} {point : Option FileSystem}
    (history : History e point) (files : FileSystem) :
    (∀ texts vectors, (e.encode files texts).result = .ok vectors →
      vectors.length = texts.length ∧
      ∃ table, (e.needTable files).result = .ok table ∧
        (∀ token, ∀ x ∈ table.lookup token, x.isFinite = true) ∧
        ∀ (i : Nat) text vector, texts[i]? = some text → vectors[i]? = some vector →
          Pooling.FiniteAsSums ((e.tokenizer text).map table.lookup)
            e.config.dimension.toNat vector) ∧
    ∀ input, ∃ vectors : List Vector32,
      (encodeLines files e input).2.output =
        String.join (vectors.map fun v => Json.writeVector v ++ "\n") ∧
      ∀ vector ∈ vectors,
        (∃ text, (e.encode files [text]).result = .ok [vector]) ∧
        ∃ items, Json.writeVector vector = "[" ++ ",".intercalate items ++ "]" ∧
          items.length = e.config.dimension.toNat ∧ Json.AreItemsOf vector items := by
  -- What is written are vectors of texts, so the second part follows from the first.
  refine (fun encoded => ⟨encoded, fun input => ?_⟩) fun texts vectors ok => ?_
  · obtain ⟨_, able, rfl⟩ := encode_eq_ok_iff.mp ok
    obtain ⟨pooling, table, -, -, needed, rfl⟩ := encoding_eq_ok_iff.mp able
    obtain ⟨source, -, isFrom⟩ := (inStep_of_history history).needed needed
    refine ⟨List.length_map _, table, needed, isFrom.finite, fun i text vector here there => ?_⟩
    -- The vector is the mean of what the table has for the tokens of its text.
    rw [List.getElem?_map, here] at there
    cases there
    rw [← isFrom.dimension]
    refine Pooling.finiteAsSums_pool pooling _ fun v member => ?_
    obtain ⟨token, -, rfl⟩ := List.mem_map.mp member
    exact isFrom.finite token
  · obtain ⟨vectors, output, made⟩ := exists_vectors_of_encodeLines files e input
    refine ⟨vectors, output, fun vector member => ⟨made vector member, ?_⟩⟩
    obtain ⟨text, ok⟩ := made vector member
    obtain ⟨-, table, -, -, finite⟩ := encoded _ _ ok
    obtain ⟨items, written, areItems⟩ := Json.exists_items vector
    have length := (finite 0 text vector rfl rfl).length
    exact ⟨items, written, areItems.length.trans length, areItems⟩

/-- A token that is repeated, with a number that is far from too large. -/
theorem finite_unless_sum_overflows_repeated :
    let e := fresh {} { modelPath := "v.txt", skipRows := 0, dimension := 1 } ⟨true, some 64⟩
    let files : FileSystem := ⟨[(["v.txt"], .file [97, 32, 49, 10])]⟩
    History e none ∧ ∃ vectors, (e.encode files ["a a"]).result = .ok vectors ∧
      vectors.length = 1 ∧
      ∀ (i : Nat) vector x, vectors[i]? = some vector → vector[0]? = some x →
        x.isFinite = true := by
  intro e files
  let config : EncoderConfig := { modelPath := "v.txt", skipRows := 0, dimension := 1 }
  have built : Component.build {} config.given {} = .ok e := build_given rfl {}
  have history : History e none := .made (.constructed (.built built))
  have found : files.read "v.txt" = .ok [97, 32, 49, 10] := rfl
  have row : (VectorTable.parse 0 1 [97, 32, 49, 10]).1.get? "a" = some [1] := by
    rw [VectorTable.get?_parse]
    decide +kernel
  have tokens : Tokenizer.tokenize {} "a a" = ["a", "a"] := by decide +kernel
  have encoded : (e.encode files ["a a"]).result = .ok _ :=
    encode_eq_ok_iff.mpr ⟨_, @encoding_fresh _ _ _ .mean _ _ rfl rfl found, rfl⟩
  obtain ⟨length, table, needed, -, finite⟩ :=
    (finite_unless_sum_overflows history files).1 ["a a"] _ encoded
  refine ⟨history, _, encoded, length, fun i vector x here first => ?_⟩
  obtain rfl : i = 0 := by
    have inside := (List.getElem?_eq_some_iff.mp here).1
    rw [length] at inside
    exact Nat.lt_one_iff.mp inside
  have read : (e.needTable files).result = .ok (VectorTable.parse 0 1 [97, 32, 49, 10]).1 :=
    needTable_of_read rfl found
  obtain rfl := Except.ok.inj (read.symm.trans needed)
  have tokenizer : e.tokenizer = Tokenizer.tokenize {} := rfl
  have same : e.tokenizer "a a" = ["a", "a"] := (congrFun tokenizer "a a").trans tokens
  have lookup : (VectorTable.parse 0 1 [97, 32, 49, 10]).1.lookup "a" = [1] := by
    rw [VectorTable.lookup, row]
    rfl
  refine ((finite 0 "a a" vector rfl here).finite_iff 0 x first).mpr ?_
  rw [← Single.isFinite_sum_iff, same, List.map_cons, List.map_cons, List.map_nil, lookup]
  decide +kernel

/-- A token that is repeated, with a number that is finite although twice that number is not. -/
theorem sum_overflows :
    let files : FileSystem := ⟨[(["v.txt"], .file [100, 32, 51, 101, 51, 56, 10])]⟩
    ∃ e : Encoder, ∃ x : Float32,
      Component.build {} (EncoderConfig.given { modelPath := "v.txt", skipRows := 0, dimension := 1 })
        {} = .ok e ∧
      (e.encode files ["d d"]).result = .ok [[x]] ∧ x.isFinite = false ∧
      (encodeLines files e [100, 32, 100, 10]).2.output = "[null]\n" := by
  intro files
  let config : EncoderConfig := { modelPath := "v.txt", skipRows := 0, dimension := 1 }
  let e := fresh {} config ⟨true, some 64⟩
  let table := (VectorTable.parse 0 1 [100, 32, 51, 101, 51, 56, 10]).1
  let large := Float32.ofBits 0x7F61B1E6
  have built : Component.build {} config.given {} = .ok e := build_given rfl {}
  have found : files.read "v.txt" = .ok [100, 32, 51, 101, 51, 56, 10] := rfl
  have encoding : e.encoding files = .ok _ := @encoding_fresh _ _ _ .mean _ _ rfl rfl found
  have row : table.get? "d" = some [large] := by
    rw [VectorTable.get?_parse]
    decide +kernel
  have tokens : Tokenizer.tokenize {} "d d" = ["d", "d"] := by decide +kernel
  have vector : vectorOf .mean table (Tokenizer.tokenize {} "d d") =
      [(0 + large + large) / Float32.ofNat 2] := by
    have lookup : table.lookup "d" = [large] := by
      rw [VectorTable.lookup, row]
      rfl
    rw [tokens, vectorOf, List.map_cons, List.map_cons, lookup]
    rfl
  have infinite : ((0 + large + large) / Float32.ofNat 2).isFinite = false := by decide +kernel
  refine ⟨e, _, built,
    encode_eq_ok_iff.mpr ⟨_, encoding, congrArg (fun v => [v]) vector⟩, infinite, ?_⟩
  have start : (Encoded.mk e 0 "" []).Holds files _ [] := ⟨encoding, rfl, rfl⟩
  have lines : inputLines [100, 32, 100, 10] = ["d d"].map Text.toUtf8 := by decide +kernel
  have line : Json.writeVector [(0 + large + large) / Float32.ofNat 2] = "[null]" := by
    rw [Json.writeVector, List.map_singleton, Json.writeSingle_of_not_finite infinite]
    decide
  obtain ⟨after, run, held⟩ := @encodeFrom_holds _ _ e.batchSize _ ["d d"] _ start []
  rw [output_encodeLines, lines, run, held.output]
  show String.join
    [Json.writeVector (vectorOf .mean table (Tokenizer.tokenize {} "d d")) ++ "\n"] = _
  rw [vector, line]
  decide

end Encoder

end TextVec
