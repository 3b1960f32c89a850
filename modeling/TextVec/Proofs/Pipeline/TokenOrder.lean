import TextVec.Proofs.Number.Exact
import TextVec.Proofs.Pipeline.Finite

/-!
# The order of tokens

A mean is computed by adding up in the order of the tokens, and single precision rounds on the way.
Main statement: texts that have the same tokens in different orders have the same mean if there are
two tokens at most, and otherwise at each place where nothing is lost in adding up.
-/

namespace TextVec

namespace Pooling

theorem column_perm {vectors others : List Vector32} (permuted : vectors.Perm others)
    (place : Nat) : (column place vectors).Perm (column place others) :=
  permuted.filterMap _

/-- A sum has at each place what adding up the column there gives, from zero on. -/
theorem getElem?_sum (vectors : List Vector32) (dimension place : Nat) :
    (vectors.foldl addTo (zeros dimension))[place]? =
      if place < dimension then some (Single.sum (column place vectors)) else none := by
  rw [getElem?_foldl_addTo, zeros, List.getElem?_replicate]
  split <;> rfl

/-- Means of as many vectors are the same at a place where the sums are. -/
theorem getElem?_pool_eq (pooling : Pooling) {vectors others : List Vector32}
    (counted : vectors.length = others.length) (dimension : Nat) {place : Nat}
    (same : Single.sum (column place vectors) = Single.sum (column place others)) :
    (pooling.pool vectors dimension)[place]? = (pooling.pool others dimension)[place]? := by
  have empty : vectors.isEmpty = others.isEmpty := by
    rw [← Bool.coe_iff_coe, List.isEmpty_iff_length_eq_zero, List.isEmpty_iff_length_eq_zero,
      counted]
  -- Whether there are any vectors, and how many, is the same for both; so only the sums count.
  unfold pool
  simp only [empty, counted]
  split
  · rw [getElem?_sum, getElem?_sum, same]
  · rw [List.getElem?_map, List.getElem?_map, getElem?_sum, getElem?_sum, same]

/-- The mean of one vector or two does not depend on their order. -/
theorem pool_eq_of_length_le_two (pooling : Pooling) {vectors others : List Vector32}
    (permuted : vectors.Perm others) (few : vectors.length ≤ 2) (dimension : Nat) :
    pooling.pool vectors dimension = pooling.pool others dimension := by
  refine List.ext_getElem? fun place => getElem?_pool_eq pooling permuted.length_eq dimension ?_
  have short : (column place vectors).length ≤ 2 :=
    Nat.le_trans (List.length_filterMap_le ..) few
  exact Single.sum_eq_of_length_le_two (column_perm permuted place) short

end Pooling

theorem VectorTable.lookup_parse {skip dimension : UInt64} {content : Bytes} {token : String}
    {vector : Vector32} (h : ((lines content).drop skip.toNat).reverse.findSome?
      (vectorIn? dimension.toNat token) = some vector) :
    (parse skip dimension content).1.lookup token = vector := by
  rw [lookup, get?_parse, h]
  rfl

namespace Encoder

/-- **The order of tokens only shows by rounding.** An encoder gives the same vector to two texts
that have the same tokens in different orders, if there are two tokens at most. If there are more,
the vectors are the same at each place where what the tokens have there is added up without a loss
in both orders; and so it is added up in every order, if it consists of multiples of one power of
two that together fit into 24 binary digits, such as whole numbers which are not too large. -/
theorem order_only_shows_by_rounding {e : Encoder} {point : Option FileSystem}
    (history : History e point) {files : FileSystem} {texts : List String}
    {vectors : List Vector32} (ok : (e.encode files texts).result = .ok vectors) :
    ∃ table, (e.needTable files).result = .ok table ∧
      ∀ (i j : Nat) a b x y, texts[i]? = some a → texts[j]? = some b →
        vectors[i]? = some x → vectors[j]? = some y →
        (e.tokenizer a).Perm (e.tokenizer b) →
        ((e.tokenizer a).length ≤ 2 → x = y) ∧
        ∀ place,
          let found text := Pooling.column place ((e.tokenizer text).map table.lookup)
          (Single.AddsUp (found a) → Single.AddsUp (found b) → x[place]? = y[place]?) ∧
          ∀ k, Single.OnGrid k (found a) →
            Single.AddsUp (found a) ∧ Single.AddsUp (found b) ∧ x[place]? = y[place]? := by
  obtain ⟨_, able, rfl⟩ := encode_eq_ok_iff.mp ok
  obtain ⟨pooling, table, -, -, needed, rfl⟩ := encoding_eq_ok_iff.mp able
  obtain ⟨source, -, isFrom⟩ := (inStep_of_history history).needed needed
  refine ⟨table, needed, fun i j a b x y hereA hereB thereX thereY permuted => ?_⟩
  -- Both vectors were made by one function, of texts with the same tokens.
  rw [List.getElem?_map, hereA] at thereX
  rw [List.getElem?_map, hereB] at thereY
  cases thereX
  cases thereY
  have vectors := permuted.map table.lookup
  refine ⟨fun few => ?_, fun place => ?_⟩
  · exact Pooling.pool_eq_of_length_le_two pooling vectors (by rwa [List.length_map]) _
  · intro found
    have permutedFound : (found a).Perm (found b) := Pooling.column_perm vectors place
    have same (exactA : Single.AddsUp (found a)) (exactB : Single.AddsUp (found b)) :
        (vectorOf pooling table (e.tokenizer a))[place]? =
          (vectorOf pooling table (e.tokenizer b))[place]? :=
      Pooling.getElem?_pool_eq pooling vectors.length_eq _
        (Single.sum_eq_of_addsUp permutedFound exactA exactB)
    -- Every number that is found is from the table, and that has finite ones only.
    have finite (text : String) : ∀ x ∈ found text, x.isFinite = true := by
      intro x member
      obtain ⟨v, there, here⟩ := List.mem_filterMap.mp member
      obtain ⟨token, -, rfl⟩ := List.mem_map.mp there
      exact isFrom.finite token x (List.mem_of_getElem? here)
    refine ⟨same, fun k onGrid => ?_⟩
    have exactA := onGrid.addsUp (finite a)
    have exactB := (onGrid.perm permutedFound).addsUp (finite b)
    exact ⟨exactA, exactB, same exactA exactB⟩

/-- Three tokens with a fraction and numbers of both signs. -/
theorem order_only_shows_by_rounding_three :
    let content : Bytes := [97, 32, 48, 46, 53, 10, 98, 32, 45, 50, 10, 99, 32, 52, 10]
    let e := fresh {} { modelPath := "v.txt", skipRows := 0, dimension := 1 } ⟨true, some 64⟩
    let files : FileSystem := ⟨[(["v.txt"], .file content)]⟩
    History e none ∧
      (e.tokenizer "a b c").Perm (e.tokenizer "c a b") ∧
      ∃ x y, (e.encode files ["a b c", "c a b"]).result = .ok [x, y] ∧ x[0]? = y[0]? := by
  intro content e files
  let config : EncoderConfig := { modelPath := "v.txt", skipRows := 0, dimension := 1 }
  have built : Component.build {} config.given {} = .ok e := build_given rfl {}
  have history : History e none := .made (.constructed (.built built))
  have found : files.read "v.txt" = .ok content := rfl
  have encoded : (e.encode files ["a b c", "c a b"]).result = .ok _ :=
    encode_eq_ok_iff.mpr ⟨_, @encoding_fresh _ _ _ .mean _ _ rfl rfl found, rfl⟩
  have tokenizer : e.tokenizer = Tokenizer.tokenize {} := rfl
  have first : e.tokenizer "a b c" = ["a", "b", "c"] := by
    rw [tokenizer]
    decide +kernel
  have second : e.tokenizer "c a b" = ["c", "a", "b"] := by
    rw [tokenizer]
    decide +kernel
  have permuted : (e.tokenizer "a b c").Perm (e.tokenizer "c a b") := by
    rw [first, second]
    decide
  obtain ⟨table, needed, same⟩ := order_only_shows_by_rounding history encoded
  have read : (e.needTable files).result = .ok (VectorTable.parse 0 1 content).1 :=
    needTable_of_read rfl found
  obtain rfl := Except.ok.inj (read.symm.trans needed)
  -- The three numbers are halves: one, minus four and eight of them.
  have column : Pooling.column 0 ((e.tokenizer "a b c").map
      (VectorTable.parse 0 1 content).1.lookup) = [0.5, -2, 4] := by
    have a : (VectorTable.parse 0 1 content).1.lookup "a" = [0.5] :=
      VectorTable.lookup_parse (by decide +kernel)
    have b : (VectorTable.parse 0 1 content).1.lookup "b" = [-2] :=
      VectorTable.lookup_parse (by decide +kernel)
    have c : (VectorTable.parse 0 1 content).1.lookup "c" = [4] :=
      VectorTable.lookup_parse (by decide +kernel)
    rw [first, List.map_cons, List.map_cons, List.map_cons, a, b, c]
    rfl
  have onGrid : Single.OnGrid 148 [0.5, -2, 4] :=
    ⟨by decide +kernel, by decide +kernel, by decide⟩
  rw [← column] at onGrid
  obtain ⟨-, places⟩ := same 0 1 "a b c" "c a b" _ _ rfl rfl rfl rfl permuted
  exact ⟨history, permuted, _, _, encoded, ((places 0).2 148 onGrid).2.2⟩

/-- Two large numbers of both signs take a small one with them if that comes between them, and leave
it as it is if it comes last. -/
theorem order_changes_mean :
    let content : Bytes := [97, 32, 49, 101, 56, 10, 98, 32, 45, 49, 101, 56, 10, 99, 32, 49, 10]
    let files : FileSystem := ⟨[(["v.txt"], .file content)]⟩
    ∃ e : Encoder, ∃ x y : Float32,
      Component.build {} (EncoderConfig.given { modelPath := "v.txt", skipRows := 0, dimension := 1 })
        {} = .ok e ∧
      (e.tokenizer "a b c").Perm (e.tokenizer "a c b") ∧
      (e.encode files ["a b c", "a c b"]).result = .ok [[x], [y]] ∧
      x.toBits = 0x3EAAAAAB ∧ y.toBits = 0 := by
  intro content files
  let config : EncoderConfig := { modelPath := "v.txt", skipRows := 0, dimension := 1 }
  let e := fresh {} config ⟨true, some 64⟩
  let table := (VectorTable.parse 0 1 content).1
  let large := Float32.ofBits 0x4CBEBC20
  have built : Component.build {} config.given {} = .ok e := build_given rfl {}
  have found : files.read "v.txt" = .ok content := rfl
  have first : Tokenizer.tokenize {} "a b c" = ["a", "b", "c"] := by decide +kernel
  have second : Tokenizer.tokenize {} "a c b" = ["a", "c", "b"] := by decide +kernel
  have a : table.lookup "a" = [large] := VectorTable.lookup_parse (by decide +kernel)
  have b : table.lookup "b" = [-large] := VectorTable.lookup_parse (by decide +kernel)
  have c : table.lookup "c" = [1] := VectorTable.lookup_parse (by decide +kernel)
  -- The two sums are left as they are, to be computed at the end.
  have together : [vectorOf .mean table (Tokenizer.tokenize {} "a b c"),
      vectorOf .mean table (Tokenizer.tokenize {} "a c b")] =
        [[(0 + large + -large + 1) / Float32.ofNat 3],
          [(0 + large + 1 + -large) / Float32.ofNat 3]] := by
    simp only [first, second, vectorOf, List.map_cons, List.map_nil, a, b, c]
    rfl
  refine ⟨e, _, _, built, ?_, encode_eq_ok_iff.mpr
    ⟨_, @encoding_fresh _ _ _ .mean _ _ rfl rfl found, together⟩, ?_, ?_⟩
  · have tokenizer : e.tokenizer = Tokenizer.tokenize {} := rfl
    rw [tokenizer, first, second]
    decide
  · decide +kernel
  · decide +kernel

end Encoder

end TextVec
