import TextVec.Proofs.Text.LowerNormal
import TextVec.Tokenizer

/-!
# Prepared texts

A tokenizer composes a text first and takes its lower-case form then, which may bring together a
small letter and a mark that compose, although the capital letter and the mark do not. Main
statement: preparing a text a third time changes nothing, preparing it again changes nothing exactly
if the prepared text is in normal form, and that it is if no capital letter of the composed text has
a mark right behind it.
-/

namespace TextVec

namespace Text

/-! ## The normal form of a lower-case form -/

/-- Every character of a normal form settles: elementary ones do, and composing keeps it. -/
theorem settles_of_mem_normalize {text : List Char} {c : Char} (h : c ∈ normalize text) :
    Settles c := by
  refine forall_mem_compose ?_ (fun d member => ?_) c h
  · intro a b c settled composes
    obtain ⟨same, notCapital⟩ := isCapital_of_composes composes
    rcases settled with capital | small
    · exact .inl (same.mp capital)
    · refine .inr ?_
      rw [decomposeChar_of_composes composes]
      exact List.forall_mem_append.mpr ⟨small, by simpa using notCapital⟩
  · exact settles_of_elementary (isElementary_of_mem_decompose member)

/-- The lower-case form of a normal form has no capital letter left, also when it is taken
apart. -/
theorem not_isCapital_of_mem_decompose_lowercase {text : List Char} {d : Char}
    (h : d ∈ decompose (lowercase (normalize text))) : ¬ IsCapital d := by
  obtain ⟨e, lowered, part⟩ := List.mem_flatMap.mp (mem_orderMarks.mp h)
  obtain ⟨before, c, member, after, form⟩ := exists_of_mem_lowerFrom lowered
  -- A capital letter became small letters, and any other character of a normal form settles.
  by_cases capital : IsCapital c
  · exact not_isCapital_of_mem_decomposeChar
      (testBit_smallLetters_of_mem_lowerAt capital form) part
  · rw [lowerAt_of_not_capital capital, List.mem_singleton] at form
    exact (settles_of_mem_normalize member).resolve_left capital d (form ▸ part)

/-- **Composing the lower-case form of a normal form** makes no capital letter. -/
theorem lowercase_normalize_lowercase_normalize (text : List Char) :
    lowercase (normalize (lowercase (normalize text))) = normalize (lowercase (normalize text)) :=
  lowercase_of_not_capital <| forall_mem_compose
    (fun _ _ _ small composes capital => small ((isCapital_of_composes composes).1.mpr capital))
    fun _ member => not_isCapital_of_mem_decompose_lowercase member

end Text

namespace Tokenizer

open Text (normalize)

/-! ## Preparing a text -/

/-- With both steps a text is composed first. -/
theorem prepare_of_both {tokenizer : Tokenizer} (composes : tokenizer.normalizeUnicode = true)
    (lowers : tokenizer.lowercase = true) (text : List Char) :
    tokenizer.prepare text = Text.lowercase (normalize text) := by
  simp only [prepare, composes, lowers, if_true]

/-- Without one of the two steps, a prepared text stays as it is. -/
theorem prepare_prepare_of_single {tokenizer : Tokenizer}
    (single : tokenizer.normalizeUnicode = false ∨ tokenizer.lowercase = false)
    (text : List Char) : tokenizer.prepare (tokenizer.prepare text) = tokenizer.prepare text := by
  cases composes : tokenizer.normalizeUnicode <;> cases lowers : tokenizer.lowercase
  · simp [prepare, composes, lowers]
  · simp [prepare, composes, lowers, Text.lowercase_lowercase]
  · simp [prepare, composes, lowers, Text.normalize_normalize]
  · simp [composes, lowers] at single

/-- With both steps, preparing a text again only composes it. -/
theorem prepare_prepare_of_both {tokenizer : Tokenizer}
    (composes : tokenizer.normalizeUnicode = true) (lowers : tokenizer.lowercase = true)
    (text : List Char) :
    tokenizer.prepare (tokenizer.prepare text) = normalize (tokenizer.prepare text) := by
  rw [prepare_of_both composes lowers, prepare_of_both composes lowers,
    Text.lowercase_normalize_lowercase_normalize]

/-- Composing leaves nothing for the lower-case form to bring together, if it is taken: no capital
letter of the composed text has a mark right behind it. -/
def Separate (tokenizer : Tokenizer) (text : List Char) : Prop :=
  tokenizer.normalizeUnicode = true → tokenizer.lowercase = true → Text.Bare (normalize text)

/-- A prepared text is in the forms that the tokenizer asks for. -/
structure Settled (tokenizer : Tokenizer) (text : List Char) : Prop where
  /-- In normal form, if it composes. -/
  normal : tokenizer.normalizeUnicode = true → normalize text = text
  /-- In lower case, if that is asked for. -/
  small : tokenizer.lowercase = true → Text.lowercase text = text

/-- A prepared text is in lower case, as that is the last step. -/
theorem lowercase_prepare {tokenizer : Tokenizer} (lowers : tokenizer.lowercase = true)
    (text : List Char) : Text.lowercase (tokenizer.prepare text) = tokenizer.prepare text := by
  simp only [prepare, lowers, if_true, Text.lowercase_lowercase]

/-- Preparing what is settled changes nothing. -/
theorem Settled.prepare_eq {tokenizer : Tokenizer} {text : List Char}
    (h : tokenizer.Settled text) : tokenizer.prepare text = text := by
  have composed : (if tokenizer.normalizeUnicode then normalize text else text) = text := by
    split
    · exact h.normal ‹_›
    · rfl
  rw [prepare, composed]
  split
  · exact h.small ‹_›
  · rfl

/-- A prepared text is settled exactly if preparing it again changes nothing. -/
theorem settled_prepare_iff {tokenizer : Tokenizer} {text : List Char} :
    tokenizer.Settled (tokenizer.prepare text) ↔
      tokenizer.prepare (tokenizer.prepare text) = tokenizer.prepare text := by
  refine ⟨Settled.prepare_eq, fun again => ⟨fun composes => ?_, fun lowers => ?_⟩⟩
  -- If it is put into lower case too, preparing it again is only composing it.
  · cases lowers : tokenizer.lowercase with
    | true => rw [← prepare_prepare_of_both composes lowers, again]
    | false =>
      have prepared : tokenizer.prepare text = normalize text := by
        simp [prepare, composes, lowers]
      rw [prepared, Text.normalize_normalize]
  · exact lowercase_prepare lowers text

/-- A text of which the composed form keeps small letters and marks apart is settled when it was
prepared. -/
theorem settled_prepare_of_separate {tokenizer : Tokenizer} {text : List Char}
    (separate : tokenizer.Separate text) : tokenizer.Settled (tokenizer.prepare text) := by
  rw [settled_prepare_iff]
  cases composes : tokenizer.normalizeUnicode with
  | false => exact prepare_prepare_of_single (.inl composes) text
  | true =>
    cases lowers : tokenizer.lowercase with
    | false => exact prepare_prepare_of_single (.inr lowers) text
    | true =>
      rw [prepare_prepare_of_both composes lowers, prepare_of_both composes lowers]
      exact Text.normalize_lowercase_normalize_of_bare (separate composes lowers)

/-- What was prepared twice is settled. -/
theorem settled_prepare_prepare (tokenizer : Tokenizer) (text : List Char) :
    tokenizer.Settled (tokenizer.prepare (tokenizer.prepare text)) := by
  refine ⟨fun composes => ?_, fun lowers => lowercase_prepare lowers _⟩
  cases lowers : tokenizer.lowercase with
  | true => rw [prepare_prepare_of_both composes lowers, Text.normalize_normalize]
  | false =>
    have same := prepare_prepare_of_single (.inr lowers) text
    exact (settled_prepare_iff.mpr (by rw [same, same])).normal composes

/-- Texts with one prepared form have the same tokens. -/
theorem tokenize_congr {tokenizer : Tokenizer} {text other : String}
    (same : tokenizer.prepare text.toList = tokenizer.prepare other.toList) :
    tokenizer.tokenize text = tokenizer.tokenize other := by
  rw [tokenize, same, tokenize]

/-- **Preparing settles** with the second time, and with the first one if nothing is left to be
brought together, which is so whenever one of the two steps is left out. A text and its prepared
form have the same tokens then. Texts that are taken apart into the same characters have the same
tokens if they are composed, and so do texts of which the prepared forms are, if those are
settled. -/
theorem preparing_settles (tokenizer : Tokenizer) (text : String) :
    let prepared := tokenizer.prepare text.toList
    tokenizer.Settled (tokenizer.prepare prepared) ∧
    (tokenizer.Settled prepared ↔ tokenizer.prepare prepared = prepared) ∧
    (tokenizer.Separate text.toList → tokenizer.Settled prepared ∧
      tokenizer.prepare prepared = prepared ∧
      tokenizer.tokenize (String.ofList prepared) = tokenizer.tokenize text) ∧
    ∀ other : String, tokenizer.normalizeUnicode = true →
      (Text.decompose text.toList = Text.decompose other.toList ∨
        tokenizer.Separate text.toList ∧ tokenizer.Separate other.toList ∧
          Text.decompose prepared = Text.decompose (tokenizer.prepare other.toList)) →
      tokenizer.tokenize text = tokenizer.tokenize other := by
  intro prepared
  refine ⟨settled_prepare_prepare tokenizer text.toList, settled_prepare_iff, fun separate => ?_,
    fun other composes same => tokenize_congr ?_⟩
  · have settled := settled_prepare_of_separate separate
    refine ⟨settled, settled.prepare_eq, tokenize_congr ?_⟩
    rw [String.toList_ofList, settled.prepare_eq]
  · rcases same with apart | ⟨separate, otherSeparate, apart⟩
    · have composed := Text.normalize_eq_iff.mpr apart
      simp only [prepare, composes, if_true, composed]
    · have settled := settled_prepare_of_separate separate
      have otherSettled := settled_prepare_of_separate otherSeparate
      rw [← settled.normal composes, ← otherSettled.normal composes, Text.normalize_eq_iff]
      exact apart

/-- A full-width letter and a mark for which there is one character, and a sigma at the end. -/
theorem preparing_settles_full_width :
    let text := "Ｅ\u0301Σ"
    Tokenizer.Separate {} text.toList ∧ Tokenizer.Settled {} (Tokenizer.prepare {} text.toList) ∧
      Tokenizer.tokenize {} text = ["éς"] ∧ Tokenizer.tokenize {} "éς" = ["éς"] ∧
      Tokenizer.tokenize {} "ÉΣ" = ["éς"] := by
  intro text
  have separate : Tokenizer.Separate {} text.toList := fun _ _ => by decide +kernel
  have prepared : Tokenizer.prepare {} text.toList = "éς".toList := by decide +kernel
  have tokens : Tokenizer.tokenize {} text = ["éς"] := by
    rw [tokenize, prepared]
    decide +kernel
  obtain ⟨-, -, once, same⟩ := preparing_settles {} text
  obtain ⟨settled, -, again⟩ := once separate
  rw [prepared, String.ofList_toList] at again
  refine ⟨separate, settled, tokens, again.trans tokens, ?_⟩
  rw [← same "ÉΣ" rfl (.inl (by decide +kernel)), tokens]

/-- A small h composes with the line below it, and a capital one does not. -/
theorem preparing_again_composes :
    Tokenizer.prepare {} "H\u0331".toList = "h\u0331".toList ∧
      Tokenizer.prepare {} "h\u0331".toList = "ẖ".toList ∧
      Text.normalize "h\u0331".toList = "ẖ".toList ∧
      (∀ kind, Tokenizer.tokenize { kind } "H\u0331" = ["h\u0331"]) ∧
      ∀ kind, Tokenizer.tokenize { kind } "h\u0331" = ["ẖ"] := by
  have once : Tokenizer.prepare {} "H\u0331".toList = "h\u0331".toList := by decide +kernel
  have again : Tokenizer.prepare {} "h\u0331".toList = "ẖ".toList := by decide +kernel
  refine ⟨once, again, by decide +kernel, fun kind => ?_, fun kind => ?_⟩
  · show (split kind (Tokenizer.prepare {} _)).map String.ofList = _
    rw [once]
    cases kind <;> decide +kernel
  · show (split kind (Tokenizer.prepare {} _)).map String.ofList = _
    rw [again]
    cases kind <;> decide +kernel

end Tokenizer

end TextVec
