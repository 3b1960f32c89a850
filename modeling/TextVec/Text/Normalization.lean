import TextVec.Text.RunTable
import TextVec.Text.Table.CombiningClass
import TextVec.Text.Table.Composition
import TextVec.Text.Table.Decomposition

/-!
# Compatibility composition

The normal form of the character standard that first takes every character apart, compatibility
forms such as full-width letters included, then puts marks into canonical order, and last composes
what a single character can stand for (NFKC).
-/

namespace TextVec.Text

/-- The canonical combining class: 0 for a starter, and for a mark the place it takes. -/
def combiningClass (c : Char) : Nat :=
  match Table.combiningClass.findSome? (findRun · c.toNat) with
  | some (_, _, value) => value
  | none => 0

/-! ## Hangul

A Hangul syllable is composed of a leading consonant, a vowel and perhaps a trailing consonant, by
arithmetic on their places in the alphabet. -/

namespace Hangul

def syllableBase : Nat := 0xAC00
def leadingBase : Nat := 0x1100
def vowelBase : Nat := 0x1161
/-- One before the first trailing consonant, so that place 0 is "none". -/
def trailingBase : Nat := 0x11A7
def leadingCount : Nat := 19
def vowelCount : Nat := 21
def trailingCount : Nat := 28
def syllableCount : Nat := leadingCount * vowelCount * trailingCount

/-- The letters of a syllable. -/
def decompose? (c : Char) : Option (List Char) :=
  let place := c.toNat - syllableBase
  if syllableBase ≤ c.toNat && place < syllableCount then
    let leading := Char.ofNat (leadingBase + place / (vowelCount * trailingCount))
    let vowel := Char.ofNat (vowelBase + place % (vowelCount * trailingCount) / trailingCount)
    let trailing := place % trailingCount
    some (leading :: vowel :: if trailing = 0 then [] else [Char.ofNat (trailingBase + trailing)])
  else none

/-- A leading consonant and a vowel, or a syllable with no trailing consonant and one. -/
def compose? (first second : Char) : Option Char :=
  let a := first.toNat
  let b := second.toNat
  if leadingBase ≤ a && a < leadingBase + leadingCount &&
      vowelBase ≤ b && b < vowelBase + vowelCount then
    some (Char.ofNat
      (syllableBase + ((a - leadingBase) * vowelCount + (b - vowelBase)) * trailingCount))
  else if syllableBase ≤ a && a < syllableBase + syllableCount &&
      (a - syllableBase) % trailingCount = 0 &&
      trailingBase < b && b < trailingBase + trailingCount then
    some (Char.ofNat (a + (b - trailingBase)))
  else none

end Hangul

/-! ## Taking apart -/

/-- The full compatibility decomposition of a character. -/
def decomposeChar (c : Char) : List Char :=
  match Hangul.decompose? c with
  | some letters => letters
  | none =>
    match Table.singleDecomposition.findSome? (findRun · c.toNat) with
    | some (first, _, image) => [Char.ofNat (image + (c.toNat - first))]
    | none =>
      match Table.multipleDecomposition.findSome? (findRun · c.toNat) with
      | some (_, _, parts) => parts.map Char.ofNat
      | none => [c]

/-- Puts a mark before the first mark of a higher or equal class, and before the next starter. -/
def insertMark (mark : Char) : List Char → List Char
  | [] => [mark]
  | c :: rest =>
    if combiningClass c = 0 || combiningClass mark ≤ combiningClass c then mark :: c :: rest
    else c :: insertMark mark rest

/-- Sorts each run of marks by class and leaves equal classes in their order. -/
def orderMarks : List Char → List Char
  | [] => []
  | c :: rest =>
    if combiningClass c = 0 then c :: orderMarks rest else insertMark c (orderMarks rest)

/-- Characters taken apart, with their marks in canonical order. -/
def decompose (text : List Char) : List Char := orderMarks (text.flatMap decomposeChar)

/-! ## Putting together -/

/-- The place of a pair of code points in the order of pairs, which is that of the first and then
of the second. -/
def pairKey (first second : Nat) : Nat := first * 0x110000 + second

/-- The character that two characters compose to. -/
def composePair? (first second : Char) : Option Char :=
  match Hangul.compose? first second with
  | some syllable => some syllable
  | none =>
    Table.composition.findSome? fun table =>
      (locate (fun i => table[i]?.map fun (a, b, _) => (pairKey a b, pairKey a b))
          (pairKey first.toNat second.toNat) table.size 0 table.size)
        |>.bind fun i => table[i]?.map fun (_, _, composite) => Char.ofNat composite

/-- Composes what follows a starter into it. `held` are the marks since then that did not compose,
last first, and `last` is the class of the latest of them: a mark of no higher class is blocked from
the starter. -/
def composeAfter (starter : Char) (held : List Char) (last : Option Nat) : List Char → List Char
  | [] => starter :: held.reverse
  | c :: rest =>
    let rank := combiningClass c
    let free := match last with
      | none => true
      | some l => l < rank
    match if free then composePair? starter c else none with
    | some composite => composeAfter composite held last rest
    | none =>
      if rank = 0 then starter :: (held.reverse ++ composeAfter c [] none rest)
      else composeAfter starter (c :: held) (some rank) rest

/-- Composes every starter with what follows it; marks before the first starter stay. -/
def compose : List Char → List Char
  | [] => []
  | c :: rest => if combiningClass c = 0 then composeAfter c [] none rest else c :: compose rest

/-- The normal form under compatibility composition. -/
def normalize (text : List Char) : List Char := compose (decompose text)

end TextVec.Text
