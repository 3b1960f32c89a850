/-!
# White space

The white space of the character standard, the words between white space, and the two ends of a
text without it. `fields` is what a line of a table and a whitespace tokenizer split a text into.
-/

namespace TextVec.Text

/-- The twenty-five white space characters. -/
def isWhitespace (c : Char) : Bool :=
  let n := c.toNat
  (0x09 ≤ n && n ≤ 0x0D) || n == 0x20 || n == 0x85 || n == 0xA0 || n == 0x1680 ||
    (0x2000 ≤ n && n ≤ 0x200A) || n == 0x2028 || n == 0x2029 || n == 0x202F || n == 0x205F ||
    n == 0x3000

/-- Splits off the current word: `word` holds its characters so far, last first. -/
def fieldsFrom (word : List Char) : List Char → List (List Char)
  | [] => if word.isEmpty then [] else [word.reverse]
  | c :: rest =>
    if isWhitespace c then
      if word.isEmpty then fieldsFrom [] rest else word.reverse :: fieldsFrom [] rest
    else fieldsFrom (c :: word) rest

/-- The maximal runs of characters that are not white space, in order. -/
def fields (text : List Char) : List (List Char) := fieldsFrom [] text

/-- A text without the white space at its two ends. -/
def trim (text : List Char) : List Char :=
  ((text.dropWhile isWhitespace).reverse.dropWhile isWhitespace).reverse

/-- A text with its twenty-six basic Latin capitals made small. -/
def asciiLower (text : List Char) : List Char := text.map Char.toLower

end TextVec.Text
