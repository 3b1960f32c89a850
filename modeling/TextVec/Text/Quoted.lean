import TextVec.Text.RunTable
import TextVec.Text.Table.Printable

/-!
# Quoted texts

The form in which a message shows a text: between quotation marks, with escapes for whatever would
not be seen as itself there.
-/

namespace TextVec.Text

/-- Whether `c` has a visible form of its own, or is the space. -/
def isPrintable (c : Char) : Bool := Table.printable.any (inRanges · c.toNat)

/-- Whether `c` attaches to the character before it. -/
def isGraphemeExtend (c : Char) : Bool := inRanges Table.graphemeExtend c.toNat

/-- The shape of a character between quotation marks. -/
def quoteChar (c : Char) : List Char :=
  match c with
  | '\x00' => ['\\', '0']
  | '\t' => ['\\', 't']
  | '\r' => ['\\', 'r']
  | '\n' => ['\\', 'n']
  | '"' => ['\\', '"']
  | '\\' => ['\\', '\\']
  | _ =>
    if isGraphemeExtend c || !isPrintable c then
      '\\' :: 'u' :: '\x7b' :: (Nat.toDigits 16 c.toNat ++ ['\x7d'])
    else [c]

/-- A text between quotation marks. -/
def quoted (text : String) : String :=
  String.ofList ('"' :: (text.toList.flatMap quoteChar ++ ['"']))

end TextVec.Text
