import TwoVenue.Text.Printable

/-!
# Quoted texts

`quoted s` shows a text between double quotes so that it stays on one line and can be told from every other text:
quote, backslash and the usual controls have short escapes, and characters that do not show are written by number.
-/

namespace TwoVenue.Text

/-- A character by its number in base sixteen. -/
def byNumber (c : Char) : List Char :=
  '\\' :: 'u' :: '\x7b' :: (Nat.toDigits 16 c.toNat ++ ['\x7d'])

/-- How a character is shown between quotes. -/
def quotedChar (c : Char) : List Char :=
  match c with
  | '\x00' => ['\\', '0']
  | '\t' => ['\\', 't']
  | '\r' => ['\\', 'r']
  | '\n' => ['\\', 'n']
  | '"' => ['\\', '"']
  | '\\' => ['\\', '\\']
  | c => if isGraphemeExtend c || !isPrintable c then byNumber c else [c]

/-- A text between double quotes. -/
def quoted (s : String) : String :=
  String.ofList ('"' :: (s.toList.flatMap quotedChar ++ ['"']))

end TwoVenue.Text
