import TwoVenue.Text.CodeRange

/-!
# Blank characters

`isBlank` is the Unicode property White_Space, which has 25 members. Texts are trimmed by it, and a text with nothing
else counts as empty.
-/

namespace TwoVenue.Text

/-- The ranges of White_Space. -/
def blankRanges : List (Nat × Nat) :=
  [(0x9, 0xd), (0x20, 0x20), (0x85, 0x85), (0xa0, 0xa0), (0x1680, 0x1680), (0x2000, 0x200a), (0x2028, 0x2029),
   (0x202f, 0x202f), (0x205f, 0x205f), (0x3000, 0x3000)]

/-- Whether a character is white space. -/
def isBlank (c : Char) : Bool := inRanges blankRanges c

/-- Whether a text has nothing but white space. -/
def isBlankText (s : String) : Bool := s.toList.all isBlank

/-- Without the white space in front. -/
def trimStart (cs : List Char) : List Char := cs.dropWhile isBlank

/-- Without the white space at the end. -/
def trimEnd (cs : List Char) : List Char := (cs.reverse.dropWhile isBlank).reverse

end TwoVenue.Text
