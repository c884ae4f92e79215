/-!
# Reading natural numbers of a given width

Digits with an optional plus sign. The first character that is no digit, or the first digit with which the number
becomes too large, decides about the error, whichever comes first.
-/

namespace TwoVenue

/-- Why a text is no natural number of the wanted width. -/
inductive IntegerError where
  | empty
  | invalidDigit
  | tooLarge
deriving DecidableEq

/-- The text of an error. -/
def IntegerError.message : IntegerError → String
  | .empty => "cannot parse integer from empty string"
  | .invalidDigit => "invalid digit found in string"
  | .tooLarge => "number too large to fit in target type"

/-- Reads digits as long as the number stays below `limit`. -/
def readDigits (limit n : Nat) : List Char → Except IntegerError Nat
  | [] => .ok n
  | c :: rest =>
    if c.isDigit then
      let n := n * 10 + (c.toNat - '0'.toNat)
      if n < limit then readDigits limit n rest else .error .tooLarge
    else .error .invalidDigit

/-- The number below `limit` that a text denotes. -/
def readNatural (limit : Nat) (text : String) : Except IntegerError Nat :=
  match text.toList with
  | [] => .error .empty
  | ['+'] => .error .invalidDigit
  | '+' :: digits => readDigits limit 0 digits
  | digits => readDigits limit 0 digits

end TwoVenue
