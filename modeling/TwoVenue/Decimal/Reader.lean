import TwoVenue.Decimal.Text

/-!
# Reading decimals

The accepted texts are `[+-] digits [. digits]`, where one of the two groups of digits may be missing and underscores may
stand anywhere after the first digit, and such a text with an exponent.

- `Decimal.readPlain?`: a text without exponent. Digits after the point that do not fit are rounded away, half up;
  digits before the point that do not fit are an error.
- `Decimal.readScientific?`: base, `e` or `E`, exponent.
- `Decimal.ofText?`: one of the two.
-/

namespace TwoVenue

/-- The value of a decimal digit. -/
def digitValue? (c : Char) : Option Nat :=
  if c.isDigit then some (c.toNat - '0'.toNat) else none

namespace Decimal

/-- Whether `c` may follow digits that no longer count. -/
def isFiller (c : Char) : Bool := c.isDigit || c == '_'

/-- Mantissa and scale once the first digit that does not fit is known: half and more goes up. -/
def roundUp? (mantissa scale digit : Nat) : Option (Nat × Nat) :=
  if digit < 5 then some (mantissa, scale)
  else if mantissa + 1 < limit then some (mantissa + 1, scale)
  else if 0 < scale then some (carried, scale - 1)
  else none

/-- The digits after the point; `seen` says whether any digit has been read. -/
def readFraction (mantissa scale : Nat) (seen : Bool) : List Char → Option (Nat × Nat)
  | [] => if seen then some (mantissa, scale) else none
  | c :: rest =>
    match digitValue? c with
    | some d =>
      if scale < maxScale ∧ mantissa * 10 + d < limit then readFraction (mantissa * 10 + d) (scale + 1) true rest
      -- the first digit that does not fit decides about the rounding, all later ones about nothing
      else if rest.all isFiller then roundUp? mantissa scale d
      else none
    | none => if c = '_' ∧ seen then readFraction mantissa scale seen rest else none

/-- The digits from before the point on. -/
def readWhole (mantissa : Nat) (seen : Bool) : List Char → Option (Nat × Nat)
  | [] => if seen then some (mantissa, 0) else none
  | c :: rest =>
    match digitValue? c with
    | some d => if mantissa * 10 + d < limit then readWhole (mantissa * 10 + d) true rest else none
    | none =>
      if c = '.' then readFraction mantissa 0 seen rest
      else if c = '_' ∧ seen then readWhole mantissa seen rest
      else none

/-- A sign, if there is one, and the rest of the text. -/
def splitSign : List Char → Bool × List Char
  | '-' :: rest => (true, rest)
  | '+' :: rest => (false, rest)
  | text => (false, text)

/-- A text without exponent. A zero has no sign. -/
def readPlain? (text : List Char) : Option Decimal :=
  let (negative, digits) := splitSign text
  (readWhole 0 false digits).bind fun (m, s) => ofParts? (negative && m != 0) m s

/-- The digits of an exponent, below `2 ^ 32` and with an optional plus sign. -/
def readExponent? (text : List Char) : Option Nat :=
  let digits := match text with
    | '+' :: rest => rest
    | _ => text
  if digits.isEmpty || !digits.all Char.isDigit then none
  else
    let n := digits.foldl (fun n c => n * 10 + (c.toNat - '0'.toNat)) 0
    if n < UInt32.size then some n else none

/-- The base divided by `10 ^ x`. Where the scale would pass 28, the base is rounded first, half away from zero. -/
def lower? (base : Decimal) (x : Nat) : Option Decimal :=
  if maxScale < x then none
  else if base.scale + x ≤ maxScale then ofParts? base.negative base.mantissa (base.scale + x)
  else
    let dropped := tenPow (base.scale + x - maxScale)
    let m := (base.mantissa + dropped / 2) / dropped
    ofParts? (base.negative && m != 0) m maxScale

/-- The base times `10 ^ x`. An exponent within the scale moves the point; a larger one leaves no final zero after it. -/
def raise? (base : Decimal) (x : Nat) : Option Decimal :=
  if x ≤ base.scale then ofParts? base.negative base.mantissa (base.scale - x)
  else if maxScale < x then none
  else (ofParts? base.negative (base.mantissa * tenPow (x - base.scale)) 0).map normalize

/-- Base and exponent on the two sides of the first `e` or `E`. -/
def readScientific? (text : List Char) : Option Decimal :=
  let isMark (c : Char) : Bool := c == 'e' || c == 'E'
  match text.dropWhile (!isMark ·) with
  | [] => none
  | _ :: exponent =>
    (readPlain? (text.takeWhile (!isMark ·))).bind fun base =>
      match exponent with
      | '-' :: digits => (readExponent? digits).bind (lower? base)
      | _ => (readExponent? exponent).bind (raise? base)

/-- The decimal that a text denotes. -/
def ofChars? (text : List Char) : Option Decimal := (readPlain? text).or (readScientific? text)

/-- The decimal that a text denotes. -/
def ofText? (text : String) : Option Decimal := ofChars? text.toList

end Decimal

end TwoVenue
