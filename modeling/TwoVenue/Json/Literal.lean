import TwoVenue.Binary64.Shortest
import TwoVenue.Decimal.Reader

/-!
# Number literals

- `Literal`: the digits of a JSON number as they are written.
- `Literal.significant`: the digits as one integer below `2 ^ 64` with a power of ten; what does not fit is dropped.
- `Literal.toBinary64?`: that integer times, or divided by, a rounded power of ten.
- `Literal.toDecimal?`: integers of 64 bits are exact; every other literal is read as the shortest decimal that stands
  for its binary number.
-/

namespace TwoVenue

/-- A JSON number as it is written. The parts hold the values of the digits. -/
structure Literal where
  /-- Whether a minus sign is written. -/
  negative : Bool
  /-- The digits before the point. -/
  whole : List Nat
  /-- The digits after the point, if there is one. -/
  fraction : Option (List Nat)
  /-- Sign and digits of the exponent, if there is one. -/
  exponent : Option (Bool × List Nat)
deriving DecidableEq

namespace Literal

/-- The first number that does not fit into 64 bits. -/
def wordLimit : Nat := UInt64.size

/-- Digits before the point are taken up as long as the significand fits; each later one only raises the power of ten.
The result is significand and power. -/
def takeWhole (significand : Nat) : List Nat → Nat × Int
  | [] => (significand, 0)
  | d :: rest =>
    if significand * 10 + d < wordLimit then takeWhole (significand * 10 + d) rest
    else (significand, (rest.length : Int) + 1)

/-- Digits after the point are taken up as long as the significand fits; later ones are dropped. -/
def takeFraction (significand : Nat) (power : Int) : List Nat → Nat × Int
  | [] => (significand, power)
  | d :: rest =>
    if significand * 10 + d < wordLimit then takeFraction (significand * 10 + d) (power - 1) rest
    else (significand, power)

/-- Significand and power of ten before the exponent is added. -/
def significant (l : Literal) : Nat × Int :=
  let (m, e) := takeWhole 0 l.whole
  takeFraction m e (l.fraction.getD [])

/-- The digits of an exponent as a number. -/
def exponentValue (digits : List Nat) : Nat := digits.foldl (fun n d => n * 10 + d) 0

/-- The largest power of ten that is a binary number. -/
def maxPower : Nat := 308

/-- `10 ^ n` rounded to a binary number. -/
def powerOfTen (n : Nat) : Binary64 := (Binary64.nearest? (tenPow n) 1).getD Binary64.zero

/-- `x / 10 ^ n`, in steps of at most 308 powers, each rounded. -/
def divPower (x : Binary64) (n : Nat) : Option Binary64 :=
  if n ≤ maxPower then x.div? (powerOfTen n)
  else if x.isZero then some x
  else (x.div? (powerOfTen maxPower)).bind fun y => divPower y (n - maxPower)
termination_by n
decreasing_by simp only [maxPower] at *; omega

/-- `significand * 10 ^ power`, with every step rounded. -/
def scaleBinary (significand : Nat) (power : Int) : Option Binary64 :=
  (Binary64.nearest? significand 1).bind fun x =>
    if power < 0 then divPower x (-power).toNat
    else if power.toNat ≤ maxPower then x.mul? (powerOfTen power.toNat)
    else if x.isZero then some x
    else none

/-- The first exponent that does not fit into a signed word of 32 bits. -/
def exponentLimit : Nat := 2147483648

/-- The binary number of a literal, without its sign. An exponent of `2 ^ 31` or more leaves only zeros in range. -/
def toBinary64? (l : Literal) : Option Binary64 :=
  let (m, e) := l.significant
  match l.exponent with
  | none => scaleBinary m e
  | some (negative, digits) =>
    let x := exponentValue digits
    if exponentLimit ≤ x then (if m = 0 ∨ negative then some Binary64.zero else none)
    else scaleBinary m (if negative then e - x else e + x)

/-- The characters of `digits * 10 ^ power` without exponent and without final zeros after the point. -/
def plainChars (digits : Nat) (power : Int) : List Char :=
  if 0 ≤ power then Decimal.unsignedChars (digits * tenPow power.toNat) 0
  else
    let r := Decimal.withoutZeros digits (-power).toNat
    Decimal.unsignedChars r.1 r.2

/-- The integer that a literal is, if it has neither point nor exponent and fits into 64 bits. A negative one has to fit
into a signed word, and `-0` is not an integer. -/
def toInteger? (l : Literal) : Option Decimal :=
  if l.fraction.isSome || l.exponent.isSome then none
  else
    let n := exponentValue l.whole
    -- `-0` is left to the binary numbers
    if l.negative then (if 0 < n ∧ 2 * n ≤ wordLimit then Decimal.ofParts? true n 0 else none)
    else if n < wordLimit then Decimal.ofParts? false n 0
    else none

/-- The decimal that a literal is read as. -/
def toDecimal? (l : Literal) : Option Decimal :=
  match l.toInteger? with
  | some d => some d
  | none =>
    l.toBinary64?.bind fun x =>
      let (a, e) := x.shortest
      let digits := plainChars a e
      Decimal.readPlain? (if l.negative then '-' :: digits else digits)

end Literal

end TwoVenue
