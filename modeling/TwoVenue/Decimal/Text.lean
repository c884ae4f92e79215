import TwoVenue.Decimal.Fault
import TwoVenue.Decimal.Rounding

/-!
# Writing decimals

- `Decimal.toText`: all digits, the point only where the scale is positive.
- `Decimal.toFixed`: a given number of places; further digits are cut off, missing ones are zeros. Such a text has room
  for 32 characters.
- `Decimal.normalize`: without the final zeros after the point.
- `Decimal.roundPlaces`: at most so many places, half to even.
-/

namespace TwoVenue

/-- `n` in base ten, filled up with zeros on the left to `width` digits. -/
def zeroPadded (width n : Nat) : List Char :=
  let digits := Nat.toDigits 10 n
  List.replicate (width - digits.length) '0' ++ digits

namespace Decimal

/-- The text of `mantissa / 10 ^ scale`. -/
def unsignedChars (mantissa scale : Nat) : List Char :=
  Nat.toDigits 10 (mantissa / tenPow scale) ++
    if scale = 0 then [] else '.' :: zeroPadded scale (mantissa % tenPow scale)

/-- The characters of a decimal, a zero with a minus sign included. -/
def toChars (d : Decimal) : List Char :=
  let digits := unsignedChars d.mantissa d.scale
  if d.negative then '-' :: digits else digits

/-- The text of a decimal, with every digit of its scale. -/
def toText (d : Decimal) : String := String.ofList d.toChars

/-- How many characters a text with a fixed number of places has room for, its sign not counted. -/
def fixedLimit : Nat := 32

/-- The text with exactly `places` digits after the point. Further digits are cut off, not rounded. -/
def toFixed (places : Nat) (d : Decimal) : Except Fault String :=
  let mantissa :=
    if d.scale ≤ places then d.mantissa * tenPow (places - d.scale) else d.mantissa / tenPow (d.scale - places)
  let digits := unsignedChars mantissa places
  if fixedLimit < digits.length then .error .textOverflow
  else .ok (String.ofList (if d.negative then '-' :: digits else digits))

/-- The digits without final zeros after the point: at most `scale` of them go. -/
def withoutZeros (mantissa : Nat) : Nat → Nat × Nat
  | 0 => (mantissa, 0)
  | scale + 1 => if mantissa % 10 = 0 then withoutZeros (mantissa / 10) scale else (mantissa, scale + 1)

theorem withoutZeros_le (mantissa scale : Nat) :
    (withoutZeros mantissa scale).1 ≤ mantissa ∧ (withoutZeros mantissa scale).2 ≤ scale := by
  induction scale generalizing mantissa with
  | zero => exact ⟨Nat.le_refl _, Nat.le_refl _⟩
  | succ scale ih =>
    unfold withoutZeros
    split
    · obtain ⟨h1, h2⟩ := ih (mantissa / 10)
      exact ⟨Nat.le_trans h1 (Nat.div_le_self ..), Nat.le_succ_of_le h2⟩
    · exact ⟨Nat.le_refl _, Nat.le_refl _⟩

/-- The same value without final zeros after the point; every zero becomes `0`. -/
def normalize (d : Decimal) : Decimal :=
  if d.isZero then 0
  else
    let r := withoutZeros d.mantissa d.scale
    ⟨d.negative, r.1, r.2,
      Nat.lt_of_le_of_lt (withoutZeros_le ..).1 d.mantissa_lt, Nat.le_trans (withoutZeros_le ..).2 d.scale_le⟩

/-- The value with at most `places` digits after the point, half to even. A value that rounds to zero loses its sign. -/
def roundPlaces (places : Nat) (d : Decimal) : Decimal :=
  if d.scale ≤ places then d
  else
    let m := halfEven d.mantissa (tenPow (d.scale - places))
    (ofParts? (d.negative && m != 0) m places).getD 0

end Decimal

instance : ToString Decimal := ⟨Decimal.toText⟩

end TwoVenue
