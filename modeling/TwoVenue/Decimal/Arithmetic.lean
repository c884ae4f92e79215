import TwoVenue.Decimal.Fault
import TwoVenue.Decimal.Rounding

/-!
# Sums and products of decimals

Every operation is exact where the digits allow it and rounds half to even where they do not. One that would lose
digits before the point is a `Fault`.

- `Decimal.add`, `Decimal.sub`: a zero operand leaves the other one as it is, digits included; otherwise the result has
  the larger scale of the two.
- `Decimal.mul`: the scales add up, and a product with zero is plain `0`.
-/

namespace TwoVenue

namespace Decimal

/-- The result, or the fault that its absence means. -/
def orFault (fault : Fault) : Option Decimal → Except Fault Decimal
  | some d => .ok d
  | none => .error fault

/-- The exact sum over the common scale of the two, rounded to fit. -/
def addAligned? (a b : Decimal) : Option Decimal :=
  let s := max a.scale b.scale
  let total := a.signed * tenPow (s - a.scale) + b.signed * tenPow (s - b.scale)
  fit? (decide (total < 0)) total.natAbs s

/-- Addition. -/
protected def add (a b : Decimal) : Except Fault Decimal :=
  if a.isZero then .ok b
  else if b.isZero then .ok a
  else orFault .additionOverflow (addAligned? a b)

/-- Subtraction. -/
protected def sub (a b : Decimal) : Except Fault Decimal :=
  -- zero less zero keeps the digits and the sign of the second one
  if a.isZero then .ok (if b.isZero then b else -b)
  else if b.isZero then .ok a
  else orFault .subtractionOverflow (addAligned? a (-b))

/-- The first mantissa that is not short. -/
def shortLimit : Nat := UInt32.size

/-- Whether both mantissas are short while the places of the product are so many that it counts as zero. -/
def vanishes (a b : Decimal) : Bool :=
  decide (47 < a.scale + b.scale ∧ a.mantissa < shortLimit ∧ b.mantissa < shortLimit)

/-- Multiplication. -/
protected def mul (a b : Decimal) : Except Fault Decimal :=
  if a.isZero || b.isZero || vanishes a b then .ok 0
  else orFault .multiplicationOverflow
    (fit? (a.negative != b.negative) (a.mantissa * b.mantissa) (a.scale + b.scale))

end Decimal

end TwoVenue
