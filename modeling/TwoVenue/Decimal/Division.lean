import TwoVenue.Decimal.Arithmetic

/-!
# Division of decimals

Long division of the mantissas in blocks of up to nine digits. It ends when nothing is left over and no place before
the point is missing, or when no further digit fits; then the last digit is rounded half to even.

- `Quotient`: digits so far, the remainder, and the scale, which may still be negative.
- `Quotient.extend`: the division from there on.
- `Quotient.trim`: a quotient that did not come out at once loses final zeros, so `1 / 4` is `0.25`: first eights of them,
  as long as the digits are a multiple of `2 ^ 32`, then up to seven.
-/

namespace TwoVenue

namespace Decimal

/-- A division under way: `digits` and `rest` satisfy `digits * divisor + rest = dividend`, scaled by powers of ten. -/
structure Quotient where
  /-- The digits found so far. -/
  digits : Nat
  /-- What is left of the dividend. -/
  rest : Nat
  /-- The scale of `digits`; it is negative while digits before the point are missing. -/
  scale : Int

namespace Quotient

/-- The most digits of `n` or fewer that can be appended to `digits`, by the scale and by the mantissa. -/
def room (digits : Nat) (scale : Int) : Nat → Nat
  | 0 => 0
  | n + 1 => if scale + (n + 1) ≤ 28 ∧ digits * tenPow (n + 1) < limit then n + 1 else room digits scale n

theorem room_le (digits : Nat) (scale : Int) (n : Nat) : room digits scale n ≤ n := by
  induction n with
  | zero => exact Nat.le_refl _
  | succ n ih => unfold room; split <;> omega

theorem scale_add_room (digits : Nat) (scale : Int) (n : Nat) (h : room digits scale n ≠ 0) :
    scale + room digits scale n ≤ 28 := by
  induction n with
  | zero => exact absurd rfl h
  | succ n ih =>
    unfold room at h ⊢
    split
    · rename_i hc; simpa using hc.1
    · rename_i hc; rw [if_neg hc] at h; exact ih h

/-- The next `p` digits. -/
def append (divisor : Nat) (q : Quotient) (p : Nat) : Quotient :=
  { digits := q.digits * tenPow p + q.rest * tenPow p / divisor
    rest := q.rest * tenPow p % divisor
    scale := q.scale + p }

/-- The digits, the last of them rounded half to even by the remainder, when no further digit fits. -/
def roundOff (divisor : Nat) (q : Quotient) : Option (Nat × Nat) :=
  let up := divisor < 2 * q.rest || (2 * q.rest == divisor && q.digits % 2 == 1)
  let digits := if up then q.digits + 1 else q.digits
  if digits < limit then some (digits, q.scale.toNat)
  else if 0 < q.scale then some (carried, (q.scale - 1).toNat)
  else none

/-- One digit less, after a block has carried the digits past the limit. -/
def dropLast (q : Quotient) : Option (Nat × Nat) :=
  if 0 < q.scale then
    let last := q.digits % 10
    let kept := q.digits / 10
    let up := 5 < last || (last == 5 && (q.rest != 0 || kept % 2 == 1))
    some (if up then kept + 1 else kept, (q.scale - 1).toNat)
  else none

/-- Digits and scale of the quotient, and whether the division went on past a remainder. -/
def extend (divisor : Nat) (q : Quotient) (inexact : Bool) : Option (Nat × Nat × Bool) :=
  if q.rest = 0 then
    if _ : 0 ≤ q.scale then some (q.digits, q.scale.toNat, inexact)
    else
      -- the division has come out, but zeros before the point are still missing
      let p := min 9 (-q.scale).toNat
      if limit ≤ q.digits * tenPow p then none
      else extend divisor (q.append divisor p) inexact
  else
    let p := room q.digits q.scale 9
    -- no room for a place before the point
    if p < 9 ∧ q.scale + p < 0 then none
    else if _ : p = 0 then (roundOff divisor q).map fun (d, s) => (d, s, true)
    else
      let next := q.append divisor p
      if next.digits < limit then extend divisor next true
      -- there is room for the digits so far with zeros after them, but not for these digits in their place
      else (dropLast next).map fun (d, s) => (d, s, true)
termination_by (28 - q.scale).toNat
decreasing_by
  · simp only [append]; omega
  · have hp : room q.digits q.scale 9 ≠ 0 := ‹¬p = 0›
    have := scale_add_room q.digits q.scale 9 hp
    simp only [append]
    omega

/-- Removes `zeros` final zeros if there are as many and the scale has as many digits. -/
def dropZeros (zeros : Nat) (q : Nat × Nat) : Nat × Nat :=
  if zeros ≤ q.2 ∧ q.1 % tenPow zeros = 0 then (q.1 / tenPow zeros, q.2 - zeros) else q

/-- Removes eight final zeros at a time, as long as the digits are also a multiple of `2 ^ 32`. -/
def dropEights (digits scale : Nat) : Nat × Nat :=
  if h : 8 ≤ scale ∧ digits % UInt32.size = 0 ∧ digits % tenPow 8 = 0 then dropEights (digits / tenPow 8) (scale - 8)
  else (digits, scale)
termination_by scale

/-- The final zeros that a quotient with a remainder on its way does not keep. -/
def trim (digits scale : Nat) : Nat × Nat :=
  dropZeros 1 (dropZeros 2 (dropZeros 4 (dropEights digits scale)))

end Quotient

/-- Division. -/
protected def div (a b : Decimal) : Except Fault Decimal :=
  if b.isZero then .error .divisionByZero
  else if a.isZero then .ok 0
  else
    let start : Quotient :=
      { digits := a.mantissa / b.mantissa, rest := a.mantissa % b.mantissa, scale := (a.scale : Int) - b.scale }
    orFault .divisionOverflow <|
      (start.extend b.mantissa false).bind fun (digits, scale, inexact) =>
        let (m, s) := if inexact then Quotient.trim digits scale else (digits, scale)
        ofParts? ((a.negative != b.negative) && m != 0) m s

end Decimal

end TwoVenue
