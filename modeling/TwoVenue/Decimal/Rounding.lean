import TwoVenue.Decimal.Basic

/-!
# Rounding to 96 bits

- `halfEven n d`: the integer nearest to `n / d`, a tie going to the even neighbour.
- `excess v`: the least number of digits to drop from `v` so that the rest is below `2 ^ 96`.
- `Decimal.fit? negative v s`: the decimal nearest to `v / 10 ^ s` on the finest grid that holds it, and `none` when
  not even the grid of the integers does.
-/

namespace TwoVenue

/-- The integer nearest to `n / d`; a tie goes to the even neighbour. -/
def halfEven (n d : Nat) : Nat :=
  let q := n / d
  let r := n % d
  if 2 * r < d ∨ (2 * r = d ∧ q % 2 = 0) then q else q + 1

namespace Decimal

/-- The least number of final digits to drop from `v` so that what is left fits into 96 bits. -/
def excess (v : Nat) : Nat :=
  if limit ≤ v then excess (v / 10) + 1 else 0
termination_by v
decreasing_by exact Nat.div_lt_self (Nat.lt_of_lt_of_le (by decide) ‹limit ≤ v›) (by decide)

/-- What a mantissa that rounding has carried to the limit becomes with one digit less. -/
def carried : Nat := halfEven limit 10

/-- `v / 10 ^ s` with as many of its digits after the point as fit, the last one rounded half to even. There is no
such decimal when digits before the point would have to go. A zero comes out without a minus sign. -/
def fit? (negative : Bool) (v s : Nat) : Option Decimal :=
  -- digits go for two reasons: too many places after the point, or too many digits in all
  let k := max (s - maxScale) (excess v)
  if hk : k ≤ s then
    let q := halfEven v (tenPow k)
    have hs : s - k ≤ 28 := by have : s - 28 ≤ k := Nat.le_max_left ..; omega
    if hq : q < limit then some ⟨negative && q != 0, q, s - k, hq, hs⟩
    -- rounding up has reached the limit itself, so one more digit has to go
    else if k < s then some ⟨negative, carried, s - k - 1, by decide, by omega⟩
    else none
  else none

end Decimal

end TwoVenue
