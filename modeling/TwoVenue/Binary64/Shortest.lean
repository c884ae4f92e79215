import TwoVenue.Binary64.Basic

/-!
# The shortest decimal digits of a binary number

A decimal stands for a binary number if no other binary number is nearer to it. `Binary64.shortest x` is the decimal
with the fewest digits that stands for `x`, the nearest one if there are several, and of two equally near the larger.

- `Neighbourhood`: the reals that round to `x`, as integers over one denominator.
- `Binary64.onGrid?`: the best decimal on the grid of a power of ten.
-/

namespace TwoVenue

namespace Binary64

/-- The reals from `low / unit` to `high / unit` round to `value / unit`, the ends included if `closed`. -/
structure Neighbourhood where
  low : Nat
  value : Nat
  high : Nat
  unit : Nat
  closed : Bool

/-- Half of the distance to the next number on either side belongs to a number. Below a power of two the distance is
only half as large. -/
def neighbourhood (x : Binary64) : Neighbourhood :=
  let narrow := 2 * x.significand == significandLimit && minExponent < x.exponent
  -- a quarter of the last place is the finest distance that matters
  let (quarter, unit) := scaled 1 1 (2 - x.exponent)
  { low := (4 * x.significand - if narrow then 1 else 2) * quarter
    value := 4 * x.significand * quarter
    high := (4 * x.significand + 2) * quarter
    unit := unit
    closed := x.significand % 2 == 0 }

/-- Whether `a / b` rounds to the number. -/
def Neighbourhood.contains (h : Neighbourhood) (a b : Nat) : Bool :=
  if h.closed then decide (h.low * b ≤ a * h.unit ∧ a * h.unit ≤ h.high * b)
  else decide (h.low * b < a * h.unit ∧ a * h.unit < h.high * b)

/-- Numerator and denominator of `a * 10 ^ e`. -/
def atPower (a : Nat) (e : Int) : Nat × Nat :=
  if 0 ≤ e then (a * tenPow e.toNat, 1) else (a, tenPow (-e).toNat)

/-- The multiple `a` of `10 ^ e` that stands for the number and is nearest to it, if there is one. -/
def onGrid? (h : Neighbourhood) (e : Int) : Option Nat :=
  let (n, d) := atPower 1 e
  let below := h.value * d / (h.unit * n)
  let hit (a : Nat) : Bool := h.contains (a * n) d
  match hit below, hit (below + 1) with
  | true, true => some (if 2 * h.value * d < (2 * below + 1) * n * h.unit then below else below + 1)
  | true, false => some below
  | false, true => some (below + 1)
  | false, false => none

/-- The exponent of the first digit: the value is at least `10 ^ e` and less than `10 ^ (e + 1)`. -/
def leadingPower (n d : Nat) : Int :=
  let guess : Int := ((Nat.toDigits 10 n).length : Int) - (Nat.toDigits 10 d).length
  let (a, b) := atPower 1 guess
  if a * d ≤ n * b then guess else guess - 1

/-- Tries the grids from `10 ^ e` down to finer ones, at most so many. -/
def search (h : Neighbourhood) (e : Int) : Nat → Nat × Int
  | 0 => (0, 0)
  | n + 1 =>
    match onGrid? h e with
    | some a => (a, e)
    | none => search h (e - 1) n

/-- Digits `a` and exponent `e` of the shortest decimal `a * 10 ^ e` that stands for the number. Seventeen digits are
always enough. -/
def shortest (x : Binary64) : Nat × Int :=
  if x.isZero then (0, 0)
  else
    let h := x.neighbourhood
    search h (leadingPower h.value h.unit) 17

end Binary64

end TwoVenue
