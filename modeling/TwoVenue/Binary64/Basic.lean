import TwoVenue.Decimal.Rounding

/-!
# Binary floating point numbers of 64 bits

Only finite numbers without sign are needed here: `significand * 2 ^ exponent` with a significand below `2 ^ 53` and an
exponent of at least -1074. All arithmetic is exact on natural numbers and rounds once, half to even.

- `Binary64.nearest? n d`: the number nearest to `n / d`, unless that is out of range.
- `Binary64.mul?`, `Binary64.div?`: products and quotients of two numbers.
-/

namespace TwoVenue

/-- The number `significand * 2 ^ exponent`. -/
structure Binary64 where
  significand : Nat
  exponent : Int

namespace Binary64

/-- The least exponent. -/
def minExponent : Int := -1074

/-- The largest exponent of a significand of 53 bits. -/
def maxExponent : Int := 971

/-- The first significand that has more than 53 bits: `2 ^ 53`. -/
def significandLimit : Nat := 9007199254740992

/-- Zero. -/
def zero : Binary64 := ⟨0, minExponent⟩

/-- Whether the number is zero. -/
def isZero (x : Binary64) : Bool := x.significand == 0

/-- Numerator and denominator of `n / d / 2 ^ e`. -/
def scaled (n d : Nat) (e : Int) : Nat × Nat :=
  if 0 ≤ e then (n, d * Nat.pow 2 e.toNat) else (n * Nat.pow 2 (-e).toNat, d)

/-- The exponent at which `n / d` has 53 bits before the point, or the least exponent if that one is larger. -/
def lastPlace (n d : Nat) : Int :=
  -- the quotient of the logarithms is the right exponent or one too small
  let guess : Int := (n.log2 : Int) - d.log2 - 53
  let r := scaled n d guess
  max minExponent (if r.1 < r.2 * significandLimit then guess else guess + 1)

/-- The multiple of `2 ^ e` nearest to `n / d`, which has 53 bits before that place, unless it is too large. -/
def roundedAt? (n d : Nat) (e : Int) : Option Binary64 :=
  let r := scaled n d e
  let m := halfEven r.1 r.2
  -- rounding may have carried into a 54th bit
  let x : Binary64 := if m < significandLimit then ⟨m, e⟩ else ⟨significandLimit / 2, e + 1⟩
  if x.exponent ≤ maxExponent then some x else none

/-- The number nearest to `n / d`, a tie going to the even significand, unless it is too large. -/
def nearest? (n d : Nat) : Option Binary64 :=
  if n = 0 then some zero else roundedAt? n d (lastPlace n d)

/-- The exact value as numerator and denominator. -/
def toFraction (x : Binary64) : Nat × Nat := scaled x.significand 1 (-x.exponent)

/-- The product, unless it is too large. -/
def mul? (x y : Binary64) : Option Binary64 :=
  nearest? (x.toFraction.1 * y.toFraction.1) (x.toFraction.2 * y.toFraction.2)

/-- The quotient by a number that is not zero, unless it is too large. -/
def div? (x y : Binary64) : Option Binary64 :=
  nearest? (x.toFraction.1 * y.toFraction.2) (x.toFraction.2 * y.toFraction.1)

end Binary64

end TwoVenue
