/-!
# Decimal numbers of 96 bits

Prices, sizes, fees and balances are decimals: a sign, a mantissa below `2 ^ 96` and a scale of at most 28, which is
the number of digits after the point.

- `tenPow n`: `10 ^ n`, the weight of a digit.
- `Decimal`: the digits as they are written, so `1.50` and `1.5` are two decimals.
- `Decimal.toRat`: the exact value. `a ≈ b`, `a < b` and `a ≤ b` compare values, `a = b` compares digits.
- `Decimal.max`, `Decimal.min`: of two equal values the first one stays, with its digits.
-/

namespace TwoVenue

/-- The power `10 ^ n`. -/
def tenPow (n : Nat) : Nat := Nat.pow 10 n

theorem tenPow_pos (n : Nat) : 0 < tenPow n := Nat.pow_pos (by decide)

/-- The first mantissa that does not fit into 96 bits: `2 ^ 96`. -/
def Decimal.limit : Nat := 79228162514264337593543950336

/-- A decimal number: `mantissa / 10 ^ scale` with a sign, which zeros have too. -/
@[ext] structure Decimal where
  /-- Whether a minus sign is written. -/
  negative : Bool
  /-- All digits, read as one natural number. -/
  mantissa : Nat
  /-- How many of the digits stand after the point. -/
  scale : Nat
  /-- The digits fit into 96 bits. -/
  mantissa_lt : mantissa < Decimal.limit
  /-- At most 28 digits stand after the point. -/
  scale_le : scale ≤ 28
deriving DecidableEq

namespace Decimal

/-- The largest scale. -/
def maxScale : Nat := 28

/-- The decimal with these parts, if they are in range. -/
def ofParts? (negative : Bool) (mantissa scale : Nat) : Option Decimal :=
  if h : mantissa < limit ∧ scale ≤ 28 then some ⟨negative, mantissa, scale, h.1, h.2⟩ else none

/-- The integer `n` with no digit after the point. It is exact below `2 ^ 96`; larger numbers wrap as words do. -/
protected def ofNat (n : Nat) : Decimal :=
  ⟨false, n % limit, 0, Nat.mod_lt _ (by decide), by decide⟩

instance (n : Nat) : OfNat Decimal n := ⟨Decimal.ofNat n⟩

/-- The digits of a literal such as `0.05`, as they are written. It is exact below the limits of both parts. -/
protected def ofScientific (mantissa : Nat) (negativeExponent : Bool) (exponent : Nat) : Decimal :=
  if negativeExponent then ⟨false, mantissa % limit, min exponent 28, Nat.mod_lt _ (by decide), Nat.min_le_right ..⟩
  else Decimal.ofNat (mantissa * tenPow exponent)

instance : OfScientific Decimal := ⟨Decimal.ofScientific⟩

instance : Inhabited Decimal := ⟨0⟩

/-! ## Value and order -/

/-- The mantissa with its sign. -/
def signed (d : Decimal) : Int := if d.negative then -(d.mantissa : Int) else d.mantissa

/-- The exact value. -/
def toRat (d : Decimal) : Rat := d.signed / (tenPow d.scale : Nat)

/-- Whether the value is zero, of whatever sign and scale. -/
def isZero (d : Decimal) : Bool := d.mantissa == 0

instance : LT Decimal := ⟨fun a b => a.signed * tenPow b.scale < b.signed * tenPow a.scale⟩
instance : LE Decimal := ⟨fun a b => a.signed * tenPow b.scale ≤ b.signed * tenPow a.scale⟩

/-- Numeric equality: `1.50 ≈ 1.5` and `-0 ≈ 0`. -/
instance : HasEquiv Decimal := ⟨fun a b => a.signed * tenPow b.scale = b.signed * tenPow a.scale⟩

theorem lt_def {a b : Decimal} : a < b ↔ a.signed * tenPow b.scale < b.signed * tenPow a.scale := Iff.rfl
theorem le_def {a b : Decimal} : a ≤ b ↔ a.signed * tenPow b.scale ≤ b.signed * tenPow a.scale := Iff.rfl
theorem equiv_def {a b : Decimal} : a ≈ b ↔ a.signed * tenPow b.scale = b.signed * tenPow a.scale := Iff.rfl

instance (a b : Decimal) : Decidable (a < b) := decidable_of_iff _ lt_def.symm
instance (a b : Decimal) : Decidable (a ≤ b) := decidable_of_iff _ le_def.symm
instance (a b : Decimal) : Decidable (a ≈ b) := decidable_of_iff _ equiv_def.symm

/-- The larger value; the first of two equal ones. -/
protected def max (a b : Decimal) : Decimal := if a < b then b else a

/-- The smaller value; the first of two equal ones. -/
protected def min (a b : Decimal) : Decimal := if b < a then b else a

/-- The same digits with the other sign; `-0` is a decimal of its own. -/
protected def neg (d : Decimal) : Decimal := { d with negative := !d.negative }

instance : Neg Decimal := ⟨Decimal.neg⟩

/-! ## Small laws -/

theorem not_lt {a b : Decimal} : ¬ a < b ↔ b ≤ a := by
  rw [lt_def, le_def, Int.not_lt]

theorem not_le {a b : Decimal} : ¬ a ≤ b ↔ b < a := by
  rw [lt_def, le_def, Int.not_le]

theorem isZero_iff {d : Decimal} : d.isZero = true ↔ d.signed = 0 := by
  unfold isZero signed
  cases d.negative <;> simp

theorem signed_neg (d : Decimal) : (-d).signed = -d.signed := by
  show (Decimal.neg d).signed = -d.signed
  unfold Decimal.neg signed
  cases d.negative <;> simp

end Decimal

end TwoVenue
