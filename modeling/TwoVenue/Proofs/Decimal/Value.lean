import Mathlib.Data.Rat.Floor
import Mathlib.Tactic
import TwoVenue.Decimal.Rounding

/-!
# The values of decimals

Laws of rounded arithmetic are laws about exact values. Here the order of decimals, and everything else that does not
round, is carried over to rational numbers.

- `toRat_le_toRat`, `toRat_lt_toRat`, `toRat_inj`: decimals compare as their values do.
- `toRat_neg`, `toRat_max`, `toRat_min`: operations that are exact.
- `mul_pow_scale`, `abs_toRat`: the digits of a decimal, read off its value; `abs_toRat_le`: its limit.
-/

namespace TwoVenue

theorem tenPow_cast (n : Nat) : ((tenPow n : Nat) : Rat) = 10 ^ n := by
  show ((10 ^ n : Nat) : Rat) = 10 ^ n
  push_cast
  rfl

theorem tenPow_add (m n : Nat) : tenPow (m + n) = tenPow m * tenPow n := Nat.pow_add 10 m n

theorem ten_pow_pos (n : Nat) : (0 : Rat) < 10 ^ n := by positivity

namespace Decimal

theorem toRat_eq (d : Decimal) : d.toRat = d.signed / 10 ^ d.scale := by
  unfold toRat
  rw [tenPow_cast]

theorem mul_pow_scale (d : Decimal) : d.toRat * 10 ^ d.scale = d.signed := by
  rw [toRat_eq]
  exact div_mul_cancel₀ _ (ten_pow_pos _).ne'

/-- On a grid at least as fine as its own a decimal is an integer. -/
theorem mul_pow_of_le (d : Decimal) {s : Nat} (hs : d.scale ≤ s) :
    d.toRat * 10 ^ s = ((d.signed * tenPow (s - d.scale) : Int) : Rat) := by
  obtain ⟨j, rfl⟩ := Nat.exists_eq_add_of_le hs
  rw [pow_add, ← mul_assoc, mul_pow_scale, Nat.add_sub_cancel_left]
  push_cast
  rw [tenPow_cast]

/-- Numbers below `2 ^ 96` are decimals. -/
theorem toRat_ofNat {n : Nat} (hn : n < limit) : (Decimal.ofNat n).toRat = n := by
  rw [toRat_eq]
  unfold Decimal.ofNat signed
  simp [Nat.mod_eq_of_lt hn]

/-! ## Order -/

theorem toRat_lt_toRat {a b : Decimal} : a.toRat < b.toRat ↔ a < b := by
  rw [lt_def, toRat_eq, toRat_eq, div_lt_div_iff₀ (ten_pow_pos _) (ten_pow_pos _), ← tenPow_cast,
    ← tenPow_cast]
  exact_mod_cast Iff.rfl

theorem toRat_le_toRat {a b : Decimal} : a.toRat ≤ b.toRat ↔ a ≤ b := by
  rw [← Rat.not_lt, toRat_lt_toRat, Decimal.not_lt]

theorem toRat_inj {a b : Decimal} : a.toRat = b.toRat ↔ a ≈ b := by
  rw [equiv_def, toRat_eq, toRat_eq, div_eq_div_iff (ten_pow_pos _).ne' (ten_pow_pos _).ne',
    ← tenPow_cast, ← tenPow_cast]
  exact_mod_cast Iff.rfl

@[simp] theorem toRat_zero : (0 : Decimal).toRat = 0 := by decide +kernel

@[simp] theorem toRat_one : (1 : Decimal).toRat = 1 := by decide +kernel

theorem toRat_pos {d : Decimal} : 0 < d.toRat ↔ 0 < d := by
  rw [← toRat_lt_toRat, toRat_zero]

theorem toRat_nonneg {d : Decimal} : 0 ≤ d.toRat ↔ 0 ≤ d := by
  rw [← toRat_le_toRat, toRat_zero]

theorem toRat_eq_zero {d : Decimal} : d.toRat = 0 ↔ d.isZero = true := by
  rw [isZero_iff, toRat_eq, div_eq_zero_iff, or_iff_left (ten_pow_pos _).ne', Int.cast_eq_zero]

/-- Decimals are ordered by their values. Two decimals of one value differ in their digits, so the order is no partial
order. -/
instance : Preorder Decimal where
  le_refl _ := toRat_le_toRat.1 le_rfl
  le_trans _ _ _ h₁ h₂ := toRat_le_toRat.1 (le_trans (toRat_le_toRat.2 h₁) (toRat_le_toRat.2 h₂))
  lt_iff_le_not_ge a b := by
    rw [← toRat_lt_toRat, ← toRat_le_toRat, ← toRat_le_toRat]
    exact lt_iff_le_not_ge

theorem not_isZero_of_pos {d : Decimal} (h : 0 < d) : d.isZero ≠ true :=
  fun hzero => (toRat_pos.2 h).ne' (toRat_eq_zero.2 hzero)

/-- What is as much as zero is not more. -/
theorem not_pos_of_equiv_zero {d : Decimal} (h : d ≈ 0) : ¬ 0 < d :=
  fun hpos => (toRat_pos.2 hpos).ne' ((toRat_inj.2 h).trans toRat_zero)

/-- Decimals that are no larger than each other have one value. -/
theorem equiv_of_le_of_le {a b : Decimal} (h : a ≤ b) (h' : b ≤ a) : a ≈ b :=
  toRat_inj.1 (le_antisymm (toRat_le_toRat.2 h) (toRat_le_toRat.2 h'))

protected theorem le_total (a b : Decimal) : a ≤ b ∨ b ≤ a := by
  rw [← toRat_le_toRat, ← toRat_le_toRat]
  exact le_total a.toRat b.toRat

/-! ## Exact operations -/

@[simp] theorem toRat_neg (d : Decimal) : (-d).toRat = -d.toRat := by
  rw [toRat_eq, toRat_eq, signed_neg]
  show ((-d.signed : Int) : Rat) / 10 ^ d.scale = _
  push_cast
  ring

theorem toRat_max (a b : Decimal) : (a.max b).toRat = max a.toRat b.toRat := by
  unfold Decimal.max
  split
  · next h => exact (max_eq_right (toRat_lt_toRat.2 h).le).symm
  · next h => exact (max_eq_left (toRat_le_toRat.2 (Decimal.not_lt.1 h))).symm

theorem toRat_min (a b : Decimal) : (a.min b).toRat = min a.toRat b.toRat := by
  unfold Decimal.min
  split
  · next h => exact (min_eq_right (toRat_lt_toRat.2 h).le).symm
  · next h => exact (min_eq_left (toRat_le_toRat.2 (Decimal.not_lt.1 h))).symm

/-! ## Digits -/

theorem natAbs_signed (d : Decimal) : d.signed.natAbs = d.mantissa := by
  unfold signed
  split <;> simp

theorem abs_signed (d : Decimal) : |(d.signed : Rat)| = d.mantissa := by
  rw [← Int.cast_abs, Int.abs_eq_natAbs, natAbs_signed]
  rfl

theorem abs_toRat (d : Decimal) : |d.toRat| = d.mantissa / 10 ^ d.scale := by
  rw [toRat_eq, abs_div, abs_signed, abs_of_pos (ten_pow_pos _)]

theorem abs_toRat_mul_pow_scale (d : Decimal) : |d.toRat| * 10 ^ d.scale = d.mantissa := by
  rw [abs_toRat]
  exact div_mul_cancel₀ _ (ten_pow_pos _).ne'

/-- No decimal is more than a step of the integers below the limit. -/
theorem abs_toRat_le (d : Decimal) : |d.toRat| ≤ limit - 1 := by
  have hmantissa : (d.mantissa : Rat) + 1 ≤ limit := by exact_mod_cast d.mantissa_lt
  have hscale : (1 : Rat) ≤ 10 ^ d.scale := one_le_pow₀ (by norm_num)
  rw [abs_toRat]
  exact (div_le_self d.mantissa.cast_nonneg hscale).trans (by linarith)

/-- The factor that a minus sign stands for. -/
def sign (negative : Bool) : Rat := if negative then -1 else 1

theorem toRat_eq_sign_mul (d : Decimal) : d.toRat = sign d.negative * (d.mantissa / 10 ^ d.scale) := by
  rw [toRat_eq]
  unfold signed sign
  cases d.negative with
  | false => simp
  | true => simp [neg_div]

/-- The value of digits that lose their sign when they are zero. -/
theorem toRat_mk (negative : Bool) (m s : Nat) (hm : m < limit) (hs : s ≤ 28) :
    (⟨negative && m != 0, m, s, hm, hs⟩ : Decimal).toRat = sign negative * (m / 10 ^ s) := by
  rw [toRat_eq_sign_mul]
  unfold sign
  cases negative with
  | false => simp
  | true =>
    by_cases h0 : m = 0
    · simp [h0]
    · simp [h0]

end Decimal

end TwoVenue
