import TwoVenue.Decimal.Arithmetic
import TwoVenue.Proofs.Decimal.Nearest

/-!
# Sums and products are rounded exact values

- `fit?_toRat`: what `fit?` returns is the rounding of the exact value, however many digits were dropped.
- `fit?_isSome`: it returns something unless the value rounds to more than 96 bits.
- `add_toRat`, `sub_toRat`, `mul_toRat`: **the value of a sum, difference or product is `nearest` of the exact one**.
- `add_defined`, `sub_defined`: there is one if the exact value is in range.
- `add_of_isZero_right`, `mul_of_isZero_left`, `exists_sub_self`: zeros, digit for digit.
-/

namespace TwoVenue

namespace Decimal

/-! ## Dropping digits -/

theorem div_tenPow_excess_lt (v : Nat) : v / tenPow (excess v) < limit := by
  induction v using excess.induct with
  | case1 v h ih =>
    rw [excess, if_pos h, Nat.add_comm, tenPow_add, ← Nat.div_div_eq_div_mul]
    exact ih
  | case2 v h =>
    rw [excess, if_neg h]
    exact lt_of_le_of_lt (Nat.div_le_self ..) (Nat.not_le.1 h)

/-- With one digit fewer dropped, the rest would not fit. -/
theorem limit_le_div_of_lt_excess {v j : Nat} (hj : j < excess v) : limit ≤ v / tenPow j := by
  induction v using excess.induct generalizing j with
  | case1 v h ih =>
    rw [excess, if_pos h] at hj
    cases j with
    | zero => simpa [tenPow] using h
    | succ j =>
      rw [Nat.add_comm, tenPow_add, ← Nat.div_div_eq_div_mul]
      exact ih (by omega)
  | case2 v h =>
    rw [excess, if_neg h] at hj
    omega

theorem div_tenPow_lt_limit {v k : Nat} (hk : excess v ≤ k) : v / tenPow k < limit :=
  lt_of_le_of_lt (Nat.div_le_div_left (Nat.pow_le_pow_right (by decide) hk) (tenPow_pos _))
    (div_tenPow_excess_lt v)

theorem nearest_sign_mul (negative : Bool) (x : Rat) : nearest (sign negative * x) = sign negative * nearest x := by
  cases negative with
  | false => simp [sign]
  | true => simp [sign, nearest_neg]

/-- The digits that are kept, seen from the exact value. -/
theorem kept_eq {v s k : Nat} (hk : k ≤ s) : (v : Rat) / 10 ^ s * 10 ^ (s - k) = v / 10 ^ k := by
  obtain ⟨j, rfl⟩ := Nat.exists_eq_add_of_le hk
  rw [Nat.add_sub_cancel_left, pow_add]
  field_simp

theorem halfEven_tenPow (v k : Nat) : ((halfEven v (tenPow k) : Nat) : Int) = roundEven ((v : Rat) / 10 ^ k) := by
  rw [halfEven_eq v (tenPow_pos k), tenPow_cast]

theorem abs_quotient (v s : Nat) : |(v : Rat) / 10 ^ s| = v / 10 ^ s := abs_of_nonneg (by positivity)

/-- The rounding when the rounded digits fit: the grid that `fit?` chooses is the finest one, unless nothing is
dropped at all. -/
theorem nearest_of_kept_lt {v s k : Nat} (hk : k = max (s - maxScale) (excess v)) (hks : k ≤ s)
    (hq : halfEven v (tenPow k) < limit) :
    nearest ((v : Rat) / 10 ^ s) = halfEven v (tenPow k) / 10 ^ (s - k) := by
  have hs : s - k ≤ maxScale := by
    have := Nat.le_max_left (s - maxScale) (excess v)
    omega
  have hround : (halfEven v (tenPow k) : Rat) = roundEven ((v : Rat) / 10 ^ s * 10 ^ (s - k)) := by
    rw [kept_eq hks, ← halfEven_tenPow]
    rfl
  have hfits : Fits ((v : Rat) / 10 ^ s) (s - k) := by
    unfold Fits
    rw [abs_quotient, kept_eq hks]
    refine lt_of_roundEven_lt (n := limit) even_limit ?_
    rw [← halfEven_tenPow]
    exact_mod_cast hq
  rcases Nat.eq_zero_or_pos k with h0 | hpos
  · -- nothing is dropped
    have hint : (v : Rat) / 10 ^ s * 10 ^ (s - k) = ((v : Int) : Rat) := by
      rw [kept_eq hks, h0]
      simp
    rw [hround, hint, roundEven_intCast, nearest_eq_self hs hfits hint, ← hint]
    exact (mul_div_cancel_right₀ _ (ten_pow_pos _).ne').symm
  · have hmax : s - k = maxScale ∨ ¬ Fits ((v : Rat) / 10 ^ s) (s - k + 1) := by
      rcases le_total (excess v) (s - maxScale) with h | h
      · rw [max_eq_left h] at hk
        exact Or.inl (by omega)
      · rw [max_eq_right h] at hk
        refine Or.inr fun hfit => ?_
        have hlim : limit ≤ v / tenPow (k - 1) := limit_le_div_of_lt_excess (by omega)
        have hle : (limit : Rat) ≤ (v : Rat) / 10 ^ (k - 1) := by
          rw [← tenPow_cast]
          calc (limit : Rat) ≤ ((v / tenPow (k - 1) : Nat) : Rat) := by exact_mod_cast hlim
            _ ≤ (v : Rat) / (tenPow (k - 1) : Nat) := Nat.cast_div_le
        unfold Fits at hfit
        rw [abs_quotient, show s - k + 1 = s - (k - 1) by omega, kept_eq (by omega)] at hfit
        linarith
    rw [nearest_of_finest hs hfits hmax, hround]

/-- The rounding when it carries the kept digits to the limit: one digit more goes. -/
theorem nearest_of_kept_limit {v s k : Nat} (hk : excess v ≤ k) (hks : k < s) (hs : s - k ≤ maxScale)
    (hq : ¬ halfEven v (tenPow k) < limit) :
    nearest ((v : Rat) / 10 ^ s) = carried / 10 ^ (s - k - 1) := by
  have hlow : (limit : Rat) - 1 / 2 ≤ v / 10 ^ k := by
    by_contra h
    have h1 : roundEven ((v : Rat) / 10 ^ k) ≤ (limit : Int) - 1 :=
      roundEven_le (by push_cast; linarith)
    rw [← halfEven_tenPow] at h1
    omega
  have hhigh : (v : Rat) / 10 ^ k < limit := by
    rw [← tenPow_cast, div_lt_iff₀ (by exact_mod_cast tenPow_pos k)]
    have := (Nat.div_lt_iff_lt_mul (tenPow_pos k)).1 (div_tenPow_lt_limit hk)
    exact_mod_cast this
  rw [← kept_eq hks.le, show s - k = s - k - 1 + 1 by omega] at hlow hhigh
  exact nearest_of_carry (by positivity) (by omega) hlow hhigh

/-- **`fit?` rounds the exact value.** -/
theorem fit?_toRat {negative : Bool} {v s : Nat} {d : Decimal} (h : fit? negative v s = some d) :
    d.toRat = nearest (sign negative * (v / 10 ^ s)) := by
  rw [nearest_sign_mul]
  unfold fit? at h
  dsimp only at h
  split at h
  · next hks =>
    split at h
    · next hq =>
      obtain rfl := Option.some.inj h
      rw [toRat_mk, nearest_of_kept_lt rfl hks hq]
    · next hq =>
      split at h
      · next hlt =>
        obtain rfl := Option.some.inj h
        have hs : s - max (s - maxScale) (excess v) ≤ maxScale := by
          have := Nat.le_max_left (s - maxScale) (excess v)
          omega
        rw [nearest_of_kept_limit (Nat.le_max_right ..) hlt hs hq, toRat_eq_sign_mul]
      · cases h
  · cases h

/-- A value that rounds to 96 bits at least on the grid of the integers has a rounding. -/
theorem fit?_isSome (negative : Bool) {v s : Nat} (h : Fits ((v : Rat) / 10 ^ s) 0) :
    ∃ d, fit? negative v s = some d := by
  have hlt : (v : Rat) / 10 ^ s < limit - 1 / 2 := by
    unfold Fits at h
    rwa [abs_quotient, pow_zero, mul_one] at h
  have hks : max (s - maxScale) (excess v) ≤ s := by
    by_contra hks
    have hlim : limit ≤ v / tenPow s := limit_le_div_of_lt_excess (by omega)
    have hle : (limit : Rat) ≤ (v : Rat) / 10 ^ s := by
      rw [← tenPow_cast]
      calc (limit : Rat) ≤ ((v / tenPow s : Nat) : Rat) := by exact_mod_cast hlim
        _ ≤ (v : Rat) / (tenPow s : Nat) := Nat.cast_div_le
    linarith
  unfold fit?
  rw [dif_pos hks]
  dsimp only
  split
  · exact ⟨_, rfl⟩
  · next hq =>
    split
    · exact ⟨_, rfl⟩
    · next hks' =>
      -- all digits after the point are gone, and still the rest rounds up to the limit
      exfalso
      rw [show max (s - maxScale) (excess v) = s by omega] at hq
      have h1 : roundEven ((v : Rat) / 10 ^ s) ≤ (limit : Int) - 1 :=
        roundEven_le (by push_cast; linarith)
      rw [← halfEven_tenPow] at h1
      omega

/-! ## The operations -/

theorem orFault_eq_ok {fault : Fault} {x : Option Decimal} {d : Decimal} :
    orFault fault x = .ok d ↔ x = some d := by
  cases x <;> simp [orFault]

theorem sign_mul_natAbs (n : Int) : sign (decide (n < 0)) * n.natAbs = n := by
  unfold sign
  by_cases h : n < 0
  · have : (n.natAbs : Int) = -n := by omega
    rw [decide_eq_true h, if_pos rfl, ← Int.cast_natCast n.natAbs, this]
    push_cast
    ring
  · have : (n.natAbs : Int) = n := by omega
    rw [decide_eq_false h, if_neg (by simp), one_mul, ← Int.cast_natCast n.natAbs, this]

/-- The integer that `addAligned?` rounds. -/
theorem aligned_sum (a b : Decimal) :
    ((a.signed * tenPow (max a.scale b.scale - a.scale) + b.signed * tenPow (max a.scale b.scale - b.scale) : Int) : Rat)
      = (a.toRat + b.toRat) * 10 ^ max a.scale b.scale := by
  rw [Int.cast_add, ← mul_pow_of_le a (le_max_left ..), ← mul_pow_of_le b (le_max_right ..), add_mul]

theorem aligned_value (a b : Decimal) (n : Int)
    (hn : (n : Rat) = (a.toRat + b.toRat) * 10 ^ max a.scale b.scale) :
    sign (decide (n < 0)) * ((n.natAbs : Rat) / 10 ^ max a.scale b.scale) = a.toRat + b.toRat := by
  rw [← mul_div_assoc, sign_mul_natAbs, hn]
  exact mul_div_cancel_right₀ _ (ten_pow_pos _).ne'

theorem addAligned?_toRat {a b d : Decimal} (h : addAligned? a b = some d) :
    d.toRat = nearest (a.toRat + b.toRat) := by
  rw [fit?_toRat h, aligned_value a b _ (aligned_sum a b)]

theorem addAligned?_isSome {a b : Decimal} (h : Fits (a.toRat + b.toRat) 0) :
    ∃ d, addAligned? a b = some d := by
  refine fit?_isSome _ ?_
  have hv := congrArg abs (aligned_value a b _ (aligned_sum a b))
  rw [abs_mul, show |sign _| = 1 by unfold sign; split <;> simp, one_mul] at hv
  unfold Fits at h ⊢
  rwa [hv]

/-- **The value of a sum.** -/
theorem add_toRat {a b c : Decimal} (h : a.add b = .ok c) : c.toRat = nearest (a.toRat + b.toRat) := by
  unfold Decimal.add at h
  split at h
  · next ha =>
    cases h
    rw [toRat_eq_zero.2 ha, zero_add, nearest_toRat]
  · split at h
    · next hb =>
      cases h
      rw [toRat_eq_zero.2 hb, add_zero, nearest_toRat]
    · exact addAligned?_toRat (orFault_eq_ok.1 h)

theorem add_defined {a b : Decimal} (h : Fits (a.toRat + b.toRat) 0) : ∃ c, a.add b = .ok c := by
  obtain ⟨d, hd⟩ := addAligned?_isSome h
  unfold Decimal.add
  split
  · exact ⟨_, rfl⟩
  · split
    · exact ⟨_, rfl⟩
    · exact ⟨d, orFault_eq_ok.2 hd⟩

/-- **The value of a difference.** -/
theorem sub_toRat {a b c : Decimal} (h : a.sub b = .ok c) : c.toRat = nearest (a.toRat - b.toRat) := by
  unfold Decimal.sub at h
  split at h
  · next ha =>
    rw [toRat_eq_zero.2 ha, zero_sub, ← toRat_neg, nearest_toRat]
    split at h
    · next hb =>
      cases h
      rw [toRat_neg, toRat_eq_zero.2 hb, neg_zero]
    · cases h
      rfl
  · split at h
    · next hb =>
      cases h
      rw [toRat_eq_zero.2 hb, sub_zero, nearest_toRat]
    · rw [addAligned?_toRat (orFault_eq_ok.1 h), toRat_neg, ← sub_eq_add_neg]

theorem sub_defined {a b : Decimal} (h : Fits (a.toRat - b.toRat) 0) : ∃ c, a.sub b = .ok c := by
  obtain ⟨d, hd⟩ := addAligned?_isSome (a := a) (b := -b) (by rwa [toRat_neg, ← sub_eq_add_neg])
  unfold Decimal.sub
  split
  · exact ⟨_, rfl⟩
  · split
    · exact ⟨_, rfl⟩
    · exact ⟨d, orFault_eq_ok.2 hd⟩

/-- The exact product, on the grid on which it is an integer. -/
theorem product_value (a b : Decimal) :
    sign (a.negative != b.negative) * (((a.mantissa * b.mantissa : Nat) : Rat) / 10 ^ (a.scale + b.scale))
      = a.toRat * b.toRat := by
  have hsign : sign (a.negative != b.negative) = sign a.negative * sign b.negative := by
    unfold sign
    cases a.negative <;> cases b.negative <;> simp
  rw [toRat_eq_sign_mul a, toRat_eq_sign_mul b, hsign, pow_add]
  push_cast
  field_simp

/-- Two short mantissas with that many places have a product below half of the last place. -/
theorem nearest_of_vanishes {a b : Decimal} (h : vanishes a b = true) : nearest (a.toRat * b.toRat) = 0 := by
  obtain ⟨hs, ha, hb⟩ := of_decide_eq_true h
  have hprod : a.mantissa * b.mantissa ≤ 2 ^ 64 := by
    have ha' : a.mantissa ≤ 2 ^ 32 := ha.le
    have hb' : b.mantissa ≤ 2 ^ 32 := hb.le
    calc a.mantissa * b.mantissa ≤ 2 ^ 32 * 2 ^ 32 := Nat.mul_le_mul ha' hb'
      _ = 2 ^ 64 := by norm_num
  have hprod' : ((a.mantissa * b.mantissa : Nat) : Rat) ≤ 2 ^ 64 := by exact_mod_cast hprod
  have hsmall : ((a.mantissa * b.mantissa : Nat) : Rat) / 10 ^ (a.scale + b.scale) * 10 ^ maxScale < 1 / 2 := by
    obtain ⟨j, hj⟩ := Nat.exists_eq_add_of_le (show 48 ≤ a.scale + b.scale from hs)
    have h1 : (1 : Rat) ≤ 10 ^ j := one_le_pow₀ (by norm_num)
    rw [hj, pow_add, show maxScale = 28 from rfl, div_mul_eq_mul_div,
      div_lt_div_iff₀ (by positivity) (by norm_num)]
    nlinarith
  have hnonneg : (0 : Rat) ≤ ((a.mantissa * b.mantissa : Nat) : Rat) / 10 ^ (a.scale + b.scale) := by positivity
  have hfits : Fits (((a.mantissa * b.mantissa : Nat) : Rat) / 10 ^ (a.scale + b.scale)) maxScale := by
    unfold Fits
    rw [abs_of_nonneg hnonneg, limit_cast]
    linarith
  have hround : roundEven (((a.mantissa * b.mantissa : Nat) : Rat) / 10 ^ (a.scale + b.scale) * 10 ^ maxScale) = 0 :=
    le_antisymm (roundEven_le (by rwa [Int.cast_zero, zero_add])) (roundEven_nonneg (by positivity))
  rw [← product_value, nearest_sign_mul]
  rw [nearest_of_finest le_rfl hfits (Or.inl rfl), hround]
  simp

/-- **The value of a product.** -/
theorem mul_toRat {a b c : Decimal} (h : a.mul b = .ok c) : c.toRat = nearest (a.toRat * b.toRat) := by
  unfold Decimal.mul at h
  split at h
  · next hz =>
    cases h
    rw [toRat_zero]
    rcases Bool.or_eq_true_iff.1 hz with hz | hv
    · rcases Bool.or_eq_true_iff.1 hz with ha | hb
      · rw [toRat_eq_zero.2 ha, zero_mul, nearest_zero]
      · rw [toRat_eq_zero.2 hb, mul_zero, nearest_zero]
    · exact (nearest_of_vanishes hv).symm
  · rw [fit?_toRat (orFault_eq_ok.1 h), product_value]

/-! ## Zero operands -/

variable {a b : Decimal}

theorem add_of_isZero_left (ha : a.isZero = true) : a.add b = .ok b := by
  simp [Decimal.add, ha]

/-- Adding zero leaves all digits as they are. -/
theorem add_of_isZero_right (ha : a.isZero ≠ true) (hb : b.isZero = true) : a.add b = .ok a := by
  simp [Decimal.add, ha, hb]

theorem mul_of_isZero_left (ha : a.isZero = true) : a.mul b = .ok 0 := by
  simp [Decimal.mul, ha]

theorem mul_of_isZero_right (hb : b.isZero = true) : a.mul b = .ok 0 := by
  simp [Decimal.mul, hb]

/-- A number less itself is zero, of some scale. -/
theorem exists_sub_self (a : Decimal) : ∃ c, a.sub a = .ok c ∧ c.isZero = true := by
  have hzero : a.toRat - a.toRat = 0 := sub_self a.toRat
  have hfits : Fits (a.toRat - a.toRat) 0 := by
    rw [hzero]
    exact (fits_toRat 0).of_le (Nat.zero_le _) (by simp)
  obtain ⟨c, hc⟩ := sub_defined hfits
  refine ⟨c, hc, ?_⟩
  rw [← toRat_eq_zero, sub_toRat hc, hzero, nearest_zero]

end Decimal

end TwoVenue
