import TwoVenue.Proofs.Decimal.Range

/-!
# Grids, and what rounding adds

Rounding a value with the places of a decimal adds one part in `10 ^ 28` at most. Where a value has more places than
that it can add more, but even then it does not more than double the value.

- `OnGrid`: a number has a limited number of places. `add_exact`, `sub_exact`, `mul_exact`: sums, differences and
  products on a grid are exact if they are small enough.
- `nearest_mul_ten_pow`: moving the point is exact.
- `nearest_le_two_mul`: **rounding does not more than double a value**, and `abs_nearest_sub_le`: it moves a value by half
  of the last place at most.
- `slack`, `nearest_le_of_onGrid`: **what rounding adds to a value with the places of a decimal**, and `nearest_le_add`:
  what it adds to any value.
- `slack_growth`: as many such roundings as a word can count do not double a value either.
- `sub_of_le`, `mul_le_ten_pow`: what is left of an amount, and what an amount is worth.
-/

namespace TwoVenue

open Decimal

/-! ## Grids -/

/-- Whether a number has at most `s` places after the point. -/
def OnGrid (s : Nat) (x : Rat) : Prop := ∃ n : Int, x * 10 ^ s = n

section OnGrid

variable {s : Nat} {x y : Rat}

theorem OnGrid.add (hx : OnGrid s x) (hy : OnGrid s y) : OnGrid s (x + y) := by
  obtain ⟨m, hm⟩ := hx
  obtain ⟨n, hn⟩ := hy
  exact ⟨m + n, by rw [add_mul, hm, hn, Int.cast_add]⟩

theorem OnGrid.neg (hx : OnGrid s x) : OnGrid s (-x) := by
  obtain ⟨n, hn⟩ := hx
  exact ⟨-n, by rw [neg_mul, hn, Int.cast_neg]⟩

theorem OnGrid.sub (hx : OnGrid s x) (hy : OnGrid s y) : OnGrid s (x - y) := by
  rw [sub_eq_add_neg]
  exact hx.add hy.neg

/-- The places of a product add up. -/
theorem OnGrid.mul {t : Nat} (hx : OnGrid s x) (hy : OnGrid t y) : OnGrid (t + s) (x * y) := by
  obtain ⟨m, hm⟩ := hx
  obtain ⟨n, hn⟩ := hy
  exact ⟨m * n, by rw [pow_add, Int.cast_mul, ← hm, ← hn]; ring⟩

theorem OnGrid.min (hx : OnGrid s x) (hy : OnGrid s y) : OnGrid s (min x y) := by
  rcases min_choice x y with h | h
  · rw [h]
    exact hx
  · rw [h]
    exact hy

/-- What is positive on a grid is one place of it at least. -/
theorem OnGrid.one_le (hx : OnGrid s x) (hpos : 0 < x) : 1 ≤ x * 10 ^ s := by
  obtain ⟨n, hn⟩ := hx
  have hn' : (0 : Rat) < n := by
    rw [← hn]
    positivity
  rw [hn]
  exact_mod_cast hn'

theorem OnGrid.abs (hx : OnGrid s x) : OnGrid s |x| := by
  rcases abs_choice x with h | h
  · rw [h]
    exact hx
  · rw [h]
    exact hx.neg

theorem onGrid_zero (s : Nat) : OnGrid s 0 := ⟨0, by simp⟩

theorem onGrid_of_scale_le {d : Decimal} (h : d.scale ≤ s) : OnGrid s d.toRat := ⟨_, mul_pow_of_le d h⟩

theorem onGrid_maxScale (d : Decimal) : OnGrid maxScale d.toRat := onGrid_of_scale_le d.scale_le

theorem OnGrid.ite (hx : OnGrid s x) {p : Prop} [Decidable p] : OnGrid s (if p then x else 0) := by
  split
  · exact hx
  · exact onGrid_zero s

/-- A value on a grid is a decimal if it is small enough. -/
theorem fits_of_onGrid (hx : OnGrid s x) (hroom : |x| * 10 ^ s < limit) : Fits x s := by
  obtain ⟨n, hn⟩ := hx
  exact fits_of_lt hn hroom

theorem nearest_of_onGrid (hs : s ≤ maxScale) (hx : OnGrid s x) (hroom : |x| * 10 ^ s < limit) : nearest x = x := by
  obtain ⟨n, hn⟩ := hx
  exact nearest_eq_self hs (fits_of_lt hn hroom) hn

/-- A difference on a grid is exact if it is small enough. -/
theorem sub_exact {a b : Decimal} (hs : s ≤ maxScale) (hgrid : OnGrid s (a.toRat - b.toRat))
    (hroom : |a.toRat - b.toRat| * 10 ^ s < limit) : ∃ c, a.sub b = .ok c ∧ c.toRat = a.toRat - b.toRat := by
  obtain ⟨c, hc⟩ := sub_defined ((fits_of_onGrid hgrid hroom).of_le (Nat.zero_le s) le_rfl)
  exact ⟨c, hc, by rw [sub_toRat hc, nearest_of_onGrid hs hgrid hroom]⟩

/-- A product on a grid is exact if it is small enough. -/
theorem mul_exact {a b : Decimal} (hs : s ≤ maxScale) (hgrid : OnGrid s (a.toRat * b.toRat))
    (hroom : |a.toRat * b.toRat| * 10 ^ s < limit) : ∃ c, a.mul b = .ok c ∧ c.toRat = a.toRat * b.toRat := by
  obtain ⟨c, hc⟩ := mul_defined ((fits_of_onGrid hgrid hroom).of_le (Nat.zero_le s) le_rfl)
  exact ⟨c, hc, by rw [mul_toRat hc, nearest_of_onGrid hs hgrid hroom]⟩

/-- A sum on a grid is exact if it is small enough. -/
theorem add_exact {a b : Decimal} (hs : s ≤ maxScale) (ha : OnGrid s a.toRat) (hb : OnGrid s b.toRat)
    (hroom : (|a.toRat| + |b.toRat|) * 10 ^ s < limit) : ∃ c, a.add b = .ok c ∧ c.toRat = a.toRat + b.toRat := by
  obtain ⟨n, hn⟩ := ha.add hb
  have hfits : Fits (a.toRat + b.toRat) s :=
    fits_of_lt hn (lt_of_le_of_lt (mul_le_mul_of_nonneg_right (abs_add_le ..) (ten_pow_pos s).le) hroom)
  obtain ⟨c, hc⟩ := add_defined (hfits.of_le (Nat.zero_le s) le_rfl)
  refine ⟨c, hc, ?_⟩
  rw [add_toRat hc, nearest_eq_self hs hfits hn]

end OnGrid

namespace Decimal

/-- **Moving the point is exact**, as long as the digits before it fit. -/
theorem nearest_mul_ten_pow (d : Decimal) (g : Nat) (h : |d.toRat| * 10 ^ g < limit) :
    nearest (d.toRat * 10 ^ g) = d.toRat * 10 ^ g := by
  have habs : |d.toRat * 10 ^ g| = |d.toRat| * 10 ^ g := by
    rw [abs_mul, abs_of_pos (ten_pow_pos g)]
  by_cases hg : g ≤ d.scale
  · -- some places are left
    have hn : d.toRat * 10 ^ g * 10 ^ (d.scale - g) = d.signed := by
      rw [mul_assoc, ← pow_add, Nat.add_sub_cancel' hg, mul_pow_scale]
    refine nearest_eq_self ((Nat.sub_le ..).trans d.scale_le) (fits_of_lt hn ?_) hn
    rw [habs, mul_assoc, ← pow_add, Nat.add_sub_cancel' hg, abs_toRat_mul_pow_scale]
    exact_mod_cast d.mantissa_lt
  · have hn : d.toRat * 10 ^ g * 10 ^ 0 = ((d.signed * tenPow (g - d.scale) : Int) : Rat) := by
      rw [pow_zero, mul_one, mul_pow_of_le d (by omega)]
    refine nearest_eq_self (Nat.zero_le _) (fits_of_lt hn ?_) hn
    rwa [pow_zero, mul_one, habs]

/-! ## What rounding adds -/

theorem roundEven_le_two_mul {x : Rat} (hx : 0 ≤ x) : (roundEven x : Rat) ≤ 2 * x := by
  by_cases hhalf : x < 1 / 2
  · have hzero : roundEven x ≤ 0 := roundEven_le (by push_cast; linarith)
    have hzero' : (roundEven x : Rat) ≤ 0 := by exact_mod_cast hzero
    linarith
  · have := roundEven_le_add_half x
    linarith

/-- **Rounding does not more than double a value.** -/
theorem nearest_le_two_mul {x : Rat} (hx : 0 ≤ x) : nearest x ≤ 2 * x := by
  have hround : (roundEven (x * 10 ^ finestScale x) : Rat) ≤ 2 * (x * 10 ^ finestScale x) :=
    roundEven_le_two_mul (by positivity)
  unfold nearest
  rw [div_le_iff₀ (ten_pow_pos _)]
  linarith

/-- **Rounding moves a value by half of the last place at most**, for all places with which it fits. -/
theorem abs_nearest_sub_le {x : Rat} {s : Nat} (hs : s ≤ maxScale) (h : Fits x s) :
    |nearest x - x| ≤ 1 / 2 / 10 ^ s := by
  have hpow : (10 : Rat) ^ s ≤ 10 ^ finestScale x := pow_le_pow_right₀ (by norm_num) (le_finestScale hs h)
  have hround : |(roundEven (x * 10 ^ finestScale x) : Rat) - x * 10 ^ finestScale x| ≤ 1 / 2 := by
    rw [abs_le]
    constructor
    · linarith [sub_half_le_roundEven (x * 10 ^ finestScale x)]
    · linarith [roundEven_le_add_half (x * 10 ^ finestScale x)]
  have hdiff : nearest x - x = (roundEven (x * 10 ^ finestScale x) - x * 10 ^ finestScale x) / 10 ^ finestScale x := by
    rw [sub_div, mul_div_cancel_right₀ _ (ten_pow_pos _).ne']
    rfl
  rw [hdiff, abs_div, abs_of_pos (ten_pow_pos (finestScale x))]
  exact div_le_div₀ (by norm_num) hround (ten_pow_pos s) hpow

/-- The part that a rounding can add to a value with the places of a decimal. -/
def slack : Rat := 1 / 10 ^ maxScale

theorem slack_pos : 0 < slack := by
  unfold slack
  positivity

/-- A value of which not all places fit hardly grows: the last place that fits is that small a part of it. -/
theorem nearest_le_of_finestScale_lt {x : Rat} (hx : 0 ≤ x) (h : finestScale x < maxScale) :
    nearest x ≤ (1 + slack) * x := by
  -- one place more did not fit, so half of the last place is a small part of the value
  have hcoarse := not_fits_of_finestScale_lt (Nat.lt_succ_self _) (Nat.succ_le_of_lt h)
  unfold Fits at hcoarse
  rw [abs_of_nonneg hx, Rat.not_lt, Nat.succ_eq_add_one, pow_succ, ← mul_assoc, limit_cast] at hcoarse
  have hhalf := roundEven_le_add_half (x * 10 ^ finestScale x)
  unfold nearest slack
  rw [div_le_iff₀ (ten_pow_pos _)]
  have hpart : 1 / 2 ≤ 1 / 10 ^ maxScale * (x * 10 ^ finestScale x) := by
    rw [div_mul_eq_mul_div, one_mul, le_div_iff₀ (ten_pow_pos _)]
    norm_num [maxScale]
    linarith
  linarith

/-- **A value with the places of a decimal hardly grows when it is rounded**: either all of its places fit, or the last
place that fits is that small a part of the value. -/
theorem nearest_le_of_onGrid {x : Rat} (hx : 0 ≤ x) (h : OnGrid maxScale x) : nearest x ≤ (1 + slack) * x := by
  rcases (finestScale_le x).lt_or_eq with hlt | heq
  · exact nearest_le_of_finestScale_lt hx hlt
  · obtain ⟨n, hn⟩ := h
    have hfits := fits_finestScale (x := x) (by rw [heq]; decide)
    rw [heq] at hfits
    rw [nearest_eq_self le_rfl hfits hn]
    exact le_mul_of_one_le_left hx (by linarith [slack_pos])

/-- With more places than that a value can grow by half of the last place besides. -/
theorem nearest_le_add {x : Rat} (hx : 0 ≤ x) : nearest x ≤ (1 + slack) * x + slack / 2 := by
  have hslack := slack_pos
  rcases (finestScale_le x).lt_or_eq with hlt | heq
  · linarith [nearest_le_of_finestScale_lt hx hlt]
  · have hfits := fits_finestScale (x := x) (by rw [heq]; decide)
    rw [heq] at hfits
    have hmoved := (le_abs_self _).trans (abs_nearest_sub_le le_rfl hfits)
    have hhalf : 1 / 2 / 10 ^ maxScale = slack / 2 := by
      unfold slack
      ring
    have hgrow : 0 ≤ slack * x := by positivity
    linarith

theorem abs_nearest_le_of_onGrid {x : Rat} (h : OnGrid maxScale x) : |nearest x| ≤ (1 + slack) * |x| := by
  rw [abs_nearest]
  exact nearest_le_of_onGrid (abs_nonneg x) h.abs

/-- As many last places as a word can count are a small part of one. -/
theorem slack_mul_le {n : Nat} (hn : n ≤ 2 ^ 64) : n * slack ≤ 1 / 16 := by
  have hn : (n : Rat) ≤ 2 ^ 64 := by exact_mod_cast hn
  have hword : (2 : Rat) ^ 64 * slack ≤ 1 / 16 := by
    unfold slack
    norm_num [maxScale]
  exact (mul_le_mul_of_nonneg_right hn slack_pos.le).trans hword

/-- **Roundings add up slowly**: `2 ^ 64` of them do not double a value. -/
theorem slack_growth {n : Nat} (hn : n ≤ 2 ^ 64) : (1 + slack) ^ n ≤ 2 := by
  have hpos := slack_pos
  have hmany := slack_mul_le hn
  have hsmall : slack ≤ 1 / 2 := by
    unfold slack
    norm_num [maxScale]
  -- Bernoulli bounds powers from below, so the bound goes through those of `1 - slack`
  have hbernoulli : 1 / 2 ≤ (1 - slack) ^ n := by
    have h := one_add_mul_le_pow (a := -slack) (by linarith) n
    rw [← sub_eq_add_neg] at h
    nlinarith
  have hproduct : (1 + slack) ^ n * (1 - slack) ^ n ≤ 1 := by
    rw [← mul_pow]
    exact pow_le_one₀ (by nlinarith) (by nlinarith)
  have hgrow : (0 : Rat) ≤ (1 + slack) ^ n := by positivity
  nlinarith

/-! ## Parts of an amount -/

/-- What is left of an amount is no more than it was, up to the rounding. -/
theorem sub_of_le {a b : Decimal} (hb : 0 ≤ b) (hle : b ≤ a) :
    ∃ c, a.sub b = .ok c ∧ 0 ≤ c ∧ c ≤ a ∧ c.toRat ≤ (1 + slack) * (a.toRat - b.toRat) := by
  have hb' := toRat_nonneg.2 hb
  have hrest : 0 ≤ a.toRat - b.toRat := sub_nonneg.2 (toRat_le_toRat.2 hle)
  have hfits : Fits (a.toRat - b.toRat) 0 := by
    refine (fits_toRat a).of_le (Nat.zero_le _) ?_
    rw [abs_of_nonneg hrest, abs_of_nonneg (by linarith)]
    linarith
  have hgrid : OnGrid maxScale (a.toRat - b.toRat) := by
    rw [sub_eq_add_neg]
    exact (onGrid_maxScale a).add (onGrid_maxScale b).neg
  obtain ⟨c, hc⟩ := sub_defined hfits
  have hvalue := sub_toRat hc
  refine ⟨c, hc, ?_, ?_, ?_⟩
  · rw [← toRat_nonneg, hvalue]
    exact nearest_nonneg hrest
  · rw [← toRat_le_toRat, hvalue]
    exact nearest_le_toRat (sub_le_self _ hb')
  · rw [hvalue]
    exact nearest_le_of_onGrid hrest hgrid

/-- An amount at a price of at most `10 ^ g` is worth no more than at that price, without any rounding. -/
theorem mul_le_ten_pow {a b : Decimal} {g : Nat} (ha : 0 ≤ a) (hb : |b.toRat| ≤ 10 ^ g)
    (hroom : a.toRat * 10 ^ g ≤ 6 * 10 ^ 28) : ∃ c, a.mul b = .ok c ∧ |c.toRat| ≤ a.toRat * 10 ^ g := by
  have hlimit : 6 * 10 ^ 28 < limit := by decide
  have ha' := toRat_nonneg.2 ha
  have hexact : |a.toRat * b.toRat| ≤ a.toRat * 10 ^ g := by
    rw [abs_mul, abs_of_nonneg ha']
    gcongr
  obtain ⟨c, hc, -⟩ := mul_bounded (a := a) (b := b) hlimit (by push_cast; linarith)
  have hfits : |a.toRat| * 10 ^ g < limit := by
    rw [abs_of_nonneg ha', limit_cast]
    linarith
  refine ⟨c, hc, ?_⟩
  rw [mul_toRat hc, abs_nearest, ← nearest_mul_ten_pow a g hfits]
  exact nearest_mono hexact

end Decimal

end TwoVenue
