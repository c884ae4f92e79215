import TwoVenue.Proofs.Search.Optimum
import TwoVenue.Proofs.Search.Spacing

/-!
# The amounts of a sweep

The step of a sweep is a rounded quotient, so the amounts before the last one can lie beyond it, but not far beyond: the
interval before the last amount is wider than the errors of all steps together. Arithmetic never fails here. What can fail
is the list of the amounts, which has room for `2 ^ 58` of them: settings may ask for more.

- `Settings.exists_sweep`: **a sweep has its amounts**: the points of a grid, and the largest amount behind them, as long
  as there is room for them.
- `Settings.sweep_eq_error`: **the only fault of a sweep**.
- `Settings.sweep_eq_ok`: **a sweep begins with its smallest amount**.
- `Settings.sweep_spaced`: **the amounts of a sweep in order**, and when they stay below the largest one.
- `not_every_sweep_fits`: **there are settings whose amounts have no room**.
- `Settings.sweep_bounded`: a bound of the largest amount is one of all amounts, up to a factor.
-/

namespace TwoVenue

open Decimal

/-! ## Room -/

theorem reserve_of_lt {count : Nat} (h : count < 2 ^ 59) : reserve count = .ok () := if_pos (by omega)

theorem reserve_of_le {count : Nat} (h : 2 ^ 59 ≤ count) : reserve count = .error .capacityOverflow :=
  if_neg (by omega)

/-- A sweep whose arithmetic has results has its amounts, unless the list of its points is too large or cannot double. -/
theorem sweepAmounts_of_gridPoints {min max range step : Decimal} {points : List Decimal} {steps : Nat}
    (htwo : ¬ steps < 2) (hrange : max.sub min = .ok range) (hstep : range.div (Decimal.ofNat (steps - 1)) = .ok step)
    (hpoints : gridPoints min step (List.range (steps - 1)) = .ok points) :
    sweepAmounts min max steps = if steps ≤ 2 ^ 58 then .ok (points ++ [max]) else .error .capacityOverflow := by
  unfold sweepAmounts
  rw [if_neg htwo]
  split
  · next hroom =>
    have hfirst : reserve (steps - 1) = .ok () := reserve_of_lt (by omega)
    have hdouble : reserve (2 * (steps - 1)) = .ok () := reserve_of_lt (by omega)
    exact Outcome.bind_eq_ok.2 ⟨range, hrange, Outcome.bind_eq_ok.2 ⟨step, hstep, Outcome.bind_eq_ok.2 ⟨(), hfirst,
      Outcome.bind_eq_ok.2 ⟨points, hpoints, Outcome.bind_eq_ok.2 ⟨(), hdouble, rfl⟩⟩⟩⟩⟩
  · next hroom =>
    refine Outcome.bind_eq_error.2 (.inr ⟨range, hrange, Outcome.bind_eq_error.2 (.inr ⟨step, hstep, ?_⟩)⟩)
    rcases Nat.lt_or_ge (steps - 1) (2 ^ 59) with hfirst | hfirst
    · refine Outcome.bind_eq_error.2 (.inr ⟨(), reserve_of_lt hfirst, ?_⟩)
      refine Outcome.bind_eq_error.2 (.inr ⟨points, hpoints, Outcome.bind_eq_error.2 (.inl ?_)⟩)
      exact reserve_of_le (by omega)
    · exact Outcome.bind_eq_error.2 (.inl (reserve_of_le hfirst))

/-! ## The whole sweep -/

/-- The number of intervals of a sweep. -/
theorem Settings.intervals (s : Settings) : ¬ s.sweepSteps.toNat < 2 ∧ s.sweepSteps.toNat - 1 < 2 ^ 64 := by
  have hsteps := UInt64.le_iff_toNat_le.1 s.two_le_steps
  have hword := s.sweepSteps.toNat_lt
  have htwo : (2 : UInt64).toNat = 2 := rfl
  omega

theorem Settings.width_nonneg (s : Settings) : 0 ≤ s.maxOrderAmount.toRat - s.minOrderAmount.toRat :=
  sub_nonneg.2 (toRat_le_toRat.2 s.min_le_max)

theorem Settings.intervals_lt (s : Settings) : s.sweepSteps.toNat - 1 < limit := s.intervals.2.trans (by decide)

/-- **A sweep has its amounts**: the points of a grid with a step that is a part of its width, then the largest one. Only
room for them may be missing. -/
theorem Settings.exists_sweep (s : Settings) :
    ∃ step points, PartOf (s.maxOrderAmount.toRat - s.minOrderAmount.toRat) (s.sweepSteps.toNat - 1) step ∧
      gridPoints s.minOrderAmount step (List.range (s.sweepSteps.toNat - 1)) = .ok points ∧
      s.sweep =
        if s.sweepSteps.toNat ≤ 2 ^ 58 then .ok (points ++ [s.maxOrderAmount]) else .error .capacityOverflow := by
  obtain ⟨htwo, hword⟩ := s.intervals
  have hmin := toRat_pos.2 s.min_pos
  have hwidth := s.width_nonneg
  have hmax := s.maxOrderAmount.abs_toRat_le
  rw [abs_of_nonneg (by linarith)] at hmax
  obtain ⟨range, step, hrange, hstep, hpart⟩ :=
    exists_step s.min_pos.le s.min_le_max (by omega) s.intervals_lt
  -- no point is so far beyond the largest amount that it has no room
  have hroom : ∀ i ∈ List.range (s.sweepSteps.toNat - 1),
      Fits (i * step.toRat) 0 ∧ Fits (s.minOrderAmount.toRat + nearest (i * step.toRat)) 0 := by
    intro i hi
    obtain ⟨hproduct, hrounded⟩ := hpart.offset_le_add hwidth hword (List.mem_range.1 hi)
    have hproduct_nonneg := hpart.offset_nonneg i
    have hrounded_nonneg := nearest_nonneg hproduct_nonneg
    unfold Fits
    rw [abs_of_nonneg hproduct_nonneg, abs_of_nonneg (by linarith), pow_zero, mul_one, mul_one]
    constructor <;> linarith
  obtain ⟨points, hpoints⟩ := exists_gridPoints (fun i hi => (List.mem_range.1 hi).trans s.intervals_lt) hroom
  exact ⟨step, points, hpart, hpoints, sweepAmounts_of_gridPoints htwo hrange hstep hpoints⟩

/-- A sweep that has its amounts had room for them. -/
theorem Settings.exists_sweep_of_ok {s : Settings} {amounts : List Decimal} (h : s.sweep = .ok amounts) :
    ∃ step points, PartOf (s.maxOrderAmount.toRat - s.minOrderAmount.toRat) (s.sweepSteps.toNat - 1) step ∧
      gridPoints s.minOrderAmount step (List.range (s.sweepSteps.toNat - 1)) = .ok points ∧
      amounts = points ++ [s.maxOrderAmount] := by
  obtain ⟨step, points, hpart, hpoints, hsweep⟩ := s.exists_sweep
  rw [h] at hsweep
  split at hsweep
  · exact ⟨step, points, hpart, hpoints, Except.ok.inj hsweep⟩
  · cases hsweep

/-- A sweep has its amounts if it has room for them. -/
theorem Settings.exists_sweep_of_le {s : Settings} (hroom : s.sweepSteps.toNat ≤ 2 ^ 58) :
    ∃ amounts, s.sweep = .ok amounts := by
  obtain ⟨step, points, -, -, hsweep⟩ := s.exists_sweep
  rw [if_pos hroom] at hsweep
  exact ⟨_, hsweep⟩

/-- **The only fault of a sweep** is that its amounts have no room. -/
theorem Settings.sweep_eq_error {s : Settings} {f : Fault} :
    s.sweep = .error f ↔ f = .capacityOverflow ∧ 2 ^ 58 < s.sweepSteps.toNat := by
  obtain ⟨step, points, -, -, hsweep⟩ := s.exists_sweep
  rw [hsweep]
  split
  · next hroom => exact ⟨nofun, fun h => absurd h.2 (Nat.not_lt.2 hroom)⟩
  · next hroom => exact ⟨fun h => ⟨(Except.error.inj h).symm, Nat.not_le.1 hroom⟩, fun h => congrArg _ h.1.symm⟩

/-! ## The first amount -/

/-- The first point of a grid is its base, whatever digits the step has. -/
theorem exists_gridPoints_eq_cons {base step : Decimal} (hbase : 0 < base) {is : List Nat} {amounts : List Decimal}
    (h : gridPoints base step (0 :: is) = .ok amounts) : ∃ others, amounts = base :: others := by
  have hnonzero : base.isZero ≠ true := not_isZero_of_pos hbase
  obtain ⟨offset, hoffset, h⟩ := Outcome.bind_eq_ok.1 h
  obtain ⟨amount, hamount, h⟩ := Outcome.bind_eq_ok.1 h
  obtain ⟨others, -, h⟩ := Outcome.bind_eq_ok.1 h
  cases h
  cases (mul_of_isZero_left (a := Decimal.ofNat 0) (b := step) rfl).symm.trans hoffset
  cases (add_of_isZero_right (b := 0) hnonzero rfl).symm.trans hamount
  exact ⟨others, rfl⟩

/-- **A sweep begins with its smallest amount**, digit for digit. -/
theorem Settings.sweep_eq_ok {s : Settings} {amounts : List Decimal} (h : s.sweep = .ok amounts) :
    (∃ others, amounts = s.minOrderAmount :: others) ∧ ∀ a ∈ amounts, s.minOrderAmount ≤ a := by
  obtain ⟨step, points, hpart, hpoints, rfl⟩ := Settings.exists_sweep_of_ok h
  constructor
  · obtain ⟨n, hn⟩ : ∃ n, s.sweepSteps.toNat - 1 = n + 1 := ⟨s.sweepSteps.toNat - 2, by have := s.intervals.1; omega⟩
    rw [hn, List.range_succ_eq_map] at hpoints
    obtain ⟨others, rfl⟩ := exists_gridPoints_eq_cons s.min_pos hpoints
    exact ⟨others ++ [s.maxOrderAmount], rfl⟩
  · intro a ha
    rcases List.mem_append.1 ha with ha | ha
    · obtain ⟨i, -, hvalue⟩ := exists_of_mem_gridPoints s.intervals_lt hpoints ha
      rw [← toRat_le_toRat, hvalue]
      exact le_point hpart.nonneg
    · rw [List.mem_singleton.1 ha]
      exact s.min_le_max

/-- All amounts of a sweep are positive. -/
theorem Settings.pos_of_mem_sweep {s : Settings} {amounts : List Decimal} {a : Decimal} (h : s.sweep = .ok amounts)
    (ha : a ∈ amounts) : 0 < a :=
  s.min_pos.trans_le ((s.sweep_eq_ok h).2 a ha)

/-- A sweep has as many amounts as the settings ask for. -/
theorem Settings.length_sweep {s : Settings} {amounts : List Decimal} (h : s.sweep = .ok amounts) :
    amounts.length = s.sweepSteps.toNat := by
  obtain ⟨step, points, hpart, hpoints, rfl⟩ := Settings.exists_sweep_of_ok h
  have hlength := (gridPoints_pairwise s.intervals_lt hpart.nonneg hpoints).1
  have htwo := s.intervals.1
  rw [List.length_append, List.length_singleton, hlength]
  omega

/-! ## All amounts -/

/-- If the width allows for it, then no point of a sweep is above the largest amount. -/
theorem Settings.le_max_of_mem {s : Settings} {step a : Decimal} {points : List Decimal}
    (hpart : PartOf (s.maxOrderAmount.toRat - s.minOrderAmount.toRat) (s.sweepSteps.toNat - 1) step)
    (hpoints : gridPoints s.minOrderAmount step (List.range (s.sweepSteps.toNat - 1)) = .ok points)
    (hwide : s.minOrderAmount ≈ s.maxOrderAmount ∨
      ((s.sweepSteps.toNat - 1 : Nat) : Rat) ^ 2 ≤ (s.maxOrderAmount.toRat - s.minOrderAmount.toRat) * 10 ^ 28)
    (ha : a ∈ points) : a ≤ s.maxOrderAmount := by
  obtain ⟨i, hi, hvalue⟩ := exists_of_mem_gridPoints s.intervals_lt hpoints ha
  have hwidth : s.maxOrderAmount.toRat - s.minOrderAmount.toRat = 0 ∨
      ((s.sweepSteps.toNat - 1 : Nat) : Rat) ^ 2 * slack ≤ s.maxOrderAmount.toRat - s.minOrderAmount.toRat := by
    rcases hwide with hsame | hwide
    · exact Or.inl (sub_eq_zero.2 (toRat_inj.2 hsame).symm)
    · unfold slack
      rw [mul_one_div, div_le_iff₀ (ten_pow_pos _)]
      exact Or.inr hwide
  have hoffset := hpart.offset_le_width s.width_nonneg s.intervals.2 hi hwidth
  rw [← toRat_le_toRat, hvalue]
  exact nearest_le_toRat (by linarith)

/-- **The amounts of a sweep.** If there are no more than a list has room for, then there are as many as the settings ask
for, from the smallest one to the largest one, digit for digit. None is below the smallest one, and all but the last are in
order. If the two amounts are equal, or their distance is at least as many last places as the square of the number of
intervals, then none is above the largest one either, so all of them are in order. If there are more, then the sweep fails
for this reason. -/
theorem Settings.sweep_spaced (s : Settings) :
    (s.sweepSteps.toNat ≤ 2 ^ 58 →
      ∃ amounts, sweepAmounts s.minOrderAmount s.maxOrderAmount s.sweepSteps.toNat = .ok amounts ∧
        amounts.length = s.sweepSteps.toNat ∧ amounts.head? = some s.minOrderAmount ∧
        amounts.getLast? = some s.maxOrderAmount ∧ (∀ a ∈ amounts, s.minOrderAmount ≤ a) ∧
        amounts.dropLast.Pairwise (· ≤ ·) ∧
        (s.minOrderAmount ≈ s.maxOrderAmount ∨
            ((s.sweepSteps.toNat - 1 : Nat) : Rat) ^ 2 ≤ (s.maxOrderAmount.toRat - s.minOrderAmount.toRat) * 10 ^ 28 →
          (∀ a ∈ amounts, a ≤ s.maxOrderAmount) ∧ amounts.Pairwise (· ≤ ·))) ∧
    (2 ^ 58 < s.sweepSteps.toNat →
      sweepAmounts s.minOrderAmount s.maxOrderAmount s.sweepSteps.toNat = .error .capacityOverflow) := by
  refine ⟨fun hroom => ?_, fun hmany => Settings.sweep_eq_error.2 ⟨rfl, hmany⟩⟩
  obtain ⟨amounts, hsweep⟩ := Settings.exists_sweep_of_le hroom
  obtain ⟨step, points, hpart, hpoints, rfl⟩ := Settings.exists_sweep_of_ok hsweep
  obtain ⟨⟨others, hfirst⟩, hmin⟩ := s.sweep_eq_ok hsweep
  have hsorted := (gridPoints_pairwise s.intervals_lt hpart.nonneg hpoints).2
  refine ⟨_, hsweep, Settings.length_sweep hsweep, by rw [hfirst]; rfl, List.getLast?_concat, hmin,
    by rwa [List.dropLast_concat], fun hwide => ?_⟩
  have hbelow : ∀ a ∈ points, a ≤ s.maxOrderAmount := fun a ha => s.le_max_of_mem hpart hpoints hwide ha
  constructor
  · intro a ha
    rcases List.mem_append.1 ha with ha | ha
    · exact hbelow a ha
    · exact (List.mem_singleton.1 ha).le
  · refine List.pairwise_append.2 ⟨hsorted, List.pairwise_singleton _ _, fun a ha b hb => ?_⟩
    rw [List.mem_singleton.1 hb]
    exact hbelow a ha

/-- The settings of `threeAmounts` with more steps than a list has room for. -/
def endlessSteps : Settings := { threeAmounts with sweepSteps := 576460752303423489, two_le_steps := by decide }

/-- The amounts of `threeAmounts` are equally far from each other, and those of `endlessSteps` have no room. -/
theorem sweep_spaced_threeAmounts :
    (∃ amounts, sweepAmounts 1 2 3 = .ok amounts ∧ amounts.length = 3 ∧ amounts.Pairwise (· ≤ ·)) ∧
      sweepAmounts 1 2 576460752303423489 = .error .capacityOverflow := by
  obtain ⟨amounts, hsweep, hlength, -, -, -, -, hwide⟩ := threeAmounts.sweep_spaced.1 (by decide)
  have hapart : ((threeAmounts.sweepSteps.toNat - 1 : Nat) : Rat) ^ 2
      ≤ (threeAmounts.maxOrderAmount.toRat - threeAmounts.minOrderAmount.toRat) * 10 ^ 28 := by decide +kernel
  exact ⟨⟨amounts, hsweep, hlength, (hwide (Or.inr hapart)).2⟩, endlessSteps.sweep_spaced.2 (by decide)⟩

/-- **There are settings whose amounts have no room**, however much memory there is. -/
theorem not_every_sweep_fits :
    ¬ ∀ s : Settings, ∃ amounts, sweepAmounts s.minOrderAmount s.maxOrderAmount s.sweepSteps.toNat = .ok amounts := by
  intro h
  obtain ⟨amounts, hamounts⟩ := h endlessSteps
  have hfault : sweepAmounts endlessSteps.minOrderAmount endlessSteps.maxOrderAmount endlessSteps.sweepSteps.toNat
      = .error .capacityOverflow := by decide +kernel
  cases hfault.symm.trans hamounts

-- seven intervals in eleven last places: the step is rounded to two of them, so the amount before the last is above it
example : sweepAmounts 1 1.0000000000000000000000000011 8
    = .ok [1, 1.0000000000000000000000000002, 1.0000000000000000000000000004, 1.0000000000000000000000000006,
      1.0000000000000000000000000008, 1.0000000000000000000000000010, 1.0000000000000000000000000012,
      1.0000000000000000000000000011] := by
  decide +kernel

/-- A bound of the largest amount bounds all amounts, up to a factor. -/
theorem Settings.sweep_bounded {s : Settings} {amounts : List Decimal} {x : Decimal} {a : Nat}
    (h : s.sweep = .ok amounts) (hmax : s.maxOrderAmount.toRat ≤ 10 ^ a) (hx : x ∈ amounts) : x.toRat ≤ 3 * 10 ^ a := by
  obtain ⟨step, points, hpart, hpoints, rfl⟩ := Settings.exists_sweep_of_ok h
  have hone : (1 : Rat) ≤ 10 ^ a := one_le_pow₀ (by norm_num)
  have hmin := toRat_pos.2 s.min_pos
  rcases List.mem_append.1 hx with hx | hx
  · obtain ⟨i, hi, hvalue⟩ := exists_of_mem_gridPoints s.intervals_lt hpoints hx
    have hoffset := (hpart.offset_le_add s.width_nonneg s.intervals.2 hi).2
    have hoffset_nonneg := nearest_nonneg (hpart.offset_nonneg i)
    rw [hvalue]
    calc point s.minOrderAmount step i
        ≤ 2 * (s.minOrderAmount.toRat + nearest (i * step.toRat)) := nearest_le_two_mul (by linarith)
      _ ≤ 3 * 10 ^ a := by linarith
  · rw [List.mem_singleton.1 hx]
    linarith

end TwoVenue
