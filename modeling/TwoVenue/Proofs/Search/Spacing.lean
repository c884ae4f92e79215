import TwoVenue.Proofs.Decimal.Grid
import TwoVenue.Search.Sweep

/-!
# The spacing of a sweep

The step of a sweep is a rounded part of a rounded width, and every point has the error of the step as often as its
number says. The last interval is left out, and it is wider than all these errors together, unless the width is only a
few last places.

- `point`: the value of a point of a grid. `gridPoints_toRat`: **the points of a grid have these values**, and
  `exists_gridPoints`: they are there as long as they have room.
- `PartOf`: a step that is a part of a width, up to two roundings. `exists_step`: **every sweep has such a step**.
- `PartOf.grown_le`: **how far the points before the last interval can reach**. `PartOf.offset_le_width`: when they stay
  within the width.
-/

namespace TwoVenue

open Decimal

/-! ## The points of a grid -/

/-- The value of a point: product and sum are rounded. -/
def point (base step : Decimal) (i : Nat) : Rat := nearest (base.toRat + nearest (i * step.toRat))

section Points

variable {base step : Decimal} {i j : Nat}

theorem le_point (hstep : 0 ≤ step) : base.toRat ≤ point base step i := by
  have hoffset : 0 ≤ nearest (i * step.toRat) := nearest_nonneg (mul_nonneg i.cast_nonneg (toRat_nonneg.2 hstep))
  exact toRat_le_nearest (le_add_of_nonneg_right hoffset)

theorem point_mono (hstep : 0 ≤ step) (hij : i ≤ j) : point base step i ≤ point base step j := by
  have hstep := toRat_nonneg.2 hstep
  have hij : (i : Rat) ≤ j := by exact_mod_cast hij
  have hoffset : nearest (i * step.toRat) ≤ nearest (j * step.toRat) :=
    nearest_mono (mul_le_mul_of_nonneg_right hij hstep)
  exact nearest_mono (add_le_add_right hoffset _)

/-- **The points of a grid have their values.** -/
theorem gridPoints_toRat {is : List Nat} (his : ∀ i ∈ is, i < limit) :
    ∀ {amounts}, gridPoints base step is = .ok amounts → amounts.map toRat = is.map (point base step) := by
  induction is with
  | nil =>
    rintro amounts ⟨⟩
    rfl
  | cons i rest ih =>
    intro amounts h
    obtain ⟨offset, hoffset, h⟩ := Outcome.bind_eq_ok.1 h
    obtain ⟨amount, hamount, h⟩ := Outcome.bind_eq_ok.1 h
    obtain ⟨others, hothers, h⟩ := Outcome.bind_eq_ok.1 h
    cases h
    have hvalue : amount.toRat = point base step i := by
      rw [add_toRat hamount, mul_toRat hoffset, toRat_ofNat (his i List.mem_cons_self), point]
    rw [List.map_cons, List.map_cons, hvalue, ih (fun j hj => his j (List.mem_cons_of_mem i hj)) hothers]

/-- Every point of a grid has the value of its number. -/
theorem exists_of_mem_gridPoints {n : Nat} {amounts : List Decimal} {a : Decimal} (hn : n < limit)
    (h : gridPoints base step (List.range n) = .ok amounts) (ha : a ∈ amounts) : ∃ i < n, a.toRat = point base step i := by
  have hvalue : a.toRat ∈ (List.range n).map (point base step) := by
    rw [← gridPoints_toRat (fun i hi => (List.mem_range.1 hi).trans hn) h]
    exact List.mem_map_of_mem ha
  obtain ⟨i, hi, hvalue⟩ := List.mem_map.1 hvalue
  exact ⟨i, List.mem_range.1 hi, hvalue.symm⟩

/-- The points of a grid are in order. -/
theorem gridPoints_pairwise {n : Nat} {amounts : List Decimal} (hn : n < limit) (hstep : 0 ≤ step)
    (h : gridPoints base step (List.range n) = .ok amounts) : amounts.length = n ∧ amounts.Pairwise (· ≤ ·) := by
  have hvalues := gridPoints_toRat (fun i hi => (List.mem_range.1 hi).trans hn) h
  constructor
  · simpa using congrArg List.length hvalues
  · have hmono : (amounts.map toRat).Pairwise (· ≤ ·) := by
      rw [hvalues, List.pairwise_map]
      exact List.pairwise_lt_range.imp fun hij => point_mono hstep hij.le
    exact (List.pairwise_map.1 hmono).imp toRat_le_toRat.1

/-- A grid has all its points if the products and the sums have room. -/
theorem exists_gridPoints {is : List Nat} (his : ∀ i ∈ is, i < limit)
    (hroom : ∀ i ∈ is, Fits (i * step.toRat) 0 ∧ Fits (base.toRat + nearest (i * step.toRat)) 0) :
    ∃ amounts, gridPoints base step is = .ok amounts := by
  induction is with
  | nil => exact ⟨[], rfl⟩
  | cons i rest ih =>
    obtain ⟨hproduct, hsum⟩ := hroom i List.mem_cons_self
    have hvalue : (Decimal.ofNat i).toRat = i := toRat_ofNat (his i List.mem_cons_self)
    obtain ⟨offset, hoffset⟩ := mul_defined (a := Decimal.ofNat i) (b := step) (by rwa [hvalue])
    obtain ⟨amount, hamount⟩ := add_defined (a := base) (b := offset) (by rwa [mul_toRat hoffset, hvalue])
    obtain ⟨others, hothers⟩ :=
      ih (fun j hj => his j (List.mem_cons_of_mem i hj)) fun j hj => hroom j (List.mem_cons_of_mem i hj)
    exact ⟨amount :: others, Outcome.bind_eq_ok.2 ⟨offset, hoffset, Outcome.bind_eq_ok.2 ⟨amount, hamount,
      Outcome.bind_eq_ok.2 ⟨others, hothers, rfl⟩⟩⟩⟩

end Points

/-! ## The step -/

/-- A step that is the `n`th part of a width, up to the roundings of the width and of the quotient. -/
structure PartOf (width : Rat) (n : Nat) (step : Decimal) : Prop where
  nonneg : 0 ≤ step
  le : step.toRat ≤ (1 + slack) ^ 2 * (width / n) + slack / 2
  eq_zero : width = 0 → step.toRat = 0

/-- **Every sweep has a step.** -/
theorem exists_step {min max : Decimal} {n : Nat} (hmin : 0 ≤ min) (hle : min ≤ max) (hn : 0 < n) (hlimit : n < limit) :
    ∃ range step, max.sub min = .ok range ∧ range.div (Decimal.ofNat n) = .ok step ∧
      PartOf (max.toRat - min.toRat) n step := by
  have hvalue : (Decimal.ofNat n).toRat = n := toRat_ofNat hlimit
  have hn : (1 : Rat) ≤ n := by exact_mod_cast hn
  obtain ⟨range, hrange, hrange_nonneg, -, hrange_le⟩ := sub_of_le hmin hle
  have hrange_nonneg := toRat_nonneg.2 hrange_nonneg
  have hpart : 0 ≤ range.toRat / n := by positivity
  have hfits : Fits (range.toRat / (Decimal.ofNat n).toRat) 0 := by
    refine (fits_toRat range).of_le (Nat.zero_le _) ?_
    rw [hvalue, abs_of_nonneg hpart, abs_of_nonneg hrange_nonneg]
    exact div_le_self hrange_nonneg hn
  obtain ⟨step, hstep⟩ := div_defined (by rw [hvalue]; positivity) hfits
  have hstep_value : step.toRat = nearest (range.toRat / n) := by rw [div_toRat hstep, hvalue]
  refine ⟨range, step, hrange, hstep, ?_, ?_, ?_⟩
  · rw [← toRat_nonneg, hstep_value]
    exact nearest_nonneg hpart
  · have hslack := slack_pos
    calc step.toRat = nearest (range.toRat / n) := hstep_value
      _ ≤ (1 + slack) * (range.toRat / n) + slack / 2 := nearest_le_add hpart
      _ ≤ (1 + slack) * ((1 + slack) * (max.toRat - min.toRat) / n) + slack / 2 := by gcongr
      _ = (1 + slack) ^ 2 * ((max.toRat - min.toRat) / n) + slack / 2 := by ring
  · intro hwidth
    rw [hwidth, mul_zero] at hrange_le
    rw [hstep_value, le_antisymm hrange_le hrange_nonneg, zero_div, nearest_zero]

namespace PartOf

variable {width : Rat} {n i : Nat} {step : Decimal}

/-- **How far a point before the last interval can be**, also when it is rounded: three quarters of that interval are
left, up to half a last place for every interval. -/
theorem grown_le (h : PartOf width n step) (hwidth : 0 ≤ width) (hn : n < 2 ^ 64) (hi : i < n) :
    (1 + slack) * (i * step.toRat) ≤ width - 3 / 4 * (width / n) + n * slack / 2 := by
  have hslack := slack_pos
  have hmany := slack_mul_le hn.le
  have hgrowth : (1 + slack) ^ 3 ≤ 1 + 4 * slack := by
    unfold slack
    norm_num [maxScale]
  have hi' : (i : Rat) ≤ n - 1 := by
    rw [le_sub_iff_add_le]
    exact_mod_cast hi
  have hn' : (0 : Rat) ≤ n - 1 := i.cast_nonneg.trans hi'
  have hn_pos : (0 : Rat) < n := by linarith
  -- the width of one interval, of which there are `n`
  obtain ⟨d, hd⟩ : ∃ d, width / n = d := ⟨_, rfl⟩
  have hd_nonneg : 0 ≤ d := by
    rw [← hd]
    positivity
  have hwidth_eq : width = n * d := by
    rw [← hd, mul_div_cancel₀ _ hn_pos.ne']
  have hle := h.le
  rw [hd] at hle ⊢
  calc (1 + slack) * (i * step.toRat) ≤ (1 + slack) * ((n - 1) * ((1 + slack) ^ 2 * d + slack / 2)) := by
        have hstep := toRat_nonneg.2 h.nonneg
        gcongr
    _ = (1 + slack) ^ 3 * ((n - 1) * d) + (n - 1 + (n * slack - slack)) * (slack / 2) := by ring
    _ ≤ (1 + 4 * slack) * ((n - 1) * d) + n * (slack / 2) := by
        gcongr
        linarith
    _ = (n - 1) * d + 4 * (n * slack - slack) * d + n * (slack / 2) := by ring
    _ ≤ (n - 1) * d + 1 / 4 * d + n * (slack / 2) := by
        gcongr
        linarith
    _ = width - 3 / 4 * d + n * slack / 2 := by
        rw [hwidth_eq]
        ring

theorem offset_nonneg (h : PartOf width n step) (i : Nat) : 0 ≤ i * step.toRat :=
  mul_nonneg i.cast_nonneg (toRat_nonneg.2 h.nonneg)

theorem offset_le (h : PartOf width n step) (hwidth : 0 ≤ width) (hn : n < 2 ^ 64) (hi : i < n) :
    nearest (i * step.toRat) ≤ width - 3 / 4 * (width / n) + n * slack / 2 := by
  have hgrid : OnGrid maxScale (i * step.toRat) := OnGrid.mul (s := 0) ⟨i, by simp⟩ (onGrid_maxScale step)
  exact (nearest_le_of_onGrid (h.offset_nonneg i) hgrid).trans (h.grown_le hwidth hn hi)

/-- No point is more than a small part of one beyond the width, neither before nor after it is rounded. -/
theorem offset_le_add (h : PartOf width n step) (hwidth : 0 ≤ width) (hn : n < 2 ^ 64) (hi : i < n) :
    i * step.toRat ≤ width + 1 / 4 ∧ nearest (i * step.toRat) ≤ width + 1 / 4 := by
  have hmany := slack_mul_le hn.le
  have hpart : 0 ≤ width / n := by positivity
  have hgrow : 0 ≤ slack * (i * step.toRat) := mul_nonneg slack_pos.le (h.offset_nonneg i)
  constructor
  · linarith [h.grown_le hwidth hn hi]
  · linarith [h.offset_le hwidth hn hi]

/-- **All points are within a width that is not too narrow** for the number of its intervals. -/
theorem offset_le_width (h : PartOf width n step) (hwidth : 0 ≤ width) (hn : n < 2 ^ 64) (hi : i < n)
    (hwide : width = 0 ∨ (n : Rat) ^ 2 * slack ≤ width) : nearest (i * step.toRat) ≤ width := by
  rcases hwide with hzero | hwide
  · rw [h.eq_zero hzero, mul_zero, nearest_zero, hzero]
  · have hn_pos : (0 : Rat) < n := by exact_mod_cast Nat.zero_lt_of_lt hi
    have hpart : n * slack ≤ width / n := by
      rw [le_div_iff₀ hn_pos]
      linarith
    have hnonneg : 0 ≤ width / n := by positivity
    linarith [h.offset_le hwidth hn hi]

end PartOf

end TwoVenue
