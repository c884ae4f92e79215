import TwoVenue.Proofs.Decimal.Quotient
import TwoVenue.Proofs.Sequence

/-!
# Where arithmetic has a result

Products and quotients have a result, like sums, as soon as the exact one rounds to 96 bits on the grid of the integers.
For quotients this says that long division gives up only where it has to: each of its ways to end without a result has
found too many digits before the point.

- `Quotient.Of.not_fits`: the reason why every dead end of a division is one.
- `Quotient.extend_isSome`: **a division whose result fits ends with digits that fit**.
- `mul_defined`, `div_defined`: products and quotients in range.
- `Fault.tooLarge`: the faults of numbers that are too large. `add_avoids`, `sub_avoids`, `mul_avoids`, `div_avoids`: **no
  operation has another one**, as long as no divisor is zero.
- `nearest_natCast`, `abs_nearest_le`: an integer of 96 bits bounds a rounded value as it bounds the exact one.
- `add_bounded`, `sub_bounded`, `mul_bounded`, `div_bounded`: results with such a bound.
-/

namespace TwoVenue

/-- Whether a fault is that of a number that is too large, be it for a decimal or for a text. -/
def Fault.tooLarge : Fault → Bool
  | .additionOverflow | .subtractionOverflow | .multiplicationOverflow | .divisionOverflow | .textOverflow => true
  | .divisionByZero | .capacityOverflow => false

namespace Decimal

/-! ## Products -/

theorem mul_defined {a b : Decimal} (h : Fits (a.toRat * b.toRat) 0) : ∃ c, a.mul b = .ok c := by
  have hfits : Fits (((a.mantissa * b.mantissa : Nat) : Rat) / 10 ^ (a.scale + b.scale)) 0 := by
    have habs := congrArg abs (product_value a b)
    rw [abs_mul, show |sign _| = 1 by unfold sign; split <;> simp, one_mul] at habs
    unfold Fits at h ⊢
    rwa [habs]
  obtain ⟨c, hc⟩ := fit?_isSome (a.negative != b.negative) hfits
  unfold Decimal.mul
  split
  · exact ⟨_, rfl⟩
  · exact ⟨c, orFault_eq_ok.2 hc⟩

/-! ## Long division -/

namespace Quotient

variable {divisor : Nat} {x : Rat} {q : Quotient}

/-- One digit more than there is room for is one too many for the scale or for the mantissa. -/
theorem full_of_room_lt (digits : Nat) (scale : Int) :
    ∀ n, room digits scale n < n →
      28 < scale + (room digits scale n + 1) ∨ limit ≤ digits * tenPow (room digits scale n + 1)
  | 0, h => absurd h (Nat.not_lt_zero _)
  | n + 1, h => by
    unfold room at h ⊢
    split at h
    · exact absurd h (Nat.lt_irrefl _)
    · next hc =>
      rw [if_neg hc]
      rcases (room_le digits scale n).lt_or_eq with hlt | heq
      · exact full_of_room_lt digits scale n hlt
      · rw [heq]
        rw [not_and_or, Int.not_le, Nat.not_lt] at hc
        exact hc

/-- Digits that would outgrow the limit before the point is reached belong to a value that has no rounding. -/
theorem not_fits (hv : x * 10 ^ q.scale = q.digits + q.rest / divisor) (hd : (0 : Rat) < divisor) (p : Nat)
    (hscale : q.scale + p ≤ 0) (hlim : limit ≤ q.digits * tenPow p) : ¬ Fits x 0 := by
  have hrest : (0 : Rat) ≤ q.rest / divisor := by positivity
  have hx : 0 ≤ x := by
    have hpow : (0 : Rat) < 10 ^ q.scale := by positivity
    refine nonneg_of_mul_nonneg_left ?_ hpow
    rw [hv]
    positivity
  have hdigits : (q.digits : Rat) * 10 ^ p ≤ x := by
    have hcoarse : x * 10 ^ q.scale ≤ x * 10 ^ (-(p : Int)) :=
      mul_le_mul_of_nonneg_left (zpow_le_zpow_right₀ (by norm_num) (by omega)) hx
    rw [hv, zpow_neg, zpow_natCast, ← div_eq_mul_inv, le_div_iff₀ (ten_pow_pos p)] at hcoarse
    nlinarith [ten_pow_pos p]
  have hlim' : (limit : Rat) ≤ q.digits * 10 ^ p := by
    rw [← tenPow_cast]
    exact_mod_cast hlim
  intro hfits
  unfold Fits at hfits
  rw [abs_of_nonneg hx, pow_zero, mul_one] at hfits
  linarith

theorem carried_lt : carried < limit := by decide

theorem roundOff_isSome (h : Of divisor x q) (hs : 0 ≤ q.scale) (hfits : Fits x 0) :
    ∃ m s, roundOff divisor q = some (m, s) ∧ m < limit ∧ s ≤ 28 := by
  have hround := roundEven_digits q.digits h.rest_lt
  rw [← h.value_toNat hs] at hround
  have hscale := h.scale_le
  unfold roundOff
  dsimp only
  generalize (if divisor < 2 * q.rest || (2 * q.rest == divisor && q.digits % 2 == 1)
    then q.digits + 1 else q.digits) = rounded at hround ⊢
  by_cases hlt : rounded < limit
  · rw [if_pos hlt]
    exact ⟨_, _, rfl, hlt, by omega⟩
  rw [if_neg hlt]
  by_cases hpos : 0 < q.scale
  · rw [if_pos hpos]
    exact ⟨_, _, rfl, carried_lt, by omega⟩
  · -- without a place after the point the value itself rounds to the limit
    exfalso
    have hzero : q.scale.toNat = 0 := by omega
    unfold Fits at hfits
    rw [abs_of_nonneg h.nonneg] at hfits
    rw [hzero] at hround
    have hle : roundEven (x * 10 ^ 0) ≤ (limit : Int) - 1 := roundEven_le (by push_cast; linarith)
    rw [hround] at hle
    omega

theorem dropLast_isSome (hpos : 0 < q.scale) (hs : q.scale ≤ 28) (hle : q.digits < limit + 10 ^ 9) :
    ∃ m s, dropLast q = some (m, s) ∧ m < limit ∧ s ≤ 28 := by
  unfold dropLast
  rw [if_pos hpos]
  refine ⟨_, _, rfl, ?_, by omega⟩
  have hten : q.digits / 10 + 1 < limit := by
    unfold limit at hle ⊢
    omega
  split <;> omega

/-- **A division whose exact result fits has a result that fits**, in every case in which it can end. -/
theorem extend_isSome (inexact : Bool) (h : Of divisor x q) (hfits : Fits x 0) :
    ∃ m s i, extend divisor q inexact = some (m, s, i) ∧ m < limit ∧ s ≤ 28 := by
  induction q, inexact using extend.induct divisor with
  | case1 q inexact hrest hs =>
    rw [extend, if_pos hrest, dif_pos hs]
    exact ⟨_, _, _, rfl, h.digits_lt, h.scale_toNat_le⟩
  | case2 q inexact hrest hs p hlim =>
    -- the zeros that are missing before the point do not fit
    refine absurd hfits (not_fits h.value h.divisor_pos p ?_ hlim)
    have : p ≤ (-q.scale).toNat := Nat.min_le_right ..
    omega
  | case3 q inexact hrest hs p hlim ih =>
    rw [extend, if_pos hrest, dif_neg hs]
    simp only [p] at hlim ih
    rw [if_neg hlim]
    refine ih (h.append _ ?_ ?_)
    · show q.digits * tenPow _ + q.rest * tenPow _ / divisor < limit
      rw [hrest, Nat.zero_mul, Nat.zero_div, Nat.add_zero]
      exact Nat.not_le.1 hlim
    · omega
  | case4 q inexact hrest p hnone =>
    -- the place that there is no room for is one before the point
    obtain ⟨hlt, hscale⟩ := hnone
    rcases full_of_room_lt q.digits q.scale 9 hlt with hfull | hfull
    · omega
    · exact absurd hfits (not_fits h.value h.divisor_pos (p + 1) (by push_cast; omega) hfull)
  | case5 q inexact hrest p hsome hp =>
    have hs : 0 ≤ q.scale := by omega
    obtain ⟨m, s, hround, hm, hs'⟩ := roundOff_isSome h hs hfits
    rw [extend, if_neg hrest]
    simp only [p] at hp
    exact ⟨m, s, true, by simp [hs, hp, hround], hm, hs'⟩
  | case6 q inexact hrest p hsome hp next hlt ih =>
    obtain ⟨m, s, i, hr, hm, hs⟩ := ih (h.append p hlt (scale_add_room _ _ _ hp))
    rw [extend, if_neg hrest]
    simp only [p, next] at hsome hp hlt hr
    exact ⟨m, s, i, by simp [hsome, hp, hlt, hr], hm, hs⟩
  | case7 q inexact hrest p hsome hp next hge =>
    have hvalue : x * 10 ^ next.scale = next.digits + next.rest / divisor := value_append h.value h.divisor_pos p
    have hpos : 0 < next.scale := by
      by_contra hle
      refine not_fits hvalue h.divisor_pos 0 (by push_cast; omega) ?_ hfits
      simpa [tenPow] using hge
    obtain ⟨m, s, hlast, hm, hs⟩ := dropLast_isSome hpos (scale_add_room _ _ _ hp) (append_digits_lt h.rest_lt hp)
    rw [extend, if_neg hrest]
    simp only [p, next] at hsome hp hge hlast
    exact ⟨m, s, true, by simp [hsome, hp, hge, hlast], hm, hs⟩

/-! ## Final zeros -/

theorem dropZeros_le (zeros : Nat) (q : Nat × Nat) : (dropZeros zeros q).1 ≤ q.1 ∧ (dropZeros zeros q).2 ≤ q.2 := by
  unfold dropZeros
  split
  · exact ⟨Nat.div_le_self .., Nat.sub_le ..⟩
  · exact ⟨le_rfl, le_rfl⟩

theorem dropEights_le (digits scale : Nat) :
    (dropEights digits scale).1 ≤ digits ∧ (dropEights digits scale).2 ≤ scale := by
  induction digits, scale using dropEights.induct with
  | case1 digits scale h ih =>
    rw [dropEights, dif_pos h]
    exact ⟨ih.1.trans (Nat.div_le_self ..), ih.2.trans (Nat.sub_le ..)⟩
  | case2 digits scale h =>
    rw [dropEights, dif_neg h]
    exact ⟨le_rfl, le_rfl⟩

theorem trim_le (digits scale : Nat) : (trim digits scale).1 ≤ digits ∧ (trim digits scale).2 ≤ scale := by
  have h8 := dropEights_le digits scale
  have h4 := dropZeros_le 4 (dropEights digits scale)
  have h2 := dropZeros_le 2 (dropZeros 4 (dropEights digits scale))
  have h1 := dropZeros_le 1 (dropZeros 2 (dropZeros 4 (dropEights digits scale)))
  exact ⟨h1.1.trans (h2.1.trans (h4.1.trans h8.1)), h1.2.trans (h2.2.trans (h4.2.trans h8.2))⟩

end Quotient

/-! ## Quotients -/

theorem ofParts?_isSome (negative : Bool) {m s : Nat} (hm : m < limit) (hs : s ≤ 28) :
    ∃ d, ofParts? negative m s = some d := by
  unfold ofParts?
  rw [dif_pos ⟨hm, hs⟩]
  exact ⟨_, rfl⟩

theorem div_defined {a b : Decimal} (hb : b.toRat ≠ 0) (h : Fits (a.toRat / b.toRat) 0) : ∃ c, a.div b = .ok c := by
  have hzero : b.isZero ≠ true := fun hz => hb (toRat_eq_zero.2 hz)
  unfold Decimal.div
  rw [if_neg hzero]
  split
  · exact ⟨_, rfl⟩
  · have hfits : Fits (|a.toRat| / |b.toRat|) 0 := by
      unfold Fits at h ⊢
      rwa [← abs_div, abs_abs]
    obtain ⟨m, s, inexact, hext, hm, hs⟩ := Quotient.extend_isSome false (start_of a b hzero) hfits
    dsimp only
    rw [hext]
    cases inexact with
    | false =>
      obtain ⟨d, hd⟩ := ofParts?_isSome ((a.negative != b.negative) && m != 0) hm hs
      exact ⟨d, orFault_eq_ok.2 hd⟩
    | true =>
      obtain ⟨hm', hs'⟩ := Quotient.trim_le m s
      obtain ⟨d, hd⟩ := ofParts?_isSome ((a.negative != b.negative) && (Quotient.trim m s).1 != 0)
        (hm'.trans_lt hm) (hs'.trans hs)
      exact ⟨d, orFault_eq_ok.2 hd⟩

/-! ## Faults -/

section Faults

variable {f : Fault}

theorem orFault_avoids {fault : Fault} (hfault : fault.tooLarge = true) (hf : f.tooLarge = false) (x : Option Decimal) :
    Avoids f (orFault fault x) := by
  cases x with
  | some d => exact .ok f d
  | none =>
    refine .of_ne ?_
    rintro rfl
    cases hf.symm.trans hfault

theorem add_avoids (hf : f.tooLarge = false) (a b : Decimal) : Avoids f (a.add b) := by
  unfold Decimal.add
  split
  · exact .ok _ b
  · split
    · exact .ok _ a
    · exact orFault_avoids rfl hf _

theorem sub_avoids (hf : f.tooLarge = false) (a b : Decimal) : Avoids f (a.sub b) := by
  unfold Decimal.sub
  split
  · exact .ok _ _
  · split
    · exact .ok _ a
    · exact orFault_avoids rfl hf _

theorem mul_avoids (hf : f.tooLarge = false) (a b : Decimal) : Avoids f (a.mul b) := by
  unfold Decimal.mul
  split
  · exact .ok _ 0
  · exact orFault_avoids rfl hf _

theorem div_avoids (hf : f.tooLarge = false) (a : Decimal) {b : Decimal} (hb : b.toRat ≠ 0) : Avoids f (a.div b) := by
  unfold Decimal.div
  rw [if_neg fun hz => hb (toRat_eq_zero.2 hz)]
  split
  · exact .ok _ 0
  · exact orFault_avoids rfl hf _

end Faults

/-! ## Bounds -/

section Bounds

variable {x : Rat} {n : Nat} {a b : Decimal}

theorem ten_pow_le {m n : Nat} (h : m ≤ n) : (10 : Rat) ^ m ≤ 10 ^ n := pow_le_pow_right₀ (by norm_num) h

/-- Below `10 ^ 29` there is room for seven times a power of ten. -/
theorem ten_pow_lt_limit {n : Nat} (h : n ≤ 28) : 7 * 10 ^ n < limit :=
  lt_of_le_of_lt (Nat.mul_le_mul_left 7 (Nat.pow_le_pow_right (by decide) h)) (by decide)

theorem fits_of_abs_le (hn : n < limit) (h : |x| ≤ n) : Fits x 0 := by
  have hlt : (n : Rat) + 1 ≤ limit := by exact_mod_cast hn
  unfold Fits
  rw [pow_zero, mul_one]
  linarith

/-- Integers of 96 bits are not changed. -/
theorem nearest_natCast (hn : n < limit) : nearest n = n := by
  refine nearest_eq_self (s := 0) (n := n) (Nat.zero_le _) (fits_of_abs_le hn ?_) ?_
  · rw [abs_of_nonneg (Nat.cast_nonneg n)]
  · rw [pow_zero, mul_one]
    rfl

theorem abs_nearest (x : Rat) : |nearest x| = nearest |x| := by
  rcases le_total 0 x with hx | hx
  · rw [abs_of_nonneg hx, abs_of_nonneg (nearest_nonneg hx)]
  · rw [abs_of_nonpos hx, abs_of_nonpos (nearest_nonpos hx), nearest_neg]

theorem abs_nearest_le (hn : n < limit) (h : |x| ≤ n) : |nearest x| ≤ n := by
  rw [abs_nearest, ← nearest_natCast hn]
  exact nearest_mono h

theorem add_bounded (hn : n < limit) (h : |a.toRat + b.toRat| ≤ n) : ∃ c, a.add b = .ok c ∧ |c.toRat| ≤ n := by
  obtain ⟨c, hc⟩ := add_defined (fits_of_abs_le hn h)
  exact ⟨c, hc, by rw [add_toRat hc]; exact abs_nearest_le hn h⟩

theorem sub_bounded (hn : n < limit) (h : |a.toRat - b.toRat| ≤ n) : ∃ c, a.sub b = .ok c ∧ |c.toRat| ≤ n := by
  obtain ⟨c, hc⟩ := sub_defined (fits_of_abs_le hn h)
  exact ⟨c, hc, by rw [sub_toRat hc]; exact abs_nearest_le hn h⟩

theorem mul_bounded (hn : n < limit) (h : |a.toRat * b.toRat| ≤ n) : ∃ c, a.mul b = .ok c ∧ |c.toRat| ≤ n := by
  obtain ⟨c, hc⟩ := mul_defined (fits_of_abs_le hn h)
  exact ⟨c, hc, by rw [mul_toRat hc]; exact abs_nearest_le hn h⟩

theorem div_bounded (hb : b.toRat ≠ 0) (hn : n < limit) (h : |a.toRat / b.toRat| ≤ n) :
    ∃ c, a.div b = .ok c ∧ |c.toRat| ≤ n := by
  obtain ⟨c, hc⟩ := div_defined hb (fits_of_abs_le hn h)
  exact ⟨c, hc, by rw [div_toRat hc]; exact abs_nearest_le hn h⟩

end Bounds

end Decimal

end TwoVenue
