import TwoVenue.Decimal.Division
import TwoVenue.Proofs.Decimal.Operations

/-!
# Quotients are rounded exact values

Long division keeps a quotient and a remainder that together are the exact value on the grid reached so far. Wherever
it stops, the digits are the ones that rounding the exact value would have given.

- `Quotient.Of divisor x q`: the invariant: `q` is a division under way whose exact result is `x`.
- `Quotient.Of.append`: the next digits keep it.
- `Quotient.extend_toRat`: the division ends with the rounding of `x`.
- `div_toRat`: **the value of a quotient is `nearest` of the exact one**.
-/

namespace TwoVenue

namespace Decimal

namespace Quotient

/-- `q` is a division by `divisor` under way, whose exact result is `x`. -/
structure Of (divisor : Nat) (x : Rat) (q : Quotient) : Prop where
  value : x * 10 ^ q.scale = q.digits + q.rest / divisor
  rest_lt : q.rest < divisor
  digits_lt : q.digits < limit
  scale_le : q.scale ≤ 28

variable {divisor : Nat} {x : Rat} {q : Quotient}

theorem Of.divisor_pos (h : Of divisor x q) : (0 : Rat) < divisor := by
  exact_mod_cast Nat.lt_of_le_of_lt (Nat.zero_le _) h.rest_lt

theorem Of.nonneg (h : Of divisor x q) : 0 ≤ x := by
  have hpow : (0 : Rat) < 10 ^ q.scale := by positivity
  refine nonneg_of_mul_nonneg_left ?_ hpow
  rw [h.value]
  have := h.divisor_pos
  positivity

/-- The value on the grid reached so far, once no digit before the point is missing. -/
theorem Of.value_toNat (h : Of divisor x q) (hs : 0 ≤ q.scale) :
    x * 10 ^ q.scale.toNat = q.digits + q.rest / divisor := by
  rw [← h.value, ← zpow_natCast, Int.toNat_of_nonneg hs]

theorem value_append (hv : x * 10 ^ q.scale = q.digits + q.rest / divisor) (hd : (0 : Rat) < divisor) (p : Nat) :
    x * 10 ^ (q.append divisor p).scale = (q.append divisor p).digits + (q.append divisor p).rest / divisor := by
  have hsplit : ((q.rest * tenPow p : Nat) : Rat)
      = divisor * ((q.rest * tenPow p / divisor : Nat) : Rat) + ((q.rest * tenPow p % divisor : Nat) : Rat) := by
    exact_mod_cast (Nat.div_add_mod _ _).symm
  have hcast : ((q.rest * tenPow p : Nat) : Rat) = q.rest * 10 ^ p := by
    rw [Nat.cast_mul, tenPow_cast]
  show x * 10 ^ (q.scale + (p : Int))
    = ((q.digits * tenPow p + q.rest * tenPow p / divisor : Nat) : Rat)
      + ((q.rest * tenPow p % divisor : Nat) : Rat) / divisor
  rw [zpow_add₀ (by norm_num), ← mul_assoc, hv, zpow_natCast, Nat.cast_add, Nat.cast_mul, tenPow_cast]
  field_simp
  linarith

theorem Of.append (h : Of divisor x q) (p : Nat) (hlt : (q.append divisor p).digits < limit)
    (hs : q.scale + p ≤ 28) : Of divisor x (q.append divisor p) where
  value := value_append h.value h.divisor_pos p
  rest_lt := Nat.mod_lt _ (by have := h.rest_lt; omega)
  digits_lt := hlt
  scale_le := hs

/-! ## Where the division stops -/

/-- Without room for a single digit the grid is the finest one. -/
theorem full_of_room (digits : Nat) (scale : Int) :
    ∀ n, room digits scale (n + 1) = 0 → 28 < scale + 1 ∨ limit ≤ digits * 10
  | 0, h => by
    unfold room at h
    split at h
    · cases h
    · next hc =>
      rw [not_and_or, Nat.not_lt] at hc
      rcases hc with hc | hc
      · exact Or.inl (by push_cast at hc; omega)
      · exact Or.inr (by simpa [tenPow] using hc)
  | n + 1, h => by
    unfold room at h
    split at h
    · cases h
    · exact full_of_room digits scale n h

theorem digits_mul_room_lt (digits : Nat) (scale : Int) :
    ∀ n, room digits scale n ≠ 0 → digits * tenPow (room digits scale n) < limit
  | 0, h => absurd rfl h
  | n + 1, h => by
    unfold room at h ⊢
    split
    · next hc => exact hc.2
    · next hc =>
      rw [if_neg hc] at h
      exact digits_mul_room_lt digits scale n h

/-- The digits with the remainder rounded in are the rounded value of the grid. -/
theorem roundEven_digits (digits : Nat) {rest : Nat} (hr : rest < divisor) :
    roundEven ((digits : Rat) + (rest : Rat) / divisor)
      = ((if divisor < 2 * rest || (2 * rest == divisor && digits % 2 == 1) then digits + 1 else digits : Nat) : Int) := by
  have hd : 0 < divisor := by omega
  have hsum : (digits : Rat) + (rest : Rat) / divisor = ((digits * divisor + rest : Nat) : Rat) / divisor := by
    have : (divisor : Rat) ≠ 0 := by exact_mod_cast hd.ne'
    push_cast
    field_simp
  have hq : (digits * divisor + rest) / divisor = digits := by
    rw [Nat.mul_comm, Nat.mul_add_div hd, Nat.div_eq_of_lt hr, Nat.add_zero]
  have hm : (digits * divisor + rest) % divisor = rest := by
    rw [Nat.mul_comm, Nat.mul_add_mod, Nat.mod_eq_of_lt hr]
  rw [hsum, ← halfEven_eq _ hd]
  unfold halfEven
  rw [hq, hm]
  congr 1
  simp only [Bool.or_eq_true, Bool.and_eq_true, decide_eq_true_eq, beq_iff_eq]
  split <;> split <;> omega

theorem Of.scale_toNat_le (h : Of divisor x q) : q.scale.toNat ≤ maxScale := by
  have := h.scale_le
  show q.scale.toNat ≤ 28
  omega

/-- On the finest grid the rounded digits are the result, as long as there are not too many of them. -/
theorem Of.nearest_of_full (h : Of divisor x q) (hs : 0 ≤ q.scale) (hfull : 28 < q.scale + 1 ∨ limit ≤ q.digits * 10)
    {rounded : Nat} (hround : roundEven (x * 10 ^ q.scale.toNat) = (rounded : Int)) (hlt : rounded < limit) :
    (rounded : Rat) / 10 ^ q.scale.toNat = nearest x := by
  have hfits : Fits x q.scale.toNat := by
    unfold Fits
    rw [abs_of_nonneg h.nonneg]
    refine lt_of_roundEven_lt (n := limit) even_limit ?_
    rw [hround]
    exact_mod_cast hlt
  have hmax : q.scale.toNat = maxScale ∨ ¬ Fits x (q.scale.toNat + 1) := by
    rcases hfull with hfull | hfull
    · exact Or.inl (by show q.scale.toNat = 28; have := h.scale_le; omega)
    · refine Or.inr fun hfit => ?_
      unfold Fits at hfit
      rw [abs_of_nonneg h.nonneg, pow_succ, ← mul_assoc, h.value_toNat hs] at hfit
      have h1 : (limit : Rat) ≤ q.digits * 10 := by exact_mod_cast hfull
      have h2 : (0 : Rat) ≤ q.rest / divisor := by have := h.divisor_pos; positivity
      linarith
  rw [nearest_of_finest h.scale_toNat_le hfits hmax, hround]
  rfl

/-- Digits that only rounding has carried past the limit are the limit on the grid before. -/
theorem Of.nearest_of_carried (h : Of divisor x q) (hpos : 0 < q.scale) {rounded : Nat}
    (hround : roundEven (x * 10 ^ q.scale.toNat) = (rounded : Int)) (hge : ¬ rounded < limit) :
    (carried : Rat) / 10 ^ (q.scale - 1).toNat = nearest x := by
  have hsucc : (q.scale - 1).toNat + 1 = q.scale.toNat := by omega
  have hscale := h.scale_toNat_le
  refine (nearest_of_carry h.nonneg (by omega) ?_ ?_).symm
  · rw [hsucc]
    by_contra hlow
    have h1 : roundEven (x * 10 ^ q.scale.toNat) ≤ (limit : Int) - 1 := roundEven_le (by push_cast; linarith)
    rw [hround] at h1
    omega
  · rw [hsucc, h.value_toNat hpos.le]
    have h1 : (q.digits : Rat) + 1 ≤ limit := by exact_mod_cast h.digits_lt
    have h2 : (q.rest : Rat) / divisor < 1 := by
      rw [div_lt_one h.divisor_pos]
      exact_mod_cast h.rest_lt
    linarith

theorem roundOff_toRat (h : Of divisor x q) (hs : 0 ≤ q.scale) (hfull : 28 < q.scale + 1 ∨ limit ≤ q.digits * 10)
    {m s : Nat} (hr : roundOff divisor q = some (m, s)) : (m : Rat) / 10 ^ s = nearest x := by
  have hround := roundEven_digits q.digits h.rest_lt
  rw [← h.value_toNat hs] at hround
  unfold roundOff at hr
  dsimp only at hr
  generalize hup : (if divisor < 2 * q.rest || (2 * q.rest == divisor && q.digits % 2 == 1)
    then q.digits + 1 else q.digits) = rounded at hr hround
  split at hr
  · next hlt =>
    obtain ⟨rfl, rfl⟩ := Prod.mk.inj (Option.some.inj hr)
    exact h.nearest_of_full hs hfull hround hlt
  · next hge =>
    split at hr
    · next hpos =>
      obtain ⟨rfl, rfl⟩ := Prod.mk.inj (Option.some.inj hr)
      exact h.nearest_of_carried hpos hround hge
    · cases hr

/-- The dropped part exceeds one half if the last digit does, and at five if there is a remainder. -/
theorem half_lt_iff {last rest : Nat} (hr : rest < divisor) :
    divisor * 10 < 2 * (last * divisor + rest) ↔ 5 < last ∨ (last = 5 ∧ rest ≠ 0) := by
  constructor
  · intro h
    by_contra hc
    rw [not_or, not_and, not_not] at hc
    obtain ⟨h5, h0⟩ := hc
    rcases Nat.lt_or_ge last 5 with hlt | hge
    · have : last + 1 ≤ 5 := hlt
      nlinarith
    · have : last = 5 := by omega
      rw [this, h0 this] at h
      omega
  · rintro (h | ⟨h, h'⟩)
    · nlinarith
    · rw [h]
      omega

/-- The dropped part is one half if the last digit is five and there is no remainder. -/
theorem half_eq_iff {last rest : Nat} (hr : rest < divisor) :
    2 * (last * divisor + rest) = divisor * 10 ↔ last = 5 ∧ rest = 0 := by
  constructor
  · intro h
    have hnot : ¬ (5 < last ∨ (last = 5 ∧ rest ≠ 0)) := (half_lt_iff hr).not.1 (by omega)
    have h5 : last = 5 := by
      by_contra hne
      have : last + 1 ≤ 5 := by omega
      nlinarith
    rw [h5] at h
    exact ⟨h5, by omega⟩
  · rintro ⟨h, h'⟩
    rw [h, h']
    omega

/-- Rounding away the last digit and the remainder together. -/
theorem roundEven_kept {digits rest : Nat} (hr : rest < divisor) :
    roundEven (((digits : Rat) + (rest : Rat) / divisor) / 10)
      = ((if 5 < digits % 10 || (digits % 10 == 5 && (rest != 0 || digits / 10 % 2 == 1))
          then digits / 10 + 1 else digits / 10 : Nat) : Int) := by
  have hd : 0 < divisor := by omega
  have hdigits : (digits : Rat) = 10 * ((digits / 10 : Nat) : Rat) + ((digits % 10 : Nat) : Rat) := by
    exact_mod_cast (Nat.div_add_mod digits 10).symm
  have hlt : digits % 10 * divisor + rest < divisor * 10 := by
    have h1 : digits % 10 ≤ 9 := by omega
    nlinarith
  have hsum : ((digits : Rat) + (rest : Rat) / divisor) / 10
      = ((digits / 10 : Nat) : Rat) + ((digits % 10 * divisor + rest : Nat) : Rat) / ((divisor * 10 : Nat) : Rat) := by
    have : (divisor : Rat) ≠ 0 := by exact_mod_cast hd.ne'
    rw [hdigits]
    push_cast
    field_simp
    ring
  rw [hsum, roundEven_digits (digits / 10) hlt]
  congr 1
  simp only [Bool.or_eq_true, Bool.and_eq_true, decide_eq_true_eq, beq_iff_eq, bne_iff_ne]
  simp only [half_lt_iff hr, half_eq_iff hr]
  split <;> split <;> omega

theorem dropLast_toRat (hv : x * 10 ^ q.scale = q.digits + q.rest / divisor) (hr : q.rest < divisor)
    (hs : q.scale ≤ 28) (hge : limit ≤ q.digits) (hle : q.digits < limit + 10 ^ 9) {m s : Nat}
    (h : dropLast q = some (m, s)) : (m : Rat) / 10 ^ s = nearest x := by
  have hd : (0 : Rat) < divisor := by exact_mod_cast Nat.lt_of_le_of_lt (Nat.zero_le _) hr
  have hrest : (0 : Rat) ≤ q.rest / divisor := by positivity
  have hrest' : (q.rest : Rat) / divisor < 1 := by
    rw [div_lt_one hd]
    exact_mod_cast hr
  have hx : 0 ≤ x := by
    have hpow : (0 : Rat) < 10 ^ q.scale := by positivity
    refine nonneg_of_mul_nonneg_left ?_ hpow
    rw [hv]
    positivity
  unfold dropLast at h
  split at h
  · next hpos =>
    obtain ⟨rfl, rfl⟩ := Prod.mk.inj (Option.some.inj h)
    have hsucc : x * 10 ^ ((q.scale - 1).toNat + 1) = q.digits + q.rest / divisor := by
      rw [← hv, ← zpow_natCast]
      congr 2
      omega
    have htenth : x * 10 ^ (q.scale - 1).toNat = (q.digits + q.rest / divisor) / 10 := by
      rw [← hsucc, pow_succ, ← mul_assoc, mul_div_cancel_right₀ _ (by norm_num)]
    have hge' : (limit : Rat) ≤ q.digits := by exact_mod_cast hge
    have hle' : (q.digits : Rat) ≤ limit + 10 ^ 9 := by exact_mod_cast hle.le
    have hfits : Fits x (q.scale - 1).toNat := by
      unfold Fits
      rw [abs_of_nonneg hx, htenth]
      rw [limit_cast] at hle' ⊢
      linarith
    have hnot : ¬ Fits x ((q.scale - 1).toNat + 1) := by
      unfold Fits
      rw [abs_of_nonneg hx, hsucc]
      linarith
    rw [nearest_of_finest (by show _ ≤ 28; omega) hfits (Or.inr hnot), htenth, roundEven_kept hr]
    rfl
  · cases h

/-- Without a remainder the digits are the result. -/
theorem Of.nearest_of_rest (h : Of divisor x q) (hs : 0 ≤ q.scale) (hrest : q.rest = 0) :
    (q.digits : Rat) / 10 ^ q.scale.toNat = nearest x := by
  have hv := h.value_toNat hs
  rw [hrest, Nat.cast_zero, zero_div, add_zero] at hv
  have hfits : Fits x q.scale.toNat := by
    unfold Fits
    rw [abs_of_nonneg h.nonneg, hv]
    have : (q.digits : Rat) + 1 ≤ limit := by exact_mod_cast h.digits_lt
    linarith
  rw [nearest_eq_self (n := q.digits) h.scale_toNat_le hfits (by rw [hv]; rfl), ← hv]
  exact mul_div_cancel_right₀ _ (ten_pow_pos _).ne'

/-- There is room for the digits so far, so the next ones do not carry them far past the limit. -/
theorem append_digits_lt (hr : q.rest < divisor) (hp : room q.digits q.scale 9 ≠ 0) :
    (q.append divisor (room q.digits q.scale 9)).digits < limit + 10 ^ 9 := by
  generalize hroom : room q.digits q.scale 9 = p at hp
  show q.digits * tenPow p + q.rest * tenPow p / divisor < limit + 10 ^ 9
  have h1 : q.rest * tenPow p / divisor < tenPow p := by
    rw [Nat.div_lt_iff_lt_mul (by omega), Nat.mul_comm]
    exact Nat.mul_lt_mul_of_pos_left hr (tenPow_pos p)
  have h2 : tenPow p ≤ 10 ^ 9 := by
    rw [← hroom]
    exact Nat.pow_le_pow_right (by decide) (room_le _ _ _)
  have h3 : q.digits * tenPow p < limit := by
    rw [← hroom]
    exact digits_mul_room_lt _ _ _ (hroom ▸ hp)
  omega

/-- **The division ends with the rounding of its exact result.** -/
theorem extend_toRat {inexact : Bool} (h : Of divisor x q) {m s : Nat} {i : Bool}
    (hr : extend divisor q inexact = some (m, s, i)) : (m : Rat) / 10 ^ s = nearest x := by
  induction q, inexact using extend.induct divisor with
  | case1 q inexact hrest hs =>
    -- nothing is left over, so the value is on the grid
    rw [extend, if_pos hrest, dif_pos hs] at hr
    obtain ⟨rfl, rfl, -⟩ : q.digits = m ∧ q.scale.toNat = s ∧ inexact = i := by simpa using hr
    exact h.nearest_of_rest hs hrest
  | case2 q inexact hrest hs p hlim =>
    rw [extend, if_pos hrest, dif_neg hs] at hr
    simp only [p] at hlim
    simp [hlim] at hr
  | case3 q inexact hrest hs p hlim ih =>
    rw [extend, if_pos hrest, dif_neg hs] at hr
    have hr' : extend divisor (q.append divisor p) inexact = some (m, s, i) := by
      simpa [p, hlim] using hr
    refine ih (h.append p ?_ ?_) hr'
    · show q.digits * tenPow p + q.rest * tenPow p / divisor < limit
      rw [hrest, Nat.zero_mul, Nat.zero_div, Nat.add_zero]
      exact Nat.not_le.1 hlim
    · have : p ≤ (-q.scale).toNat := Nat.min_le_right ..
      omega
  | case4 q inexact hrest p hnone =>
    rw [extend, if_neg hrest] at hr
    simp only [p] at hnone
    simp [hnone] at hr
  | case5 q inexact hrest p hsome hp =>
    -- no further digit fits, so the remainder decides about the last one
    rw [extend, if_neg hrest] at hr
    obtain ⟨hs, hround, -⟩ : 0 ≤ q.scale ∧ roundOff divisor q = some (m, s) ∧ i = true := by
      simpa [p, hsome, hp] using hr
    exact roundOff_toRat h hs (full_of_room _ _ 8 hp) hround
  | case6 q inexact hrest p hsome hp next hlt ih =>
    rw [extend, if_neg hrest] at hr
    have hr' : extend divisor next true = some (m, s, i) := by
      simpa [p, next, hsome, hp, hlt] using hr
    exact ih (h.append p hlt (scale_add_room _ _ _ hp)) hr'
  | case7 q inexact hrest p hsome hp next hge =>
    -- the digits have outgrown the limit, so the last of them decides together with the remainder
    rw [extend, if_neg hrest] at hr
    obtain ⟨hlast, -⟩ : dropLast next = some (m, s) ∧ i = true := by
      simpa [p, next, hsome, hp, hge, eq_comm] using hr
    exact dropLast_toRat (value_append h.value h.divisor_pos p) (Nat.mod_lt _ (Nat.zero_lt_of_lt h.rest_lt))
      (scale_add_room _ _ _ hp) (Nat.not_lt.1 hge) (append_digits_lt h.rest_lt hp) hlast

/-! ## Final zeros -/

theorem dropZeros_toRat (zeros : Nat) (q : Nat × Nat) :
    ((dropZeros zeros q).1 : Rat) / 10 ^ (dropZeros zeros q).2 = q.1 / 10 ^ q.2 := by
  unfold dropZeros
  split
  · next h =>
    obtain ⟨hle, hmod⟩ := h
    rw [Nat.cast_div (Nat.dvd_of_mod_eq_zero hmod) (by exact_mod_cast (tenPow_pos zeros).ne'), tenPow_cast]
    obtain ⟨j, hj⟩ := Nat.exists_eq_add_of_le hle
    rw [hj, Nat.add_sub_cancel_left, pow_add]
    field_simp
  · rfl

theorem dropEights_toRat (digits scale : Nat) :
    ((dropEights digits scale).1 : Rat) / 10 ^ (dropEights digits scale).2 = digits / 10 ^ scale := by
  induction digits, scale using dropEights.induct with
  | case1 digits scale h ih =>
    have hstep := dropZeros_toRat 8 (digits, scale)
    unfold dropZeros at hstep
    rw [if_pos ⟨h.1, h.2.2⟩] at hstep
    rw [dropEights, dif_pos h, ih]
    exact hstep
  | case2 digits scale h =>
    rw [dropEights, dif_neg h]

theorem trim_toRat (digits scale : Nat) :
    ((trim digits scale).1 : Rat) / 10 ^ (trim digits scale).2 = digits / 10 ^ scale := by
  unfold trim
  rw [dropZeros_toRat, dropZeros_toRat, dropZeros_toRat, dropEights_toRat]

end Quotient

/-! ## The operation -/

theorem start_of (a b : Decimal) (hb : b.isZero ≠ true) :
    Quotient.Of b.mantissa (|a.toRat| / |b.toRat|)
      { digits := a.mantissa / b.mantissa, rest := a.mantissa % b.mantissa, scale := (a.scale : Int) - b.scale } where
  value := by
    have hpos : b.mantissa ≠ 0 := by simpa [isZero] using hb
    have hne : (b.mantissa : Rat) ≠ 0 := by exact_mod_cast hpos
    have hsplit : (a.mantissa : Rat)
        = b.mantissa * ((a.mantissa / b.mantissa : Nat) : Rat) + ((a.mantissa % b.mantissa : Nat) : Rat) := by
      exact_mod_cast (Nat.div_add_mod _ _).symm
    have hvalue : |a.toRat| / |b.toRat| * 10 ^ ((a.scale : Int) - b.scale) = a.mantissa / b.mantissa := by
      rw [abs_toRat, abs_toRat, zpow_sub₀ (by norm_num), zpow_natCast, zpow_natCast]
      field_simp
    rw [hvalue, div_eq_iff hne, add_mul, div_mul_cancel₀ _ hne]
    linarith
  rest_lt := Nat.mod_lt _ (Nat.pos_of_ne_zero (by simpa [isZero] using hb))
  digits_lt := lt_of_le_of_lt (Nat.div_le_self ..) a.mantissa_lt
  scale_le := by have := a.scale_le; show (a.scale : Int) - b.scale ≤ 28; omega

theorem ofParts?_toRat {negative : Bool} {m s : Nat} {d : Decimal}
    (h : ofParts? (negative && m != 0) m s = some d) : d.toRat = sign negative * (m / 10 ^ s) := by
  unfold ofParts? at h
  split at h
  · next hm =>
    obtain rfl := Option.some.inj h
    exact toRat_mk negative m s hm.1 hm.2
  · cases h

theorem sign_mul_abs (d : Decimal) : sign d.negative * |d.toRat| = d.toRat := by
  rw [abs_toRat, ← toRat_eq_sign_mul]

theorem sign_xor (a b : Bool) : sign (a != b) = sign a / sign b := by
  unfold sign
  cases a <;> cases b <;> simp

/-- **The value of a quotient.** -/
theorem div_toRat {a b c : Decimal} (h : a.div b = .ok c) : c.toRat = nearest (a.toRat / b.toRat) := by
  unfold Decimal.div at h
  split at h
  · cases h
  · next hb =>
    split at h
    · next ha =>
      cases h
      rw [toRat_eq_zero.2 ha, zero_div, nearest_zero, toRat_zero]
    · dsimp only at h
      obtain ⟨⟨m, s, inexact⟩, hext, hparts⟩ := Option.bind_eq_some_iff.1 (orFault_eq_ok.1 h)
      have hround := Quotient.extend_toRat (start_of a b hb) hext
      have hvalue : sign (a.negative != b.negative) * (|a.toRat| / |b.toRat|) = a.toRat / b.toRat := by
        rw [sign_xor, div_mul_div_comm, sign_mul_abs, sign_mul_abs]
      rw [← hvalue, nearest_sign_mul, ← hround]
      cases inexact with
      | false => exact ofParts?_toRat hparts
      | true =>
        rw [← Quotient.trim_toRat]
        exact ofParts?_toRat hparts

end Decimal

end TwoVenue
