import TwoVenue.Proofs.Binary64.Rounding

/-!
# The shortest decimal of a binary number

The digits of a binary number are searched from the coarsest grid to finer ones, and the first decimal that stands for
the number is taken. Decimals of 15 digits are further apart than the decimals that stand for one binary number, so one
of these that is written down is found again.

- `Binary64.contains_iff`: the neighbourhood in integers is the set of numbers that stand for `x`.
- `Binary64.exists_onGrid?`, `Binary64.stands_of_onGrid?`: the search on one grid finds a decimal if there is one.
- `Binary64.leadingPower_spec`, `Binary64.search_of_hit`: the search over the grids passes none of them by.
- `Binary64.shortest_eq`: **a decimal of 15 digits comes back** from the binary number that it stands for.
-/

namespace TwoVenue.Binary64

variable {x : Binary64} {a b n d : Nat} {e : Int} {q r t : Rat}

/-! ## Neighbourhoods -/

theorem ten_zpow_pos (e : Int) : (0 : Rat) < 10 ^ e := by positivity

theorem neighbourhood_unit_pos (x : Binary64) : 0 < x.neighbourhood.unit := scaled_pos Nat.one_pos _

/-- The finest distance is a quarter of the last place. -/
theorem quarter_value (x : Binary64) :
    ((scaled 1 1 (2 - x.exponent)).1 : Rat) / x.neighbourhood.unit = 2 ^ x.exponent / 4 := by
  show ((scaled 1 1 (2 - x.exponent)).1 : Rat) / (scaled 1 1 (2 - x.exponent)).2 = _
  rw [scaled_value, zpow_sub₀ (by norm_num)]
  norm_num

theorem neighbourhood_value (x : Binary64) : (x.neighbourhood.value : Rat) / x.neighbourhood.unit = x.toRat := by
  have hvalue : x.neighbourhood.value = 4 * x.significand * (scaled 1 1 (2 - x.exponent)).1 := rfl
  rw [hvalue, Nat.cast_mul, mul_div_assoc, quarter_value, toRat]
  push_cast
  ring

theorem neighbourhood_high (x : Binary64) :
    (x.neighbourhood.high : Rat) / x.neighbourhood.unit = (x.significand + 1 / 2) * 2 ^ x.exponent := by
  have hhigh : x.neighbourhood.high = (4 * x.significand + 2) * (scaled 1 1 (2 - x.exponent)).1 := rfl
  rw [hhigh, Nat.cast_mul, mul_div_assoc, quarter_value]
  push_cast
  ring

theorem neighbourhood_low (hx : 0 < x.significand) :
    (x.neighbourhood.low : Rat) / x.neighbourhood.unit = (x.significand - x.reach) * 2 ^ x.exponent := by
  have hnarrow : (2 * x.significand == significandLimit && decide (minExponent < x.exponent)) = decide x.Narrow := by
    rw [Bool.eq_iff_iff, decide_eq_true_iff]
    simp [Narrow]
  have hlow : x.neighbourhood.low =
      (4 * x.significand - if decide x.Narrow = true then 1 else 2) * (scaled 1 1 (2 - x.exponent)).1 := by
    rw [← hnarrow]
    rfl
  rw [hlow, Nat.cast_mul, mul_div_assoc, quarter_value, reach]
  split
  · next h =>
    rw [if_pos (of_decide_eq_true h)]
    push_cast [Nat.cast_sub (show 1 ≤ 4 * x.significand by omega)]
    ring
  · next h =>
    rw [if_neg (of_decide_eq_false (Bool.eq_false_iff.2 h))]
    push_cast [Nat.cast_sub (show 2 ≤ 4 * x.significand by omega)]
    ring

/-- **The neighbourhood is the set of numbers that stand for `x`.** -/
theorem contains_iff (hx : 0 < x.significand) (hb : 0 < b) :
    x.neighbourhood.contains a b = true ↔ x.Stands ((a : Rat) / b) := by
  have hunit := x.neighbourhood_unit_pos
  have hpow := two_zpow_pos x.exponent
  have hlow := neighbourhood_low hx
  have hhigh := neighbourhood_high x
  have hclosed : x.neighbourhood.closed = (x.significand % 2 == 0) := rfl
  unfold Neighbourhood.contains Stands
  rw [hclosed]
  by_cases heven : x.significand % 2 = 0
  · rw [if_pos (beq_iff_eq.2 heven), if_pos heven, decide_eq_true_iff, ← natCast_div_le_div hunit hb,
      ← natCast_div_le_div hb hunit, hlow, hhigh, le_div_iff₀ hpow, div_le_iff₀ hpow]
  · rw [if_neg (mt beq_iff_eq.1 heven), if_neg heven, decide_eq_true_iff, ← natCast_div_lt_div hunit hb,
      ← natCast_div_lt_div hb hunit, hlow, hhigh, lt_div_iff₀ hpow, div_lt_iff₀ hpow]

/-- A binary number stands for itself. -/
theorem stands_toRat (x : Binary64) : x.Stands x.toRat := by
  have hvalue : x.toRat / 2 ^ x.exponent = x.significand := mul_div_cancel_right₀ _ (two_zpow_pos _).ne'
  have hreach : 0 < x.reach := by
    rcases x.reach_mem with h | h <;> norm_num [h]
  unfold Stands
  rw [hvalue]
  split
  · exact ⟨by linarith, by linarith⟩
  · exact ⟨by linarith, by linarith⟩

/-- Between numbers that a binary number stands for there are no others. -/
theorem Stands.between (hq : x.Stands q) (hr : x.Stands r) (hqt : q ≤ t) (htr : t ≤ r) : x.Stands t := by
  have hlow : q / 2 ^ x.exponent ≤ t / 2 ^ x.exponent := div_le_div_of_nonneg_right hqt (two_zpow_pos _).le
  have hhigh : t / 2 ^ x.exponent ≤ r / 2 ^ x.exponent := div_le_div_of_nonneg_right htr (two_zpow_pos _).le
  unfold Stands at hq hr ⊢
  split
  · next heven =>
    rw [if_pos heven] at hq hr
    exact ⟨hq.1.trans hlow, hhigh.trans hr.2⟩
  · next hodd =>
    rw [if_neg hodd] at hq hr
    exact ⟨hq.1.trans_le hlow, hhigh.trans_lt hr.2⟩

/-- Nothing that a binary number stands for is further away than half of its last place. -/
theorem Stands.abs_sub_le (h : x.Stands q) : |q - x.toRat| ≤ 2 ^ x.exponent / 2 := by
  have hpow := two_zpow_pos x.exponent
  have hreach : x.reach ≤ 1 / 2 := by
    rcases x.reach_mem with h | h <;> norm_num [h]
  have hhigh := h.le
  have hlow : x.significand - 1 / 2 ≤ q / 2 ^ x.exponent := by
    unfold Stands at h
    split at h
    · linarith
    · linarith
  rw [le_div_iff₀ hpow] at hlow
  rw [div_le_iff₀ hpow] at hhigh
  rw [toRat, abs_le]
  constructor
  · linarith
  · linarith

/-! ## One grid -/

theorem atPower_pos (a : Nat) (e : Int) : 0 < (atPower a e).2 := by
  unfold atPower
  split
  · exact Nat.one_pos
  · exact tenPow_pos _

theorem atPower_value (a : Nat) (e : Int) : ((atPower a e).1 : Rat) / (atPower a e).2 = a * 10 ^ e := by
  unfold atPower
  split
  · next he =>
    obtain ⟨k, rfl⟩ := Int.eq_ofNat_of_zero_le he
    push_cast
    rw [Int.toNat_natCast, tenPow_cast, div_one, zpow_natCast]
  · next he =>
    obtain ⟨k, hk⟩ := Int.eq_ofNat_of_zero_le (show 0 ≤ -e by omega)
    obtain rfl : e = -(k : Int) := by omega
    rw [neg_neg, Int.toNat_natCast, tenPow_cast, zpow_neg, zpow_natCast, div_eq_mul_inv]

/-- The multiple of `10 ^ e` below the value of a number. -/
def below (x : Binary64) (e : Int) : Nat :=
  x.neighbourhood.value * (atPower 1 e).2 / (x.neighbourhood.unit * (atPower 1 e).1)

/-- Whether a multiple of `10 ^ e` is in the neighbourhood. -/
def hits (x : Binary64) (e : Int) (a : Nat) : Bool :=
  x.neighbourhood.contains (a * (atPower 1 e).1) (atPower 1 e).2

theorem hits_iff (hx : 0 < x.significand) : x.hits e a = true ↔ x.Stands (a * 10 ^ e) := by
  have hvalue := atPower_value 1 e
  rw [Nat.cast_one, one_mul] at hvalue
  rw [hits, contains_iff hx (atPower_pos 1 e), Nat.cast_mul, mul_div_assoc, hvalue]

theorem below_bounds (x : Binary64) (e : Int) :
    x.below e * 10 ^ e ≤ x.toRat ∧ x.toRat < (x.below e + 1 : Nat) * 10 ^ e := by
  have hunit : (0 : Rat) < x.neighbourhood.unit := by exact_mod_cast x.neighbourhood_unit_pos
  have hpow := ten_zpow_pos e
  have hvalue := atPower_value 1 e
  have hden : (0 : Rat) < (atPower 1 e).2 := by exact_mod_cast atPower_pos 1 e
  rw [Nat.cast_one, one_mul, div_eq_iff hden.ne'] at hvalue
  have htop : (0 : Rat) < (atPower 1 e).1 := hvalue ▸ mul_pos hpow hden
  have hdivisor : 0 < x.neighbourhood.unit * (atPower 1 e).1 :=
    Nat.mul_pos x.neighbourhood_unit_pos (by exact_mod_cast htop)
  have hquotient : ((x.neighbourhood.value * (atPower 1 e).2 : Nat) : Rat) / (x.neighbourhood.unit * (atPower 1 e).1 : Nat)
      = x.toRat / 10 ^ e := by
    push_cast
    rw [hvalue, ← neighbourhood_value, mul_comm (10 ^ e : Rat), ← mul_assoc, mul_div_mul_comm, div_div, mul_comm]
    field_simp
  rw [← le_div_iff₀ hpow, ← div_lt_iff₀ hpow, ← hquotient]
  constructor
  · exact Nat.cast_div_le
  · rw [div_lt_iff₀ (by exact_mod_cast hdivisor)]
    exact_mod_cast Nat.lt_mul_of_div_lt (Nat.lt_succ_self _) hdivisor

theorem onGrid?_eq (x : Binary64) (e : Int) :
    onGrid? x.neighbourhood e =
      match x.hits e (x.below e), x.hits e (x.below e + 1) with
      | true, true =>
        some (if 2 * x.neighbourhood.value * (atPower 1 e).2 <
          (2 * x.below e + 1) * (atPower 1 e).1 * x.neighbourhood.unit then x.below e else x.below e + 1)
      | true, false => some (x.below e)
      | false, true => some (x.below e + 1)
      | false, false => none := rfl

/-- What is found on a grid stands for the number. -/
theorem stands_of_onGrid? (hx : 0 < x.significand) (h : onGrid? x.neighbourhood e = some a) : x.Stands (a * 10 ^ e) := by
  rw [onGrid?_eq] at h
  rw [← hits_iff hx]
  split at h
  · cases h
    split <;> assumption
  · cases h
    assumption
  · cases h
    assumption
  · cases h

/-- **A grid on which some decimal stands for the number is not passed by.** -/
theorem exists_onGrid? (hx : 0 < x.significand) (h : x.Stands (a * 10 ^ e)) : ∃ b, onGrid? x.neighbourhood e = some b := by
  obtain ⟨hbelow, habove⟩ := below_bounds x e
  have hpow := ten_zpow_pos e
  -- the value lies between the decimal and one of its own neighbours on the grid
  have hhit : x.hits e (x.below e) = true ∨ x.hits e (x.below e + 1) = true := by
    rw [hits_iff hx, hits_iff hx]
    by_cases hle : a ≤ x.below e
    · have hcast : (a : Rat) * 10 ^ e ≤ x.below e * 10 ^ e :=
        mul_le_mul_of_nonneg_right (by exact_mod_cast hle) hpow.le
      exact Or.inl (h.between x.stands_toRat hcast hbelow)
    · have hcast : ((x.below e + 1 : Nat) : Rat) * 10 ^ e ≤ a * 10 ^ e :=
        mul_le_mul_of_nonneg_right (by exact_mod_cast not_le.1 hle) hpow.le
      exact Or.inr (x.stands_toRat.between h habove.le hcast)
  rw [onGrid?_eq]
  split
  · exact ⟨_, rfl⟩
  · exact ⟨_, rfl⟩
  · exact ⟨_, rfl⟩
  · next hnone hnone' => simp [hnone, hnone'] at hhit

/-! ## All grids -/

/-- A number has as many digits as its logarithm says. -/
theorem digits_bounds (hn : 0 < n) :
    (10 : Rat) ^ (((Nat.toDigits 10 n).length : Int) - 1) ≤ n ∧ (n : Rat) < 10 ^ ((Nat.toDigits 10 n).length : Int) := by
  have hpos : 0 < (Nat.toDigits 10 n).length := List.length_pos_iff.2 Nat.toDigits_ne_nil
  obtain ⟨l, hl⟩ := Nat.exists_eq_succ_of_ne_zero hpos.ne'
  have hhigh : n < 10 ^ (Nat.toDigits 10 n).length := (Nat.length_toDigits_le_iff (by decide) hpos).1 le_rfl
  have hlow : 10 ^ l ≤ n := by
    by_cases hzero : l = 0
    · rw [hzero]
      exact hn
    · by_contra hlt
      have hle := (Nat.length_toDigits_le_iff (b := 10) (by decide) (Nat.pos_of_ne_zero hzero)).2 (not_le.1 hlt)
      omega
  rw [hl] at hhigh ⊢
  constructor
  · rw [Nat.cast_succ, add_sub_cancel_right, zpow_natCast]
    exact_mod_cast hlow
  · rw [zpow_natCast]
    exact_mod_cast hhigh

/-- A quotient has as many digits as the difference says, or one more. -/
theorem quotient_bounds (hn : 0 < n) (hd : 0 < d) :
    (10 : Rat) ^ (((Nat.toDigits 10 n).length : Int) - (Nat.toDigits 10 d).length - 1) ≤ n / d ∧
      (n : Rat) / d < 10 ^ (((Nat.toDigits 10 n).length : Int) - (Nat.toDigits 10 d).length + 1) := by
  have hd' : (0 : Rat) < d := by exact_mod_cast hd
  obtain ⟨hlowTop, hhighTop⟩ := digits_bounds hn
  obtain ⟨hlowBottom, hhighBottom⟩ := digits_bounds hd
  generalize ((Nat.toDigits 10 n).length : Int) = top at hlowTop hhighTop ⊢
  generalize ((Nat.toDigits 10 d).length : Int) = bottom at hlowBottom hhighBottom ⊢
  constructor
  · rw [le_div_iff₀ hd']
    calc (10 : Rat) ^ (top - bottom - 1) * d ≤ 10 ^ (top - bottom - 1) * 10 ^ bottom :=
          mul_le_mul_of_nonneg_left hhighBottom.le (ten_zpow_pos _).le
      _ = 10 ^ (top - 1) := by
          rw [← zpow_add₀ (by norm_num)]
          congr 1
          ring
      _ ≤ n := hlowTop
  · rw [div_lt_iff₀ hd']
    calc (n : Rat) < 10 ^ top := hhighTop
      _ = 10 ^ (top - bottom + 1) * 10 ^ (bottom - 1) := by
          rw [← zpow_add₀ (by norm_num)]
          congr 1
          ring
      _ ≤ 10 ^ (top - bottom + 1) * d := mul_le_mul_of_nonneg_left hlowBottom (ten_zpow_pos _).le

/-- The first digit of a quotient. -/
theorem leadingPower_spec (hn : 0 < n) (hd : 0 < d) :
    (10 : Rat) ^ leadingPower n d ≤ n / d ∧ (n : Rat) / d < 10 ^ (leadingPower n d + 1) := by
  obtain ⟨hlow, hhigh⟩ := quotient_bounds hn hd
  have hunfold : leadingPower n d =
      if (atPower 1 (((Nat.toDigits 10 n).length : Int) - (Nat.toDigits 10 d).length)).1 * d ≤
        n * (atPower 1 (((Nat.toDigits 10 n).length : Int) - (Nat.toDigits 10 d).length)).2
      then ((Nat.toDigits 10 n).length : Int) - (Nat.toDigits 10 d).length
      else ((Nat.toDigits 10 n).length : Int) - (Nat.toDigits 10 d).length - 1 := rfl
  rw [hunfold]
  generalize ((Nat.toDigits 10 n).length : Int) - (Nat.toDigits 10 d).length = guess at hlow hhigh ⊢
  have hpower : (atPower 1 guess).1 * d ≤ n * (atPower 1 guess).2 ↔ (10 : Rat) ^ guess ≤ n / d := by
    rw [← natCast_div_le_div (atPower_pos 1 guess) hd, atPower_value, Nat.cast_one, one_mul]
  split
  · next h => exact ⟨hpower.1 h, hhigh⟩
  · next h =>
    rw [sub_add_cancel]
    exact ⟨hlow, not_le.1 (mt hpower.2 h)⟩

/-- **A finer grid is only tried after a coarser one has failed.** -/
theorem search_of_hit {h : Neighbourhood} {k fuel : Nat} (hk : k < fuel) (hit : onGrid? h (e - k) = some a) :
    ∃ b, ∃ f, search h e fuel = (b, f) ∧ onGrid? h f = some b ∧ e - k ≤ f := by
  induction fuel generalizing e k with
  | zero => exact absurd hk (Nat.not_lt_zero k)
  | succ fuel ih =>
    rw [search]
    cases hgrid : onGrid? h e with
    | some b => exact ⟨b, e, rfl, hgrid, by omega⟩
    | none =>
      cases k with
      | zero =>
        rw [Nat.cast_zero, sub_zero, hgrid] at hit
        cases hit
      | succ k =>
        have hnext : e - ((k + 1 : Nat) : Int) = e - 1 - k := by
          push_cast
          ring
        rw [hnext] at hit ⊢
        exact ih (Nat.lt_of_succ_lt_succ hk) hit

/-! ## Decimals of fifteen digits -/

theorem Normal.lastPlace_le (hx : x.Normal) : 2 ^ x.exponent * 2 ^ (52 : Int) ≤ x.toRat := by
  have hbits : ((significandLimit / 2 : Nat) : Rat) ≤ x.significand := by exact_mod_cast hx
  rw [half_significandLimit] at hbits
  rw [toRat, mul_comm]
  exact mul_le_mul_of_nonneg_right hbits (two_zpow_pos _).le

theorem Normal.toRat_pos (hx : x.Normal) : 0 < x.toRat :=
  (mul_pos (two_zpow_pos _) (two_zpow_pos _)).trans_le hx.lastPlace_le

/-- The value is of the size of whatever it stands for. -/
theorem Stands.near (hx : x.Normal) (h : x.Stands q) : x.toRat < 2 * q ∧ q < 2 * x.toRat := by
  have hplace := hx.lastPlace_le
  have hpos := hx.toRat_pos
  have hdistance := abs_le.1 h.abs_sub_le
  norm_num at hplace
  constructor
  · linarith
  · linarith

/-- Fifteen digits are further apart than what stands for one binary number. -/
theorem eq_of_stands (hx : x.Normal) (ha : a < 10 ^ 15) (hstands : x.Stands (a * 10 ^ e))
    (hother : x.Stands (b * 10 ^ e)) : b = a := by
  have hpow := ten_zpow_pos e
  have hplace := hx.lastPlace_le
  have hsize := (hstands.near hx).1
  have hcast : (a : Rat) < 10 ^ 15 := by exact_mod_cast ha
  have hshort : (a : Rat) * 10 ^ e < 10 ^ 15 * 10 ^ e := mul_lt_mul_of_pos_right hcast hpow
  have hgap : (2 : Rat) ^ x.exponent < 10 ^ e := by
    norm_num at hplace hshort
    linarith
  have hfirst := abs_le.1 hstands.abs_sub_le
  have hsecond := abs_le.1 hother.abs_sub_le
  have hle : (b : Rat) * 10 ^ e < (a + 1) * 10 ^ e := by linarith
  have hge : (a : Rat) * 10 ^ e < (b + 1) * 10 ^ e := by linarith
  have hle' : b < a + 1 := by exact_mod_cast lt_of_mul_lt_mul_right hle hpow.le
  have hge' : a < b + 1 := by exact_mod_cast lt_of_mul_lt_mul_right hge hpow.le
  omega

/-- The search begins between 13 and 15 places above the last digit of a decimal of fifteen digits. -/
theorem leadingPower_near (hx : x.Normal) (hlow : 10 ^ 14 ≤ a) (hhigh : a < 10 ^ 15) (hstands : x.Stands (a * 10 ^ e)) :
    13 + e ≤ leadingPower x.neighbourhood.value x.neighbourhood.unit ∧
      leadingPower x.neighbourhood.value x.neighbourhood.unit < 16 + e := by
  have hvalue := x.neighbourhood_value
  have htop : 0 < x.neighbourhood.value := by
    by_contra hzero
    rw [Nat.eq_zero_of_not_pos hzero, Nat.cast_zero, zero_div] at hvalue
    exact hx.toRat_pos.ne hvalue
  obtain ⟨hfirst, hlast⟩ := leadingPower_spec htop x.neighbourhood_unit_pos
  rw [hvalue] at hfirst hlast
  generalize leadingPower x.neighbourhood.value x.neighbourhood.unit = top at hfirst hlast ⊢
  obtain ⟨hsize, hsize'⟩ := hstands.near hx
  have hpow := ten_zpow_pos e
  have hlow' : (10 : Rat) ^ (14 : Int) * 10 ^ e ≤ a * 10 ^ e :=
    mul_le_mul_of_nonneg_right (by exact_mod_cast hlow) hpow.le
  have hhigh' : (a : Rat) * 10 ^ e < 10 ^ (15 : Int) * 10 ^ e :=
    mul_lt_mul_of_pos_right (by exact_mod_cast hhigh) hpow
  have hbelow : (10 : Rat) ^ top < 10 ^ (16 + e) := by
    rw [zpow_add₀ (by norm_num)]
    norm_num at hhigh' ⊢
    linarith
  have habove : (10 : Rat) ^ (13 + e) < 10 ^ (top + 1) := by
    rw [zpow_add₀ (by norm_num)]
    norm_num at hlow' ⊢
    linarith
  exact ⟨Int.lt_add_one_iff.1 ((zpow_lt_zpow_iff_right₀ (by norm_num)).1 habove),
    (zpow_lt_zpow_iff_right₀ (by norm_num)).1 hbelow⟩

/-- **A decimal of fifteen digits comes back** from the binary number that it stands for. -/
theorem shortest_eq (hx : x.Normal) (hlow : 10 ^ 14 ≤ a) (hhigh : a < 10 ^ 15) (hstands : x.Stands (a * 10 ^ e)) :
    (x.shortest.1 : Rat) * 10 ^ x.shortest.2 = a * 10 ^ e := by
  have hpos : 0 < x.significand := Nat.lt_of_lt_of_le (by decide) hx
  have hshortest : x.shortest = search x.neighbourhood (leadingPower x.neighbourhood.value x.neighbourhood.unit) 17 := by
    rw [shortest, isZero, if_neg (by simp [hpos.ne'])]
  obtain ⟨hstart, hstart'⟩ := leadingPower_near hx hlow hhigh hstands
  rw [hshortest]
  generalize leadingPower x.neighbourhood.value x.neighbourhood.unit = top at hstart hstart' ⊢
  obtain ⟨k, hk⟩ := Int.eq_ofNat_of_zero_le (show 0 ≤ top - e by omega)
  obtain rfl : e = top - k := by omega
  obtain ⟨b, hb⟩ := exists_onGrid? hpos hstands
  obtain ⟨c, f, hsearch, hfound, hcoarser⟩ := search_of_hit (by omega : k < 17) hb
  rw [hsearch]
  -- what is found on a coarser grid is on this one, too, and there is only one
  obtain ⟨j, hj⟩ := Int.eq_ofNat_of_zero_le (show 0 ≤ f - (top - k) by omega)
  obtain rfl : f = top - k + j := by omega
  have hcommon : (c : Rat) * 10 ^ (top - k + (j : Int)) = ((c * 10 ^ j : Nat) : Rat) * 10 ^ (top - (k : Int)) := by
    rw [zpow_add₀ (by norm_num), zpow_natCast]
    push_cast
    ring
  have hstandsFound := stands_of_onGrid? hpos hfound
  rw [hcommon] at hstandsFound ⊢
  rw [eq_of_stands hx hhigh hstands hstandsFound]

end TwoVenue.Binary64
