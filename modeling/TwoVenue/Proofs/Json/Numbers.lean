import TwoVenue.Json.Literal
import TwoVenue.Proofs.Binary64.Shortest
import TwoVenue.Proofs.Decimal.RoundTrip

/-!
# The values of number literals

A number literal denotes the digits that are written, times a power of ten. It is read through a binary number, though,
and that is exact only where the digits are few.

- `Literal.value`: the number that is written. `Decimal.Representable`: some decimal has this value.
- `Literal.Short`: at most fifteen digits and a power of ten that is a binary number itself.
- `Literal.scaleBinary_stands`: **the binary number of a short literal stands for its value**, since only one step of
  its computation rounds.
- `Decimal.readPlain?_plainChars`: **digits with a power of ten are read as their value**, if a decimal has it.
- `Literal.toDecimal?_exact`: **a short literal, and an integer of 64 bits, is read exactly.**
-/

namespace TwoVenue

namespace Decimal

/-- Whether some decimal has this value. -/
def Representable (q : Rat) : Prop := ∃ d : Decimal, d.toRat = q

end Decimal

namespace Literal

open Decimal (Representable)

variable {l : Literal} {s m k : Nat} {p : Int} {ds : List Nat}

/-! ## The value of a literal -/

/-- All digits, read as one number. -/
def digits (l : Literal) : Nat := exponentValue (l.whole ++ l.fraction.getD [])

/-- The exponent that is written. -/
def written (l : Literal) : Int :=
  match l.exponent with
  | none => 0
  | some (negative, ds) => if negative then -(exponentValue ds : Int) else exponentValue ds

/-- The power of ten of the last digit. -/
def power (l : Literal) : Int := l.written - (l.fraction.getD []).length

/-- The number that is written. -/
def value (l : Literal) : Rat := Decimal.sign l.negative * (l.digits * 10 ^ l.power)

/-- At most fifteen digits, zeros at the front not counted, and a power of ten of at most 22. -/
structure Short (l : Literal) : Prop where
  digits_lt : l.digits < 10 ^ 15
  neg_le_power : -22 ≤ l.power
  power_le : l.power ≤ 22
  /-- The exponent fits into a signed word of 32 bits. -/
  written_lt : l.written < exponentLimit

/-- An integer of 64 bits, which has to leave room for its sign. -/
structure Word (l : Literal) : Prop where
  noFraction : l.fraction = none
  noExponent : l.exponent = none
  fits : if l.negative then 2 * l.digits ≤ wordLimit else l.digits < wordLimit

/-! ## Significand and power -/

theorem le_foldl (ds : List Nat) (s : Nat) : s ≤ ds.foldl (fun n d => n * 10 + d) s := by
  induction ds generalizing s with
  | nil => exact Nat.le_refl s
  | cons d ds ih => exact (by omega : s ≤ s * 10 + d).trans (ih _)

/-- Digits that fit are all taken up. -/
theorem takeWhole_of_lt (h : ds.foldl (fun n d => n * 10 + d) s < wordLimit) :
    takeWhole s ds = (ds.foldl (fun n d => n * 10 + d) s, 0) := by
  induction ds generalizing s with
  | nil => rfl
  | cons d ds ih =>
    rw [takeWhole, if_pos ((le_foldl ds _).trans_lt h)]
    exact ih h

theorem takeFraction_of_lt (h : ds.foldl (fun n d => n * 10 + d) s < wordLimit) :
    takeFraction s p ds = (ds.foldl (fun n d => n * 10 + d) s, p - ds.length) := by
  induction ds generalizing s p with
  | nil => rw [takeFraction, List.length_nil, Nat.cast_zero, sub_zero, List.foldl_nil]
  | cons d ds ih =>
    rw [takeFraction, if_pos ((le_foldl ds _).trans_lt h), ih h, List.foldl_cons, List.length_cons]
    congr 1
    push_cast
    ring

theorem significant_of_lt (h : l.digits < wordLimit) : l.significant = (l.digits, -((l.fraction.getD []).length : Int)) := by
  rw [digits, exponentValue, List.foldl_append] at h ⊢
  rw [significant, takeWhole_of_lt ((le_foldl _ _).trans_lt h)]
  dsimp only
  rw [takeFraction_of_lt h, zero_sub]

/-- A short literal loses no digit. -/
theorem Short.toBinary64? (h : l.Short) : l.toBinary64? = scaleBinary l.digits l.power := by
  have hdigits : l.digits < wordLimit := h.digits_lt.trans (by decide)
  have hlimit : (22 : Int) < exponentLimit := by decide
  have hwritten := h.written_lt
  have hpower := h.neg_le_power
  rw [power] at hpower ⊢
  rw [Literal.toBinary64?, significant_of_lt hdigits]
  cases hexponent : l.exponent with
  | none =>
    have hvalue : l.written = 0 := by rw [written, hexponent]
    rw [hvalue, zero_sub]
  | some exponent =>
    obtain ⟨negative, ds⟩ := exponent
    cases negative with
    | false =>
      have hvalue : l.written = exponentValue ds := by
        rw [written, hexponent]
        rfl
      rw [hvalue] at hwritten ⊢
      dsimp only
      rw [if_neg (by omega), if_neg Bool.false_ne_true, neg_add_eq_sub]
    | true =>
      have hvalue : l.written = -(exponentValue ds : Int) := by
        rw [written, hexponent]
        rfl
      rw [hvalue] at hpower ⊢
      dsimp only
      rw [if_neg (by omega), if_pos rfl, neg_sub_comm]

/-! ## The binary number -/

open Binary64

theorem ten_pow_lt : (10 : Rat) ^ 15 * 10 ^ (22 : Int) < 2 ^ (1000 : Int) :=
  calc (10 : Rat) ^ 15 * 10 ^ (22 : Int) < 2 ^ (200 : Int) := by norm_num
    _ ≤ 2 ^ (1000 : Int) := zpow_le_zpow_right₀ (by norm_num) (by norm_num)

theorem le_ten_pow : (2 : Rat) ^ (-1021 : Int) ≤ 10 ^ (-22 : Int) :=
  calc (2 : Rat) ^ (-1021 : Int) ≤ 2 ^ (-200 : Int) := zpow_le_zpow_right₀ (by norm_num) (by norm_num)
    _ ≤ 10 ^ (-22 : Int) := by norm_num

/-- Powers of ten up to the 22nd have at most 53 bits behind their factor of two. -/
theorem powerOfTen_value (hk : k ≤ 22) : (powerOfTen k).toRat = 10 ^ k := by
  have hsmall : ((tenPow k : Nat) : Rat) / (1 : Nat) < 2 ^ (1000 : Int) := by
    rw [Nat.cast_one, div_one, tenPow_cast]
    calc (10 : Rat) ^ k ≤ 10 ^ 22 := pow_le_pow_right₀ (by norm_num) hk
      _ ≤ 10 ^ 15 * 10 ^ (22 : Int) := by norm_num
      _ < 2 ^ (1000 : Int) := ten_pow_lt
  obtain ⟨y, hy⟩ := exists_nearest? Nat.one_pos hsmall
  have hbits : 5 ^ k < significandLimit := (Nat.pow_le_pow_right (by decide) hk).trans_lt (by decide)
  have hvalue : ((tenPow k : Nat) : Rat) / (1 : Nat) = (5 ^ k : Nat) * 2 ^ (k : Int) := by
    rw [Nat.cast_one, div_one, tenPow_cast, zpow_natCast]
    push_cast
    rw [← mul_pow]
    norm_num
  have hexact := nearest?_exact Nat.one_pos hbits (by unfold minExponent; omega) hvalue hy
  rw [powerOfTen, hy, Option.getD_some, hexact, Nat.cast_one, div_one, tenPow_cast]

/-- Fifteen digits have at most 53 bits. -/
theorem exists_nearest?_digits (hm : m < 10 ^ 15) : ∃ x, nearest? m 1 = some x ∧ x.toRat = m := by
  have hbits : m < significandLimit := hm.trans (by decide)
  have hsmall : (m : Rat) / (1 : Nat) < 2 ^ (1000 : Int) := by
    rw [Nat.cast_one, div_one]
    calc (m : Rat) < 10 ^ 15 := by exact_mod_cast hm
      _ ≤ 10 ^ 15 * 10 ^ (22 : Int) := by norm_num
      _ < 2 ^ (1000 : Int) := ten_pow_lt
  obtain ⟨x, hx⟩ := exists_nearest? Nat.one_pos hsmall
  refine ⟨x, hx, ?_⟩
  have hvalue : (m : Rat) / (1 : Nat) = m * 2 ^ (0 : Int) := by
    rw [Nat.cast_one, div_one, zpow_zero, mul_one]
  rw [nearest?_exact Nat.one_pos hbits (by decide) hvalue hx, Nat.cast_one, div_one]

/-- The two steps that are exact, and the third one that rounds. -/
theorem scaleBinary_eq (hm : m < 10 ^ 15) (hlow : -22 ≤ p) (hhigh : p ≤ 22) :
    ∃ n d : Nat, 0 < d ∧ (n : Rat) / d = m * 10 ^ p ∧ scaleBinary m p = nearest? n d := by
  obtain ⟨x, hx, hvalue⟩ := exists_nearest?_digits hm
  rw [scaleBinary, hx, Option.bind_some]
  by_cases hp : p < 0
  · obtain ⟨k, hk⟩ := Int.eq_ofNat_of_zero_le (show 0 ≤ -p by omega)
    obtain rfl : p = -(k : Int) := by omega
    have hpower := powerOfTen_value (show k ≤ 22 by omega)
    have hne : (powerOfTen k).toRat ≠ 0 := by
      rw [hpower]
      positivity
    obtain ⟨n, d, hd, hquotient, hdiv⟩ := div?_eq x hne
    refine ⟨n, d, hd, ?_, ?_⟩
    · rw [hquotient, hvalue, hpower, zpow_neg, zpow_natCast, div_eq_mul_inv]
    · rw [if_pos hp, neg_neg, Int.toNat_natCast, divPower, if_pos (by unfold maxPower; omega), hdiv]
  · obtain ⟨k, rfl⟩ := Int.eq_ofNat_of_zero_le (not_lt.1 hp)
    have hpower := powerOfTen_value (show k ≤ 22 by omega)
    obtain ⟨n, d, hd, hproduct, hmul⟩ := mul?_eq x (powerOfTen k)
    refine ⟨n, d, hd, ?_, ?_⟩
    · rw [hproduct, hvalue, hpower, zpow_natCast]
    · rw [if_neg hp, Int.toNat_natCast, if_pos (by unfold maxPower; omega), hmul]

/-- **The binary number of a few digits stands for their value.** -/
theorem scaleBinary_stands (hpos : 0 < m) (hm : m < 10 ^ 15) (hlow : -22 ≤ p) (hhigh : p ≤ 22) :
    ∃ x, scaleBinary m p = some x ∧ x.Stands (m * 10 ^ p) ∧ x.Normal := by
  obtain ⟨n, d, hd, hvalue, hscale⟩ := scaleBinary_eq hm hlow hhigh
  have hone : (1 : Rat) ≤ m := by exact_mod_cast hpos
  have hcast : (m : Rat) < 10 ^ 15 := by exact_mod_cast hm
  have hleast : (10 : Rat) ^ (-22 : Int) ≤ 10 ^ p := zpow_le_zpow_right₀ (by norm_num) hlow
  have hgreatest : (10 : Rat) ^ p ≤ 10 ^ (22 : Int) := zpow_le_zpow_right₀ (by norm_num) hhigh
  have hlarge : 2 ^ (-1021 : Int) ≤ (n : Rat) / d := by
    rw [hvalue]
    calc (2 : Rat) ^ (-1021 : Int) ≤ 1 * 10 ^ (-22 : Int) := (one_mul (10 ^ (-22 : Int) : Rat)).symm ▸ le_ten_pow
      _ ≤ m * 10 ^ p := mul_le_mul hone hleast (ten_zpow_pos _).le (Nat.cast_nonneg m)
  have hsmall : (n : Rat) / d < 2 ^ (1000 : Int) := by
    rw [hvalue]
    calc (m : Rat) * 10 ^ p ≤ 10 ^ 15 * 10 ^ (22 : Int) :=
          mul_le_mul hcast.le hgreatest (ten_zpow_pos _).le (by norm_num)
      _ < 2 ^ (1000 : Int) := ten_pow_lt
  obtain ⟨x, hx, hstands, hnormal⟩ := exists_stands hd hlarge hsmall
  rw [hvalue] at hstands
  exact ⟨x, hscale.trans hx, hstands, hnormal⟩

/-- Nothing is nothing times any power of ten. -/
theorem scaleBinary_zero (hlow : -22 ≤ p) (hhigh : p ≤ 22) : scaleBinary 0 p = some Binary64.zero := by
  obtain ⟨n, d, hd, hvalue, hscale⟩ := scaleBinary_eq (show 0 < 10 ^ 15 by decide) hlow hhigh
  have hd' : (0 : Rat) < d := by exact_mod_cast hd
  rw [Nat.cast_zero, zero_mul, div_eq_zero_iff] at hvalue
  have hn : n = 0 := by exact_mod_cast hvalue.resolve_right hd'.ne'
  rw [hscale, nearest?, if_pos hn]

/-- **The shortest decimal of the binary number has the value of the digits.** -/
theorem exists_shortest (hm : m < 10 ^ 15) (hlow : -22 ≤ p) (hhigh : p ≤ 22) :
    ∃ x, scaleBinary m p = some x ∧ (x.shortest.1 : Rat) * 10 ^ x.shortest.2 = m * 10 ^ p := by
  by_cases hzero : m = 0
  · refine ⟨Binary64.zero, hzero ▸ scaleBinary_zero hlow hhigh, ?_⟩
    rw [hzero]
    show ((0 : Nat) : Rat) * 10 ^ (0 : Int) = _
    rw [Nat.cast_zero, zero_mul, zero_mul]
  · have hpos : 0 < m := Nat.pos_of_ne_zero hzero
    obtain ⟨x, hx, hstands, hnormal⟩ := scaleBinary_stands hpos hm hlow hhigh
    -- zeros at the end fill the digits up to fifteen
    have hlog : Nat.log 10 m < 15 := (Nat.log_lt_iff_lt_pow (by decide) hpos.ne').2 hm
    obtain ⟨j, hj⟩ := Nat.exists_eq_add_of_le (Nat.le_of_lt_succ hlog)
    have hfirst : 10 ^ 14 ≤ m * 10 ^ j := by
      rw [hj, pow_add]
      exact Nat.mul_le_mul_right _ (Nat.pow_log_le_self 10 hpos.ne')
    have hlast : m * 10 ^ j < 10 ^ 15 := by
      have hlt := Nat.lt_pow_succ_log_self (b := 10) (by decide) m
      calc m * 10 ^ j < 10 ^ (Nat.log 10 m).succ * 10 ^ j := Nat.mul_lt_mul_of_pos_right hlt (by positivity)
        _ = 10 ^ 15 := by
          rw [← pow_add]
          congr 1
          omega
    have hsame : ((m * 10 ^ j : Nat) : Rat) * 10 ^ (p - j) = m * 10 ^ p := by
      push_cast
      rw [zpow_sub₀ (by norm_num), zpow_natCast]
      field_simp
    rw [← hsame] at hstands
    exact ⟨x, hx, (shortest_eq hnormal hfirst hlast hstands).trans hsame⟩

end Literal

/-! ## From digits to decimals -/

namespace Decimal

variable {a m scale : Nat} {e : Int} {negative : Bool}

/-- Final zeros go, but not the value. -/
theorem withoutZeros_value (m scale : Nat) :
    (withoutZeros m scale).1 * 10 ^ (scale - (withoutZeros m scale).2) = m := by
  induction scale generalizing m with
  | zero => exact Nat.mul_one m
  | succ scale ih =>
    rw [withoutZeros]
    split
    · next hzero =>
      have hle := (withoutZeros_le (m / 10) scale).2
      rw [Nat.succ_sub hle, pow_succ, ← mul_assoc, ih]
      omega
    · rw [Nat.sub_self, pow_zero, Nat.mul_one]

/-- A place stays only if its digit is not zero. -/
theorem withoutZeros_last (m scale : Nat) : (withoutZeros m scale).2 = 0 ∨ (withoutZeros m scale).1 % 10 ≠ 0 := by
  induction scale generalizing m with
  | zero => exact Or.inl rfl
  | succ scale ih =>
    rw [withoutZeros]
    split
    · exact ih (m / 10)
    · next hdigit => exact Or.inr hdigit

/-- **Digits without final zeros fit into a decimal**, if one has their value. -/
theorem fits_of_last {d : Decimal} (hlast : scale = 0 ∨ m % 10 ≠ 0) (h : |d.toRat| = m / 10 ^ scale) :
    m < limit ∧ scale ≤ maxScale := by
  rw [abs_toRat, div_eq_div_iff (ten_pow_pos _).ne' (ten_pow_pos _).ne'] at h
  have hcross : d.mantissa * 10 ^ scale = m * 10 ^ d.scale := by exact_mod_cast h
  have hscale : scale ≤ d.scale := by
    by_contra hlt
    obtain ⟨j, hj⟩ := Nat.exists_eq_add_of_lt (Nat.lt_of_not_le hlt)
    have hdigits : m = d.mantissa * 10 ^ j * 10 := by
      rw [hj, pow_succ, pow_add] at hcross
      refine Nat.eq_of_mul_eq_mul_right (show 0 < 10 ^ d.scale by positivity) ?_
      rw [← hcross]
      ring
    rcases hlast with hzero | hdigit
    · omega
    · rw [hdigits, Nat.mul_mod_left] at hdigit
      exact hdigit rfl
  refine ⟨?_, hscale.trans d.scale_le⟩
  obtain ⟨j, hj⟩ := Nat.exists_eq_add_of_le hscale
  have hmantissa : d.mantissa = m * 10 ^ j := by
    rw [hj, pow_add, mul_comm (10 ^ scale), ← mul_assoc] at hcross
    exact Nat.eq_of_mul_eq_mul_right (by positivity) hcross
  calc m ≤ m * 10 ^ j := Nat.le_mul_of_pos_right m (by positivity)
    _ = d.mantissa := hmantissa.symm
    _ < limit := d.mantissa_lt

theorem abs_sign_mul (negative : Bool) {q : Rat} (hq : 0 ≤ q) : |sign negative * q| = q := by
  unfold sign
  cases negative with
  | false => rw [if_neg Bool.false_ne_true, one_mul, abs_of_nonneg hq]
  | true => rw [if_pos rfl, neg_one_mul, abs_neg, abs_of_nonneg hq]

/-- The characters that are written for digits with a power of ten are those of a mantissa and a scale in range. -/
theorem exists_plainChars (h : Representable (sign negative * (a * 10 ^ e))) :
    ∃ m scale, Literal.plainChars a e = unsignedChars m scale ∧ (m : Rat) / 10 ^ scale = a * 10 ^ e ∧ m < limit ∧
      scale ≤ maxScale := by
  obtain ⟨d, hd⟩ := h
  have habs : |d.toRat| = a * 10 ^ e := by
    rw [hd]
    exact abs_sign_mul negative (by positivity)
  by_cases he : 0 ≤ e
  · obtain ⟨k, rfl⟩ := Int.eq_ofNat_of_zero_le he
    have hvalue : ((a * tenPow k : Nat) : Rat) / 10 ^ 0 = a * 10 ^ (k : Int) := by
      push_cast
      rw [tenPow_cast, pow_zero, div_one, zpow_natCast]
    obtain ⟨hm, hscale⟩ := fits_of_last (Or.inl rfl) (habs.trans hvalue.symm)
    refine ⟨_, 0, ?_, hvalue, hm, hscale⟩
    rw [Literal.plainChars, if_pos he, Int.toNat_natCast]
  · obtain ⟨k, hk⟩ := Int.eq_ofNat_of_zero_le (show 0 ≤ -e by omega)
    obtain rfl : e = -(k : Int) := by omega
    have hvalue : ((withoutZeros a k).1 : Rat) / 10 ^ (withoutZeros a k).2 = a * 10 ^ (-(k : Int)) := by
      have hdigits : ((withoutZeros a k).1 : Rat) * 10 ^ (k - (withoutZeros a k).2) = a := by
        exact_mod_cast withoutZeros_value a k
      have hpow : (10 : Rat) ^ k = 10 ^ (k - (withoutZeros a k).2) * 10 ^ (withoutZeros a k).2 := by
        rw [← pow_add, Nat.sub_add_cancel (withoutZeros_le a k).2]
      rw [zpow_neg, zpow_natCast, ← div_eq_mul_inv, div_eq_div_iff (by positivity) (by positivity), hpow, ← mul_assoc,
        hdigits]
    obtain ⟨hm, hscale⟩ := fits_of_last (withoutZeros_last a k) (habs.trans hvalue.symm)
    refine ⟨_, _, ?_, hvalue, hm, hscale⟩
    rw [Literal.plainChars, if_neg he, neg_neg, Int.toNat_natCast]

/-- **Digits with a power of ten are read as their value**, if a decimal has it. -/
theorem readPlain?_plainChars (h : Representable (sign negative * (a * 10 ^ e))) :
    ∃ d, readPlain? (if negative then '-' :: Literal.plainChars a e else Literal.plainChars a e) = some d ∧
      d.toRat = sign negative * (a * 10 ^ e) := by
  obtain ⟨m, scale, hchars, hvalue, hm, hscale⟩ := exists_plainChars h
  have hsplit : splitSign (if negative then '-' :: Literal.plainChars a e else Literal.plainChars a e) =
      (negative, unsignedChars m scale) := by
    rw [hchars]
    cases negative with
    | false => exact splitSign_unsignedChars m scale
    | true => rfl
  refine ⟨⟨negative && m != 0, m, scale, hm, hscale⟩, ?_, ?_⟩
  · rw [readPlain?, hsplit]
    dsimp only
    rw [readWhole_unsignedChars hm hscale, Option.bind_some]
    exact dif_pos ⟨hm, hscale⟩
  · rw [← hvalue]
    exact toRat_mk negative m scale hm hscale

end Decimal

namespace Literal

/-! ## What is read -/

open Decimal (Representable)

variable {l : Literal}

/-- Without point and exponent, the last digit has its own place. -/
theorem power_of_whole (hfraction : l.fraction = none) (hexponent : l.exponent = none) : l.written = 0 ∧ l.power = 0 := by
  have hwritten : l.written = 0 := by
    rw [written, hexponent]
  refine ⟨hwritten, ?_⟩
  rw [power, hwritten, hfraction]
  rfl

/-- Without point and exponent, the digits are the value. -/
theorem value_of_whole (hfraction : l.fraction = none) (hexponent : l.exponent = none) :
    l.digits = exponentValue l.whole ∧ l.value = Decimal.sign l.negative * l.digits := by
  refine ⟨?_, ?_⟩
  · rw [digits, hfraction, Option.getD_none, List.append_nil]
  · rw [value, (power_of_whole hfraction hexponent).2, zpow_zero, mul_one]

theorem toInteger?_eq (hfraction : l.fraction = none) (hexponent : l.exponent = none) :
    l.toInteger? =
      if l.negative then (if 0 < l.digits ∧ 2 * l.digits ≤ wordLimit then Decimal.ofParts? true l.digits 0 else none)
      else if l.digits < wordLimit then Decimal.ofParts? false l.digits 0 else none := by
  rw [toInteger?, hfraction, hexponent, (value_of_whole hfraction hexponent).1]
  rfl

/-- What is read as an integer has the value that is written. -/
theorem toRat_of_toInteger? {d : Decimal} (h : l.toInteger? = some d) : d.toRat = l.value := by
  have hwhole : l.fraction = none ∧ l.exponent = none := by
    by_contra hpart
    have hsome : (l.fraction.isSome || l.exponent.isSome) = true := by
      cases hfraction : l.fraction <;> cases hexponent : l.exponent <;> simp_all
    rw [toInteger?, if_pos hsome] at h
    cases h
  have hparts : Decimal.ofParts? l.negative l.digits 0 = some d := by
    rw [toInteger?_eq hwhole.1 hwhole.2] at h
    cases hnegative : l.negative with
    | false =>
      rw [hnegative, if_neg Bool.false_ne_true] at h
      exact (Option.ite_none_right_eq_some.1 h).2
    | true =>
      rw [hnegative, if_pos rfl] at h
      exact (Option.ite_none_right_eq_some.1 h).2
  rw [(value_of_whole hwhole.1 hwhole.2).2]
  unfold Decimal.ofParts? at hparts
  split at hparts
  · cases hparts
    rw [Decimal.toRat_eq_sign_mul, pow_zero, div_one]
  · cases hparts

/-- An integer of 64 bits is read as one, unless it is a zero with a minus sign. -/
theorem Word.toInteger? (h : l.Word) : (∃ d, l.toInteger? = some d) ∨ l.Short := by
  have hfits := h.fits
  have hlimit : wordLimit < Decimal.limit := by decide
  rw [toInteger?_eq h.noFraction h.noExponent]
  cases hnegative : l.negative with
  | false =>
    rw [hnegative, if_neg Bool.false_ne_true] at hfits
    rw [if_neg Bool.false_ne_true, if_pos hfits]
    exact Or.inl ⟨_, dif_pos ⟨hfits.trans hlimit, Nat.zero_le _⟩⟩
  | true =>
    rw [hnegative, if_pos rfl] at hfits
    rw [if_pos rfl]
    by_cases hzero : 0 < l.digits
    · rw [if_pos ⟨hzero, hfits⟩]
      exact Or.inl ⟨_, dif_pos ⟨by omega, Nat.zero_le _⟩⟩
    · obtain ⟨hwritten, hpower⟩ := power_of_whole h.noFraction h.noExponent
      refine Or.inr ⟨by omega, by omega, by omega, ?_⟩
      rw [hwritten]
      decide

/-- **A short literal, and an integer of 64 bits, is read exactly**, if a decimal has its value. -/
theorem toDecimal?_exact (h : l.Short ∨ l.Word) (hvalue : Representable l.value) :
    ∃ d, l.toDecimal? = some d ∧ d.toRat = l.value := by
  cases hinteger : l.toInteger? with
  | some d =>
    refine ⟨d, ?_, toRat_of_toInteger? hinteger⟩
    rw [toDecimal?, hinteger]
  | none =>
    have hshort : l.Short := by
      rcases h with h | h
      · exact h
      · refine h.toInteger?.resolve_left ?_
        rintro ⟨d, hd⟩
        rw [hinteger] at hd
        cases hd
    obtain ⟨x, hx, hshortest⟩ := exists_shortest hshort.digits_lt hshort.neg_le_power hshort.power_le
    rw [value, ← hshortest] at hvalue ⊢
    obtain ⟨d, hd, hread⟩ := Decimal.readPlain?_plainChars hvalue
    refine ⟨d, ?_, hread⟩
    rw [toDecimal?, hinteger]
    dsimp only
    rw [hshort.toBinary64?, hx]
    exact hd

end Literal

end TwoVenue
