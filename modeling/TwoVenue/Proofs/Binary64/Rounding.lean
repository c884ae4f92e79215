import TwoVenue.Binary64.Shortest
import TwoVenue.Proofs.Decimal.Nearest

/-!
# Rounding to binary numbers

A binary number stands for the real numbers that are nearest to it. Every number that is read, multiplied or divided is
the exact one, rounded to the binary number that stands for it.

- `Binary64.toRat`: the exact value.
- `Binary64.Stands x q`: no binary number is nearer to `q` than `x` is. Below a power of two the others are closer.
- `Binary64.stands_of_nearest?`: **rounding finds the number that stands for the exact value**, with all of its 53 bits
  unless the value is very small.
- `Binary64.nearest?_exact`: a value of 53 bits is not changed.
- `Binary64.mul?_eq`, `Binary64.div?_eq`: products and quotients are rounded once.
-/

namespace TwoVenue

/-- What rounds to an odd number is less than a half away from it. -/
theorem abs_sub_roundEven_lt {x : Rat} (h : ¬ Even (roundEven x)) : |x - roundEven x| < 1 / 2 := by
  have hx := Int.floor_add_fract x
  have h0 := Int.fract_nonneg x
  have h1 := Int.fract_lt_one x
  by_cases hdown : Int.fract x < 1 / 2 ∨ (Int.fract x = 1 / 2 ∧ Even ⌊x⌋)
  · rw [roundEven, if_pos hdown] at h ⊢
    have hlt : Int.fract x < 1 / 2 := hdown.elim id fun htie => absurd htie.2 h
    rw [abs_lt]
    constructor <;> linarith
  · rw [roundEven, if_neg hdown] at h ⊢
    have hle : 1 / 2 ≤ Int.fract x := le_of_not_gt fun hlt => hdown (Or.inl hlt)
    have hne : Int.fract x ≠ 1 / 2 := by
      intro htie
      have hodd : ¬ Even ⌊x⌋ := fun heven => hdown (Or.inr ⟨htie, heven⟩)
      exact h (Int.even_add_one.2 hodd)
    have hlt := lt_of_le_of_ne hle (Ne.symm hne)
    push_cast
    rw [abs_lt]
    constructor <;> linarith

theorem abs_sub_roundEven_le (x : Rat) : |x - roundEven x| ≤ 1 / 2 := by
  rw [abs_le]
  constructor
  · linarith [roundEven_le_add_half x]
  · linarith [sub_half_le_roundEven x]

/-- Quotients are compared by products. -/
theorem natCast_div_le_div {a b n d : Nat} (hb : 0 < b) (hd : 0 < d) : (a : Rat) / b ≤ n / d ↔ a * d ≤ n * b := by
  rw [div_le_div_iff₀ (by exact_mod_cast hb) (by exact_mod_cast hd)]
  exact_mod_cast Iff.rfl

theorem natCast_div_lt_div {a b n d : Nat} (hb : 0 < b) (hd : 0 < d) : (a : Rat) / b < n / d ↔ a * d < n * b := by
  rw [← not_le, natCast_div_le_div hd hb, not_le]

namespace Binary64

variable {x y : Binary64} {n d : Nat} {e : Int} {q : Rat}

theorem two_zpow_pos (e : Int) : (0 : Rat) < 2 ^ e := by positivity

theorem significandLimit_cast : ((significandLimit : Nat) : Rat) = 2 ^ (53 : Int) := by
  norm_num [significandLimit]

/-! ## Values -/

/-- The exact value. -/
def toRat (x : Binary64) : Rat := x.significand * 2 ^ x.exponent

theorem scaled_pos (hd : 0 < d) (e : Int) : 0 < (scaled n d e).2 := by
  unfold scaled
  split
  · exact Nat.mul_pos hd (Nat.pow_pos (by decide))
  · exact hd

/-- Scaling divides by a power of two. -/
theorem scaled_value (n d : Nat) (e : Int) : ((scaled n d e).1 : Rat) / (scaled n d e).2 = n / d / 2 ^ e := by
  have hpow : ∀ k : Nat, ((Nat.pow 2 k : Nat) : Rat) = 2 ^ (k : Int) := by
    intro k
    show ((2 ^ k : Nat) : Rat) = _
    push_cast
    rw [zpow_natCast]
  unfold scaled
  split
  · next he =>
    push_cast [hpow]
    rw [Int.toNat_of_nonneg he, div_div]
  · next he =>
    push_cast [hpow]
    rw [Int.toNat_of_nonneg (by omega), zpow_neg]
    field_simp

theorem toFraction_pos (x : Binary64) : 0 < x.toFraction.2 := scaled_pos Nat.one_pos _

theorem toFraction_value (x : Binary64) : (x.toFraction.1 : Rat) / x.toFraction.2 = x.toRat := by
  unfold toFraction
  rw [scaled_value, toRat, zpow_neg, Nat.cast_one, div_one, div_inv_eq_mul]

/-! ## The place of the last bit -/

/-- The quotient of the logarithms is the logarithm of the quotient, or one too large. -/
theorem log2_bounds (hn : 0 < n) (hd : 0 < d) :
    (2 : Rat) ^ ((n.log2 : Int) - d.log2 - 1) < n / d ∧ (n : Rat) / d < 2 ^ ((n.log2 : Int) - d.log2 + 1) := by
  have hd' : (0 : Rat) < d := by exact_mod_cast hd
  have hlow : ∀ {k : Nat}, 0 < k → (2 : Rat) ^ (k.log2 : Int) ≤ k := fun hk => by
    rw [zpow_natCast]
    exact_mod_cast Nat.log2_self_le hk.ne'
  have hhigh : ∀ k : Nat, (k : Rat) < 2 ^ ((k.log2 : Int) + 1) := fun k => by
    have h := Nat.lt_log2_self (n := k)
    have hcast : (k : Rat) < 2 ^ (k.log2 + 1) := by exact_mod_cast h
    rw [← zpow_natCast] at hcast
    exact_mod_cast hcast
  constructor
  · rw [lt_div_iff₀ hd']
    calc (2 : Rat) ^ ((n.log2 : Int) - d.log2 - 1) * d
        < 2 ^ ((n.log2 : Int) - d.log2 - 1) * 2 ^ ((d.log2 : Int) + 1) :=
          mul_lt_mul_of_pos_left (hhigh d) (two_zpow_pos _)
      _ = 2 ^ (n.log2 : Int) := by
          rw [← zpow_add₀ (by norm_num)]
          congr 1
          ring
      _ ≤ n := hlow hn
  · rw [div_lt_iff₀ hd']
    calc (n : Rat) < 2 ^ ((n.log2 : Int) + 1) := hhigh n
      _ = 2 ^ ((n.log2 : Int) - d.log2 + 1) * 2 ^ (d.log2 : Int) := by
          rw [← zpow_add₀ (by norm_num)]
          congr 1
          ring
      _ ≤ 2 ^ ((n.log2 : Int) - d.log2 + 1) * d := mul_le_mul_of_nonneg_left (hlow hd) (two_zpow_pos _).le

/-- Some place has exactly 53 bits before it, and it is the last one unless it is too small. -/
theorem exists_lastPlace (hn : 0 < n) (hd : 0 < d) :
    ∃ e, lastPlace n d = max minExponent e ∧ (2 : Rat) ^ (52 : Int) ≤ n / d / 2 ^ e ∧
      (n : Rat) / d / 2 ^ e < 2 ^ (53 : Int) := by
  obtain ⟨hlow, hhigh⟩ := log2_bounds hn hd
  have hunfold : lastPlace n d = max minExponent
      (if (scaled n d ((n.log2 : Int) - d.log2 - 53)).1 <
        (scaled n d ((n.log2 : Int) - d.log2 - 53)).2 * significandLimit
      then (n.log2 : Int) - d.log2 - 53 else (n.log2 : Int) - d.log2 - 53 + 1) := rfl
  rw [hunfold]
  have hlow' : (2 : Rat) ^ (52 : Int) < n / d / 2 ^ ((n.log2 : Int) - d.log2 - 53) := by
    rw [lt_div_iff₀ (two_zpow_pos _), ← zpow_add₀ (by norm_num)]
    rwa [show (52 : Int) + ((n.log2 : Int) - d.log2 - 53) = (n.log2 : Int) - d.log2 - 1 by ring]
  have hhigh' : (n : Rat) / d / 2 ^ ((n.log2 : Int) - d.log2 - 53) < 2 ^ (54 : Int) := by
    rw [div_lt_iff₀ (two_zpow_pos _), ← zpow_add₀ (by norm_num)]
    rwa [show (54 : Int) + ((n.log2 : Int) - d.log2 - 53) = (n.log2 : Int) - d.log2 + 1 by ring]
  generalize (n.log2 : Int) - d.log2 - 53 = guess at hlow' hhigh' ⊢
  have hfits : (scaled n d guess).1 < (scaled n d guess).2 * significandLimit ↔
      (n : Rat) / d / 2 ^ guess < 2 ^ (53 : Int) := by
    have hpos : (0 : Rat) < (scaled n d guess).2 := by exact_mod_cast scaled_pos hd guess
    rw [← scaled_value n d guess, div_lt_iff₀ hpos, ← significandLimit_cast, mul_comm]
    exact_mod_cast Iff.rfl
  by_cases h : (n : Rat) / d / 2 ^ guess < 2 ^ (53 : Int)
  · exact ⟨guess, by rw [if_pos (hfits.2 h)], hlow'.le, h⟩
  · have hhalf : (n : Rat) / d / 2 ^ (guess + 1) = n / d / 2 ^ guess / 2 := by
      rw [zpow_add_one₀ (by norm_num), ← div_div]
    have hle := not_lt.1 h
    refine ⟨guess + 1, by rw [if_neg (mt hfits.1 h)], ?_, ?_⟩
    · rw [hhalf, le_div_iff₀ (by norm_num)]
      norm_num at hle ⊢
      exact hle
    · rw [hhalf, div_lt_iff₀ (by norm_num)]
      norm_num at hhigh' ⊢
      exact hhigh'

/-- There are 53 bits before the last place at most, and just as many unless the exponent is the least one. -/
theorem lastPlace_spec (hn : 0 < n) (hd : 0 < d) :
    (n : Rat) / d / 2 ^ lastPlace n d < 2 ^ (53 : Int) ∧
      (lastPlace n d = minExponent ∨ (2 : Rat) ^ (52 : Int) ≤ n / d / 2 ^ lastPlace n d) := by
  obtain ⟨e, he, hlow, hhigh⟩ := exists_lastPlace hn hd
  rw [he]
  rcases le_total e minExponent with hle | hle
  · rw [max_eq_left hle]
    refine ⟨lt_of_le_of_lt ?_ hhigh, Or.inl rfl⟩
    exact div_le_div_of_nonneg_left (by positivity) (two_zpow_pos _) (zpow_le_zpow_right₀ (by norm_num) hle)
  · rw [max_eq_right hle]
    exact ⟨hhigh, Or.inr hlow⟩

/-! ## The numbers that a binary number stands for -/

/-- Whether the next number below is only half as far as the next one above. -/
def Narrow (x : Binary64) : Prop := 2 * x.significand = significandLimit ∧ minExponent < x.exponent

instance (x : Binary64) : Decidable x.Narrow := inferInstanceAs (Decidable (_ ∧ _))

/-- How far below a number its neighbourhood begins, in units of the last place. -/
def reach (x : Binary64) : Rat := if x.Narrow then 1 / 4 else 1 / 2

/-- Whether no binary number is nearer to `q` than `x` is. Of two equally near ones the even one is meant. -/
def Stands (x : Binary64) (q : Rat) : Prop :=
  if x.significand % 2 = 0 then
    x.significand - x.reach ≤ q / 2 ^ x.exponent ∧ q / 2 ^ x.exponent ≤ x.significand + 1 / 2
  else x.significand - x.reach < q / 2 ^ x.exponent ∧ q / 2 ^ x.exponent < x.significand + 1 / 2

/-- The number with all of its 53 bits in use. -/
def Normal (x : Binary64) : Prop := significandLimit / 2 ≤ x.significand

theorem reach_mem (x : Binary64) : x.reach = 1 / 4 ∨ x.reach = 1 / 2 := by
  unfold reach
  split
  · exact Or.inl rfl
  · exact Or.inr rfl

theorem half_significandLimit : ((significandLimit / 2 : Nat) : Rat) = 2 ^ (52 : Int) := by
  norm_num [significandLimit]

/-- The multiple of `2 ^ e` that rounding finds. -/
theorem halfEven_scaled (n : Nat) (hd : 0 < d) (e : Int) :
    ((halfEven (scaled n d e).1 (scaled n d e).2 : Nat) : Int) = roundEven (n / d / 2 ^ e) := by
  rw [halfEven_eq _ (scaled_pos hd e), scaled_value]

/-- A multiple of `2 ^ e` that is nearest stands for the value, if below a power of two the value is not nearer. -/
theorem stands_of_roundEven {m : Nat} {v : Rat} (hm : (m : Int) = roundEven (v / 2 ^ e))
    (hlow : e = minExponent ∨ (2 : Rat) ^ (52 : Int) ≤ v / 2 ^ e) : Stands ⟨m, e⟩ v := by
  have hcast : ((roundEven (v / 2 ^ e) : Int) : Rat) = m := by
    rw [← hm, Int.cast_natCast]
  have hle := abs_le.1 (abs_sub_roundEven_le (v / 2 ^ e))
  rw [hcast] at hle
  have hbelow : (m : Rat) - reach ⟨m, e⟩ ≤ v / 2 ^ e := by
    by_cases hnarrow : Narrow ⟨m, e⟩
    · have hvalue : (2 : Rat) ^ (52 : Int) ≤ v / 2 ^ e := hlow.resolve_left hnarrow.2.ne'
      have hpower : (m : Rat) = 2 ^ (52 : Int) := by
        rw [← half_significandLimit, ← hnarrow.1, Nat.mul_div_cancel_left _ (by decide)]
      rw [reach, if_pos hnarrow]
      linarith
    · rw [reach, if_neg hnarrow]
      linarith
  unfold Stands
  split
  · exact ⟨hbelow, by linarith⟩
  · next hodd =>
    -- an odd number is no power of two, and no tie is rounded to it
    have hnarrow : ¬ Narrow ⟨m, e⟩ := by
      rintro ⟨hpower, -⟩
      have hpower : 2 * m = significandLimit := hpower
      have hodd : ¬ m % 2 = 0 := hodd
      rw [significandLimit] at hpower
      omega
    have hnotEven : ¬ Even (roundEven (v / 2 ^ e)) := by
      rw [← hm, Int.even_coe_nat, Nat.even_iff]
      exact hodd
    have hlt := abs_lt.1 (abs_sub_roundEven_lt hnotEven)
    rw [hcast] at hlt
    rw [reach, if_neg hnarrow]
    exact ⟨by linarith, by linarith⟩

/-- Rounding up to 54 bits leads to a power of two, which stands for the value. -/
theorem stands_of_carry {v : Rat} (hle : (2 : Rat) ^ (53 : Int) - 1 / 2 ≤ v / 2 ^ e)
    (hlt : v / 2 ^ e < 2 ^ (53 : Int)) : Stands ⟨significandLimit / 2, e + 1⟩ v := by
  have hhalf : v / 2 ^ (e + 1) = v / 2 ^ e / 2 := by
    rw [zpow_add_one₀ (by norm_num), ← div_div]
  have hreach : (1 : Rat) / 4 ≤ reach ⟨significandLimit / 2, e + 1⟩ := by
    rcases reach_mem ⟨significandLimit / 2, e + 1⟩ with h | h
    · exact h.ge
    · rw [h]
      norm_num
  have heven : significandLimit / 2 % 2 = 0 := by decide
  unfold Stands
  dsimp only
  rw [if_pos heven, hhalf, half_significandLimit]
  norm_num at hle hlt ⊢
  constructor
  · linarith
  · linarith

/-- **Rounding finds the number that stands for the exact value**, with all of its bits unless the exponent is the least
one. -/
theorem stands_of_roundedAt? (hd : 0 < d) (hhigh : (n : Rat) / d / 2 ^ e < 2 ^ (53 : Int))
    (hlow : e = minExponent ∨ (2 : Rat) ^ (52 : Int) ≤ n / d / 2 ^ e) (h : roundedAt? n d e = some x) :
    x.Stands ((n : Rat) / d) ∧ (x.exponent = minExponent ∨ x.Normal) := by
  have hm := halfEven_scaled n hd e
  unfold roundedAt? at h
  dsimp only at h
  generalize halfEven (scaled n d e).1 (scaled n d e).2 = m at h hm
  obtain ⟨-, rfl⟩ := Option.ite_some_none_eq_some.1 h
  by_cases hbits : m < significandLimit
  · rw [if_pos hbits]
    refine ⟨stands_of_roundEven hm hlow, hlow.imp_right fun hvalue => ?_⟩
    have hlarge : ((significandLimit / 2 : Nat) : Int) ≤ roundEven ((n : Rat) / d / 2 ^ e) := by
      refine le_roundEven ?_
      rw [Int.cast_natCast, half_significandLimit]
      linarith
    rw [← hm] at hlarge
    exact_mod_cast hlarge
  · rw [if_neg hbits]
    refine ⟨stands_of_carry ?_ hhigh, Or.inr le_rfl⟩
    have hle := roundEven_le_add_half ((n : Rat) / d / 2 ^ e)
    have hcarry : ((significandLimit : Nat) : Rat) ≤ m := by exact_mod_cast not_lt.1 hbits
    rw [← hm, Int.cast_natCast] at hle
    rw [significandLimit_cast] at hcarry
    linarith

theorem stands_of_nearest? (hn : 0 < n) (hd : 0 < d) (h : nearest? n d = some x) :
    x.Stands ((n : Rat) / d) ∧ (x.exponent = minExponent ∨ x.Normal) := by
  obtain ⟨hhigh, hlow⟩ := lastPlace_spec hn hd
  rw [nearest?, if_neg hn.ne'] at h
  exact stands_of_roundedAt? hd hhigh hlow h

/-! ## Values in range and values of 53 bits -/

/-- A value that is not very large rounds to a number. -/
theorem exists_nearest? (hd : 0 < d) (h : (n : Rat) / d < 2 ^ (1000 : Int)) : ∃ x, nearest? n d = some x := by
  by_cases hn : n = 0
  · exact ⟨zero, if_pos hn⟩
  · obtain ⟨e, he, hlow, -⟩ := exists_lastPlace (Nat.pos_of_ne_zero hn) hd
    have hsmall : e < 948 := by
      rw [le_div_iff₀ (two_zpow_pos _), ← zpow_add₀ (by norm_num)] at hlow
      have hexponent := (zpow_lt_zpow_iff_right₀ (by norm_num)).1 (hlow.trans_lt h)
      omega
    have hlast : lastPlace n d < maxExponent := by
      rw [he]
      exact max_lt (by decide) (hsmall.trans (by decide))
    rw [nearest?, if_neg hn, roundedAt?, if_pos]
    · exact ⟨_, rfl⟩
    · split
      · exact hlast.le
      · exact hlast

theorem Stands.le (h : x.Stands q) : q / 2 ^ x.exponent ≤ x.significand + 1 / 2 := by
  unfold Stands at h
  split at h
  · exact h.2
  · exact h.2.le

/-- What stands for a value that is not very small uses all of its bits. -/
theorem Stands.normal (h : x.Stands q) (hbits : x.exponent = minExponent ∨ x.Normal) (hq : 2 ^ (-1021 : Int) ≤ q) :
    x.Normal := by
  rcases hbits with hmin | hnormal
  · have hle := h.le
    have hlow : (2 : Rat) ^ (53 : Int) ≤ q / 2 ^ x.exponent := by
      rw [le_div_iff₀ (two_zpow_pos _), ← zpow_add₀ (by norm_num), hmin]
      exact hq
    have hcast : ((significandLimit : Nat) : Rat) ≤ ((x.significand + 1 : Nat) : Rat) := by
      rw [significandLimit_cast]
      push_cast
      linarith
    have hcast' : significandLimit ≤ x.significand + 1 := by exact_mod_cast hcast
    have hhalf : significandLimit / 2 + 1 ≤ significandLimit := by decide
    unfold Normal
    omega
  · exact hnormal

/-- **Every value that is neither very large nor very small has a binary number that stands for it**, and rounding finds
it. -/
theorem exists_stands (hd : 0 < d) (hlow : 2 ^ (-1021 : Int) ≤ (n : Rat) / d)
    (hhigh : (n : Rat) / d < 2 ^ (1000 : Int)) : ∃ x, nearest? n d = some x ∧ x.Stands (n / d) ∧ x.Normal := by
  have hn : 0 < n := by
    by_contra hzero
    rw [Nat.eq_zero_of_not_pos hzero, Nat.cast_zero, zero_div] at hlow
    exact absurd hlow (not_le.2 (two_zpow_pos _))
  obtain ⟨x, hx⟩ := exists_nearest? hd hhigh
  obtain ⟨hstands, hbits⟩ := stands_of_nearest? hn hd hx
  exact ⟨x, hx, hstands, hstands.normal hbits hlow⟩

/-- A value of 53 bits has nothing behind the last place. -/
theorem exists_natCast_of_bits {m : Nat} {k : Int} {v : Rat} (hm : m < significandLimit) (hk : minExponent ≤ k)
    (hv : v = m * 2 ^ k) (hlow : e = minExponent ∨ (2 : Rat) ^ (52 : Int) ≤ v / 2 ^ e) : ∃ j : Nat, v / 2 ^ e = j := by
  have hquotient : v / 2 ^ e = m * 2 ^ (k - e) := by
    rw [hv, mul_div_assoc, ← zpow_sub₀ (by norm_num)]
  by_cases hle : e ≤ k
  · obtain ⟨j, hj⟩ := Int.eq_ofNat_of_zero_le (Int.sub_nonneg_of_le hle)
    refine ⟨m * 2 ^ j, ?_⟩
    rw [hquotient, hj]
    push_cast
    rw [zpow_natCast]
  · -- the significand would have too many bits
    have hvalue : (2 : Rat) ^ (52 : Int) ≤ v / 2 ^ e := hlow.resolve_left fun heq => hle (heq ▸ hk)
    have hpower : (2 : Rat) ^ (k - e) ≤ 2 ^ (-1 : Int) := zpow_le_zpow_right₀ (by norm_num) (by omega)
    have hcast : (m : Rat) < significandLimit := by exact_mod_cast hm
    have hproduct : (m : Rat) * 2 ^ (k - e) ≤ m * 2 ^ (-1 : Int) := mul_le_mul_of_nonneg_left hpower (Nat.cast_nonneg m)
    rw [hquotient] at hvalue
    rw [significandLimit_cast] at hcast
    norm_num only at hcast hvalue hproduct
    linarith

/-- **A value of 53 bits is not changed.** -/
theorem nearest?_exact {m : Nat} {k : Int} (hd : 0 < d) (hm : m < significandLimit) (hk : minExponent ≤ k)
    (hv : (n : Rat) / d = m * 2 ^ k) (h : nearest? n d = some x) : x.toRat = n / d := by
  by_cases hn : n = 0
  · rw [nearest?, if_pos hn] at h
    cases h
    rw [hn]
    simp [toRat, zero]
  · obtain ⟨hhigh, hlow⟩ := lastPlace_spec (Nat.pos_of_ne_zero hn) hd
    rw [nearest?, if_neg hn, roundedAt?] at h
    generalize lastPlace n d = e at h hhigh hlow
    obtain ⟨j, hj⟩ := exists_natCast_of_bits hm hk hv hlow
    have hrounded : halfEven (scaled n d e).1 (scaled n d e).2 = j := by
      have hround := halfEven_scaled n hd e
      have hinteger : roundEven (j : Rat) = j := by exact_mod_cast roundEven_intCast (j : Int)
      rw [hj, hinteger] at hround
      exact_mod_cast hround
    have hbits : j < significandLimit := by
      rw [hj, ← significandLimit_cast] at hhigh
      exact_mod_cast hhigh
    rw [hrounded, if_pos hbits] at h
    obtain ⟨-, rfl⟩ := Option.ite_some_none_eq_some.1 h
    rw [toRat, ← hj]
    exact div_mul_cancel₀ _ (two_zpow_pos e).ne'

/-! ## Products and quotients -/

/-- A product is the exact one, rounded once. -/
theorem mul?_eq (x y : Binary64) :
    ∃ n d : Nat, 0 < d ∧ (n : Rat) / d = x.toRat * y.toRat ∧ x.mul? y = nearest? n d := by
  refine ⟨_, _, Nat.mul_pos x.toFraction_pos y.toFraction_pos, ?_, rfl⟩
  push_cast
  rw [mul_div_mul_comm, toFraction_value, toFraction_value]

/-- A quotient is the exact one, rounded once. -/
theorem div?_eq (x : Binary64) (hy : y.toRat ≠ 0) :
    ∃ n d : Nat, 0 < d ∧ (n : Rat) / d = x.toRat / y.toRat ∧ x.div? y = nearest? n d := by
  have htop : y.toFraction.1 ≠ 0 := by
    intro hzero
    rw [← toFraction_value, hzero, Nat.cast_zero, zero_div] at hy
    exact hy rfl
  refine ⟨_, _, Nat.mul_pos x.toFraction_pos (Nat.pos_of_ne_zero htop), ?_, rfl⟩
  push_cast
  rw [← toFraction_value x, ← toFraction_value y, div_div_div_eq]

end Binary64

end TwoVenue
