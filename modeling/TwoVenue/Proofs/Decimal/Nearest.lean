import TwoVenue.Proofs.Decimal.Value

/-!
# Rounding exact values to decimals

Every operation on decimals is the exact one followed by one rounding, and the rounding depends on the exact value
alone. This is the function that does it, on rational numbers and without regard to how a value is written.

- `roundEven x`: the integer nearest to `x`, a tie going to the even neighbour.
- `finestScale x`: the finest grid, of at most 28 places, on which `x` still rounds to 96 bits.
- `nearest x`: `x` rounded on that grid.
- `nearest_mono`, `nearest_neg`, `nearest_toRat`: **the three laws of the rounding**. It keeps order, it is
  symmetric, and it leaves decimals alone. So a comparison of an exact value with a decimal survives the rounding,
  whatever digits are dropped.
-/

namespace TwoVenue

/-! ## Rounding to an integer -/

/-- The integer nearest to `x`; a tie goes to the even neighbour. -/
def roundEven (x : Rat) : Int :=
  if Int.fract x < 1 / 2 ∨ (Int.fract x = 1 / 2 ∧ Even ⌊x⌋) then ⌊x⌋ else ⌊x⌋ + 1

theorem roundEven_intCast (n : Int) : roundEven n = n := by
  unfold roundEven
  rw [Int.fract_intCast, Int.floor_intCast, if_pos (Or.inl (by norm_num))]

theorem sub_half_le_roundEven (x : Rat) : x - 1 / 2 ≤ roundEven x := by
  have hx := Int.floor_add_fract x
  have h1 := Int.fract_lt_one x
  unfold roundEven
  split
  · next h =>
    have : Int.fract x ≤ 1 / 2 := h.elim le_of_lt (fun h => h.1.le)
    linarith
  · push_cast
    linarith

theorem roundEven_le_add_half (x : Rat) : roundEven x ≤ x + 1 / 2 := by
  have hx := Int.floor_add_fract x
  have h0 := Int.fract_nonneg x
  unfold roundEven
  split
  · linarith
  · next h =>
    have : 1 / 2 ≤ Int.fract x := le_of_not_gt fun h' => h (Or.inl h')
    push_cast
    linarith

/-- Less than half below an integer, rounding reaches it at least. -/
theorem le_roundEven {n : Int} {x : Rat} (h : (n : Rat) - 1 / 2 < x) : n ≤ roundEven x := by
  have h1 := sub_half_le_roundEven x
  have h2 : ((n - 1 : Int) : Rat) < roundEven x := by push_cast; linarith
  have h3 : n - 1 < roundEven x := by exact_mod_cast h2
  omega

/-- Less than half above an integer, rounding reaches it at most. -/
theorem roundEven_le {n : Int} {x : Rat} (h : x < (n : Rat) + 1 / 2) : roundEven x ≤ n := by
  have h1 := roundEven_le_add_half x
  have h2 : (roundEven x : Rat) < ((n + 1 : Int) : Rat) := by push_cast; linarith
  have h3 : roundEven x < n + 1 := by exact_mod_cast h2
  omega

theorem roundEven_mono {x y : Rat} (h : x ≤ y) : roundEven x ≤ roundEven y := by
  rcases (Int.floor_le_floor h).lt_or_eq with hlt | heq
  · -- an integer lies between the two
    have h1 : roundEven x ≤ ⌊x⌋ + 1 := by
      unfold roundEven
      split <;> omega
    have h2 : ⌊y⌋ ≤ roundEven y := by
      unfold roundEven
      split <;> omega
    omega
  · have hf : Int.fract x ≤ Int.fract y := by
      have hx := Int.floor_add_fract x
      have hy := Int.floor_add_fract y
      rw [heq] at hx
      linarith
    unfold roundEven
    rw [heq]
    split
    · split <;> omega
    · next hx =>
      -- what lets `y` stay below would have let `x` stay below
      have hy : ¬ (Int.fract y < 1 / 2 ∨ (Int.fract y = 1 / 2 ∧ Even ⌊y⌋)) := by
        rintro (hy | ⟨hy, he⟩)
        · exact hx (Or.inl (lt_of_le_of_lt hf hy))
        · rcases hf.lt_or_eq with hlt | hfe
          · exact hx (Or.inl (hlt.trans_eq hy))
          · exact hx (Or.inr ⟨hfe.trans hy, he⟩)
      rw [if_neg hy]

theorem roundEven_neg (x : Rat) : roundEven (-x) = -roundEven x := by
  by_cases hz : Int.fract x = 0
  · obtain ⟨n, rfl⟩ : ∃ n : Int, (n : Rat) = x := Int.fract_eq_zero_iff.1 hz
    rw [← Int.cast_neg, roundEven_intCast, roundEven_intCast]
  · have hpos : 0 < Int.fract x := lt_of_le_of_ne (Int.fract_nonneg x) (Ne.symm hz)
    have hfloor : ⌊-x⌋ = -⌊x⌋ - 1 := by
      have hx := Int.floor_add_fract x
      have h1 := Int.fract_lt_one x
      rw [Int.floor_eq_iff]
      push_cast
      exact ⟨by linarith, by linarith⟩
    have hfract : Int.fract (-x) = 1 - Int.fract x := Int.fract_neg hz
    unfold roundEven
    rw [hfloor, hfract]
    rcases lt_trichotomy (Int.fract x) (1 / 2) with h | h | h
    · rw [if_neg (by rintro (h' | ⟨h', -⟩) <;> linarith), if_pos (Or.inl h)]
      ring
    · by_cases he : Even ⌊x⌋
      · rw [if_neg, if_pos (Or.inr ⟨h, he⟩)]
        · ring
        · rintro (h' | ⟨-, h'⟩)
          · linarith
          · obtain ⟨k, hk⟩ := he
            obtain ⟨l, hl⟩ := h'
            omega
      · rw [if_pos, if_neg]
        · ring
        · rintro (h' | ⟨-, h'⟩)
          · linarith
          · exact he h'
        · refine Or.inr ⟨by linarith, ?_⟩
          obtain ⟨k, hk⟩ := Int.not_even_iff_odd.1 he
          exact ⟨-k - 1, by omega⟩
    · rw [if_pos (Or.inl (by linarith)), if_neg (by rintro (h' | ⟨h', -⟩) <;> linarith)]
      ring

theorem roundEven_nonneg {x : Rat} (h : 0 ≤ x) : 0 ≤ roundEven x :=
  le_roundEven (by push_cast; linarith)

/-- Half below an even integer, rounding already goes up to it. -/
theorem lt_of_roundEven_lt {n : Int} {x : Rat} (hn : Even n) (h : roundEven x < n) : x < n - 1 / 2 := by
  by_contra hle
  have htie : roundEven ((n : Rat) - 1 / 2) = n := by
    have hfloor : ⌊(n : Rat) - 1 / 2⌋ = n - 1 := by
      rw [Int.floor_eq_iff]
      push_cast
      exact ⟨by linarith, by linarith⟩
    have hodd : ¬ Even (n - 1) := by
      rw [Int.not_even_iff_odd]
      exact hn.sub_odd odd_one
    unfold roundEven Int.fract
    rw [hfloor, if_neg]
    · ring
    · rintro (h' | ⟨-, h'⟩)
      · push_cast at h'
        linarith
      · exact hodd h'
  have := roundEven_mono (Rat.not_lt.1 hle)
  omega

/-- The rounded quotient of two natural numbers. -/
theorem halfEven_eq (n : Nat) {d : Nat} (hd : 0 < d) :
    ((halfEven n d : Nat) : Int) = roundEven ((n : Rat) / d) := by
  have hd' : (0 : Rat) < d := by exact_mod_cast hd
  have hfloor : ⌊(n : Rat) / d⌋ = ((n / d : Nat) : Int) := by
    rw [Rat.floor_natCast_div_natCast]
    exact (Int.natCast_ediv n d).symm
  have hfract : Int.fract ((n : Rat) / d) = ((n % d : Nat) : Rat) / d := by
    have h1 : (n : Rat) = d * ((n / d : Nat) : Rat) + ((n % d : Nat) : Rat) := by
      exact_mod_cast (Nat.div_add_mod n d).symm
    rw [Int.fract, hfloor, Int.cast_natCast, eq_div_iff hd'.ne', sub_mul, div_mul_cancel₀ _ hd'.ne']
    linarith
  have hlt : Int.fract ((n : Rat) / d) < 1 / 2 ↔ 2 * (n % d) < d := by
    rw [hfract, div_lt_div_iff₀ hd' (by norm_num)]
    constructor
    · intro h
      have : ((2 * (n % d) : Nat) : Rat) < d := by push_cast; linarith
      exact_mod_cast this
    · intro h
      have : ((2 * (n % d) : Nat) : Rat) < d := by exact_mod_cast h
      push_cast at this
      linarith
  have heq : Int.fract ((n : Rat) / d) = 1 / 2 ↔ 2 * (n % d) = d := by
    rw [hfract, div_eq_div_iff hd'.ne' (by norm_num)]
    constructor
    · intro h
      have : ((2 * (n % d) : Nat) : Rat) = d := by push_cast; linarith
      exact_mod_cast this
    · intro h
      have : ((2 * (n % d) : Nat) : Rat) = d := by exact_mod_cast h
      push_cast at this
      linarith
  unfold roundEven halfEven
  rw [hfloor]
  simp only [hlt, heq, Int.even_coe_nat, Nat.even_iff]
  split <;> simp

namespace Decimal

theorem limit_cast : (limit : Rat) = 79228162514264337593543950336 := by norm_num [limit]

theorem even_limit : Even (limit : Int) := by decide

/-! ## The finest grid -/

/-- Whether `x` rounds to an integer of 96 bits on the grid of `s` places. -/
def Fits (x : Rat) (s : Nat) : Prop := |x| * 10 ^ s < limit - 1 / 2

instance (x : Rat) : DecidablePred (Fits x) := fun s =>
  inferInstanceAs (Decidable (|x| * 10 ^ s < limit - 1 / 2))

/-- The finest grid on which `x` rounds to 96 bits. -/
def finestScale (x : Rat) : Nat := Nat.findGreatest (Fits x) maxScale

theorem Fits.of_le {x y : Rat} {s t : Nat} (h : Fits y t) (hs : s ≤ t) (hx : |x| ≤ |y|) : Fits x s :=
  lt_of_le_of_lt
    (mul_le_mul hx (pow_le_pow_right₀ (by norm_num) hs) (ten_pow_pos s).le (abs_nonneg y)) h

theorem finestScale_le (x : Rat) : finestScale x ≤ maxScale := Nat.findGreatest_le _

theorem le_finestScale {x : Rat} {s : Nat} (hs : s ≤ maxScale) (h : Fits x s) : s ≤ finestScale x :=
  Nat.le_findGreatest hs h

theorem fits_finestScale {x : Rat} (h : finestScale x ≠ 0) : Fits x (finestScale x) :=
  Nat.findGreatest_of_ne_zero rfl h

theorem not_fits_of_finestScale_lt {x : Rat} {s : Nat} (h : finestScale x < s) (hs : s ≤ maxScale) :
    ¬ Fits x s :=
  Nat.findGreatest_is_greatest h hs

/-- A grid on which `x` fits is the finest one if no place is left, or if `x` does not fit with one place more. -/
theorem finestScale_eq {x : Rat} {s : Nat} (hs : s ≤ maxScale) (h : Fits x s)
    (hmax : s = maxScale ∨ ¬ Fits x (s + 1)) : finestScale x = s := by
  refine le_antisymm ?_ (le_finestScale hs h)
  rcases hmax with rfl | hmax
  · exact finestScale_le x
  · by_contra hlt
    have hne : finestScale x ≠ 0 := by omega
    exact hmax ((fits_finestScale hne).of_le (by omega) le_rfl)

theorem finestScale_anti {x y : Rat} (h : |x| ≤ |y|) : finestScale y ≤ finestScale x := by
  by_cases hy : finestScale y = 0
  · omega
  · exact le_finestScale (finestScale_le y) ((fits_finestScale hy).of_le le_rfl h)

/-! ## The rounding -/

/-- `x`, rounded half to even on the finest grid that holds it. -/
def nearest (x : Rat) : Rat := roundEven (x * 10 ^ finestScale x) / 10 ^ finestScale x

theorem nearest_of_finest {x : Rat} {s : Nat} (hs : s ≤ maxScale) (h : Fits x s)
    (hmax : s = maxScale ∨ ¬ Fits x (s + 1)) : nearest x = roundEven (x * 10 ^ s) / 10 ^ s := by
  unfold nearest
  rw [finestScale_eq hs h hmax]

/-- In the last half below the limit rounding carries the digits to the limit, so one digit more goes. -/
theorem nearest_of_carry {x : Rat} {s : Nat} (hx : 0 ≤ x) (hs : s + 1 ≤ maxScale)
    (hlow : (limit : Rat) - 1 / 2 ≤ x * 10 ^ (s + 1)) (hhigh : x * 10 ^ (s + 1) < limit) :
    nearest x = carried / 10 ^ s := by
  have hcarried : (carried : Rat) = 7922816251426433759354395034 := by
    have : carried = 7922816251426433759354395034 := by decide
    rw [this]
    norm_num
  have hpow : x * 10 ^ (s + 1) = x * 10 ^ s * 10 := by rw [pow_succ, mul_assoc]
  have hnot : ¬ Fits x (s + 1) := by
    unfold Fits
    rw [abs_of_nonneg hx]
    exact Rat.not_lt.2 hlow
  rw [limit_cast] at hlow hhigh
  have hfits : Fits x s := by
    unfold Fits
    rw [abs_of_nonneg hx, limit_cast]
    linarith
  have hround : roundEven (x * 10 ^ s) = 7922816251426433759354395034 := by
    refine le_antisymm (roundEven_le ?_) (le_roundEven ?_) <;> push_cast <;> linarith
  rw [nearest_of_finest (by omega) hfits (Or.inr hnot), hround, hcarried]
  norm_num

theorem nearest_neg (x : Rat) : nearest (-x) = -nearest x := by
  have hs : finestScale (-x) = finestScale x :=
    le_antisymm (finestScale_anti (abs_neg x).ge) (finestScale_anti (abs_neg x).le)
  unfold nearest
  rw [hs, neg_mul, roundEven_neg]
  push_cast
  ring

/-- What is an integer on some grid that holds it is not changed. -/
theorem nearest_eq_self {x : Rat} {s : Nat} {n : Int} (hs : s ≤ maxScale) (h : Fits x s)
    (hn : x * 10 ^ s = n) : nearest x = x := by
  obtain ⟨j, hj⟩ := Nat.exists_eq_add_of_le (le_finestScale hs h)
  have hint : x * 10 ^ finestScale x = ((n * 10 ^ j : Int) : Rat) := by
    rw [hj, pow_add, ← mul_assoc, hn]
    push_cast
    rfl
  unfold nearest
  rw [hint, roundEven_intCast, ← hint]
  exact mul_div_cancel_right₀ _ (ten_pow_pos _).ne'

/-- An integer on a grid fits there if it has 96 bits. -/
theorem fits_of_lt {x : Rat} {s : Nat} {n : Int} (hn : x * 10 ^ s = n) (hlt : |x| * 10 ^ s < limit) : Fits x s := by
  have habs : |x| * 10 ^ s = ((|n| : Int) : Rat) := by
    rw [Int.cast_abs, ← hn, abs_mul, abs_of_pos (ten_pow_pos s)]
  rw [habs] at hlt
  have hlt' : |n| < (limit : Int) := by exact_mod_cast hlt
  have hle : ((|n| : Int) : Rat) ≤ ((limit : Int) : Rat) - 1 := by exact_mod_cast Int.le_sub_one_of_lt hlt'
  unfold Fits
  rw [habs]
  rw [Int.cast_natCast] at hle
  linarith

theorem fits_toRat (d : Decimal) : Fits d.toRat d.scale := by
  have h : (d.mantissa : Rat) + 1 ≤ limit := by exact_mod_cast d.mantissa_lt
  unfold Fits
  rw [abs_toRat_mul_pow_scale]
  linarith

/-- Decimals are not changed. -/
@[simp] theorem nearest_toRat (d : Decimal) : nearest d.toRat = d.toRat :=
  nearest_eq_self d.scale_le (fits_toRat d) d.mul_pow_scale

theorem nearest_zero : nearest 0 = 0 := by
  simpa using nearest_toRat 0

theorem nearest_one : nearest 1 = 1 := by
  simpa using nearest_toRat 1

theorem nearest_nonneg {x : Rat} (h : 0 ≤ x) : 0 ≤ nearest x := by
  have h1 : 0 ≤ roundEven (x * 10 ^ finestScale x) := roundEven_nonneg (by positivity)
  have h2 : (0 : Rat) ≤ roundEven (x * 10 ^ finestScale x) := by exact_mod_cast h1
  exact div_nonneg h2 (ten_pow_pos _).le

/-- Where the larger value needs a coarser grid, its rounding is past everything on the finer one. -/
theorem nearest_le_of_coarser {x y : Rat} (hx : 0 ≤ x) (hy : 0 ≤ y) (h : finestScale y < finestScale x) :
    nearest x ≤ nearest y := by
  have hfx := fits_finestScale (x := x) (by omega)
  have hfy := not_fits_of_finestScale_lt (Nat.lt_succ_self _)
    (le_trans (Nat.succ_le_of_lt h) (finestScale_le x))
  set g := finestScale x with hg
  set t := finestScale y with ht
  unfold Fits at hfx hfy
  rw [abs_of_nonneg hx] at hfx
  rw [abs_of_nonneg hy, Rat.not_lt, pow_succ, ← mul_assoc] at hfy
  rw [limit_cast] at hfx hfy
  have h1 : roundEven (x * 10 ^ g) ≤ 79228162514264337593543950335 :=
    roundEven_le (by push_cast; linarith)
  have h2 : 7922816251426433759354395034 ≤ roundEven (y * 10 ^ t) :=
    le_roundEven (by push_cast; linarith)
  have h1' : (roundEven (x * 10 ^ g) : Rat) ≤ 79228162514264337593543950335 := by exact_mod_cast h1
  have h2' : (7922816251426433759354395034 : Rat) ≤ roundEven (y * 10 ^ t) := by exact_mod_cast h2
  have hpow : (10 : Rat) ^ (t + 1) ≤ 10 ^ g := pow_le_pow_right₀ (by norm_num) h
  calc nearest x
      = roundEven (x * 10 ^ g) / 10 ^ g := rfl
    _ ≤ 79228162514264337593543950335 / 10 ^ g := by gcongr
    _ ≤ 79228162514264337593543950335 / 10 ^ (t + 1) := by gcongr
    _ ≤ 7922816251426433759354395034 / 10 ^ t := by
        rw [div_le_div_iff₀ (ten_pow_pos _) (ten_pow_pos _), pow_succ]
        linarith [ten_pow_pos t]
    _ ≤ roundEven (y * 10 ^ t) / 10 ^ t := by gcongr
    _ = nearest y := rfl

theorem nearest_mono_of_nonneg {x y : Rat} (hx : 0 ≤ x) (h : x ≤ y) : nearest x ≤ nearest y := by
  have hy := hx.trans h
  have hanti : finestScale y ≤ finestScale x :=
    finestScale_anti (by rwa [abs_of_nonneg hx, abs_of_nonneg hy])
  rcases hanti.lt_or_eq with hlt | heq
  · exact nearest_le_of_coarser hx hy hlt
  · unfold nearest
    rw [heq]
    have hr : roundEven (x * 10 ^ finestScale x) ≤ roundEven (y * 10 ^ finestScale x) :=
      roundEven_mono (by gcongr)
    have hr' : (roundEven (x * 10 ^ finestScale x) : Rat) ≤ roundEven (y * 10 ^ finestScale x) := by
      exact_mod_cast hr
    gcongr

/-- **The rounding keeps order**, also across the places where the grid changes. -/
theorem nearest_mono {x y : Rat} (h : x ≤ y) : nearest x ≤ nearest y := by
  rcases le_total 0 x with hx | hx
  · exact nearest_mono_of_nonneg hx h
  · rcases le_total 0 y with hy | hy
    · have h1 : 0 ≤ nearest (-x) := nearest_nonneg (by linarith)
      rw [nearest_neg] at h1
      linarith [nearest_nonneg hy]
    · have h1 : nearest (-y) ≤ nearest (-x) := nearest_mono_of_nonneg (by linarith) (by linarith)
      rw [nearest_neg, nearest_neg] at h1
      linarith

theorem lt_of_nearest_lt {x y : Rat} (h : nearest x < nearest y) : x < y := by
  by_contra hle
  exact absurd (nearest_mono (Rat.not_lt.1 hle)) (Rat.not_le.2 h)

/-- Rounding does not pass a decimal on the way down. -/
theorem toRat_le_nearest {d : Decimal} {x : Rat} (h : d.toRat ≤ x) : d.toRat ≤ nearest x := by
  simpa using nearest_mono h

/-- Rounding does not pass a decimal on the way up. -/
theorem nearest_le_toRat {d : Decimal} {x : Rat} (h : x ≤ d.toRat) : nearest x ≤ d.toRat := by
  simpa using nearest_mono h

theorem nearest_nonpos {x : Rat} (h : x ≤ 0) : nearest x ≤ 0 := by
  simpa [nearest_zero] using nearest_mono h

end Decimal

end TwoVenue
