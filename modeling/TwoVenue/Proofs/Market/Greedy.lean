import TwoVenue.Proofs.Decimal.Grid
import TwoVenue.Proofs.Market.Depth

/-!
# The average price of a walk

A walk never adds up what its levels cost. It tracks what remains to be filled and the premium over the best price, and
divides only once, at its end. Here this is compared with the plain account of a trade: what it takes of each level, and
what that costs.

- `fills`: what a trade takes of each level. `sum_fills`: together it is what was wanted, if there is as much.
- `worth`, `average`: what the fills come to, and what they cost per unit. `consumed`: the levels that they come from.
- `Measured`: levels and a target with so few digits that all sums are exact.
- `InRoom`: there is room for what is left of a walk. `consume_exact`: **the run of a walk is exact**, by induction on
  the levels.
- `walk_average`: **a walk fills its target if the levels are deep enough, and then its price is the average**, rounded
  once as a premium and once as a price.
-/

namespace TwoVenue

open Decimal

/-! ## What a trade takes -/

/-- What a trade takes of levels in order: all of a level as long as that is not enough, and then the rest. -/
def fills : List Level → Rat → List Rat
  | [], _ => []
  | l :: rest, target => min target l.size.toRat :: fills rest (target - min target l.size.toRat)

/-- The size of all levels together. -/
def depth (levels : List Level) : Rat := (levels.map (·.size.toRat)).sum

/-- What the fills of a trade come to, where a unit of each level has some weight. -/
def worth (weight : Level → Rat) (levels : List Level) (target : Rat) : Rat :=
  (List.zipWith (fun amount l => amount * weight l) (fills levels target) levels).sum

/-- The levels of which a trade takes something. -/
def consumed (levels : List Level) (target : Rat) : List Level :=
  ((levels.zip (fills levels target)).filter fun x => decide (0 < x.2)).map (·.1)

/-- The exact average price of a trade. -/
def average (levels : List Level) (target : Rat) : Rat := worth (·.price.toRat) levels target / target

section Fills

variable {weight : Level → Rat} {level : Level} {levels rest : List Level} {target : Rat}

@[simp] theorem depth_nil : depth [] = 0 := rfl

@[simp] theorem depth_cons : depth (level :: rest) = level.size.toRat + depth rest := List.sum_cons

@[simp] theorem worth_nil : worth weight [] target = 0 := rfl

@[simp] theorem worth_cons : worth weight (level :: rest) target =
    min target level.size.toRat * weight level + worth weight rest (target - min target level.size.toRat) :=
  List.sum_cons

theorem consumed_cons : consumed (level :: rest) target =
    if 0 < min target level.size.toRat then level :: consumed rest (target - min target level.size.toRat)
    else consumed rest (target - min target level.size.toRat) := by
  by_cases h : 0 < min target level.size.toRat <;> simp [consumed, fills, h]

/-- What a trade takes is in the order of the levels. -/
theorem consumed_sublist : (consumed levels target).Sublist levels := by
  induction levels generalizing target with
  | nil => simp [consumed]
  | cons l rest ih =>
    rw [consumed_cons]
    split
    · exact ih.cons_cons l
    · exact ih.cons l

theorem onGrid_depth {Q : Nat} (hgrid : ∀ l ∈ levels, OnGrid Q l.size.toRat) : OnGrid Q (depth levels) := by
  induction levels with
  | nil => exact onGrid_zero Q
  | cons l rest ih =>
    rw [depth_cons]
    exact (hgrid l List.mem_cons_self).add (ih fun l hl => hgrid l (List.mem_cons_of_mem _ hl))

theorem depth_nonneg (hsize : ∀ l ∈ levels, 0 < l.size) : 0 ≤ depth levels := by
  refine List.sum_nonneg fun x hx => ?_
  obtain ⟨l, hl, rfl⟩ := List.mem_map.1 hx
  exact (toRat_pos.2 (hsize l hl)).le

/-- The fills are what was wanted, or all that there is. -/
theorem sum_fills (hsize : ∀ l ∈ levels, 0 < l.size) (htarget : 0 ≤ target) :
    (fills levels target).sum = min target (depth levels) := by
  induction levels generalizing target with
  | nil => simp [fills, htarget]
  | cons l rest ih =>
    have hl : 0 ≤ l.size.toRat := (toRat_pos.2 (hsize l List.mem_cons_self)).le
    have hrest := depth_nonneg fun l hl => hsize l (List.mem_cons_of_mem _ hl)
    rw [fills, List.sum_cons, depth_cons, ih (fun l hl => hsize l (List.mem_cons_of_mem _ hl)) (by simp)]
    rcases le_total target l.size.toRat with h | h
    · rw [min_eq_left h, sub_self, min_eq_left hrest, min_eq_left (by linarith), add_zero]
    · rw [min_eq_right h, ← min_add_add_left]
      congr 1
      ring

/-- Nothing is taken for nothing. -/
theorem worth_zero (hsize : ∀ l ∈ levels, 0 < l.size) : worth weight levels 0 = 0 := by
  induction levels with
  | nil => rfl
  | cons l rest ih =>
    have hl : 0 ≤ l.size.toRat := (toRat_pos.2 (hsize l List.mem_cons_self)).le
    simp [min_eq_left hl, ih fun l hl => hsize l (List.mem_cons_of_mem _ hl)]

/-- A weight that is the same for all levels can be paid at the end. -/
theorem worth_const (c : Rat) : worth (fun _ => c) levels target = (fills levels target).sum * c := by
  induction levels generalizing target with
  | nil => simp [fills]
  | cons l rest ih =>
    rw [worth_cons, fills, List.sum_cons, ih]
    ring

theorem worth_sub (other : Level → Rat) :
    worth (fun l => weight l - other l) levels target = worth weight levels target - worth other levels target := by
  induction levels generalizing target with
  | nil => simp
  | cons l rest ih =>
    rw [worth_cons, worth_cons, worth_cons, ih]
    ring

/-- If all that a trade takes has a weight that is worse for a taker, then it comes to something worse. -/
theorem worth_worse {side : Side} (hsize : ∀ l ∈ levels, 0 < l.size) (htarget : 0 ≤ target)
    (hweight : ∀ l ∈ consumed levels target, side.Worse (weight l)) : side.Worse (worth weight levels target) := by
  induction levels generalizing target with
  | nil => exact .zero side
  | cons l rest ih =>
    have hl : 0 ≤ l.size.toRat := (toRat_pos.2 (hsize l List.mem_cons_self)).le
    have htaken : 0 ≤ min target l.size.toRat := le_min htarget hl
    have hrest : (∀ l' ∈ consumed rest (target - min target l.size.toRat), side.Worse (weight l')) →
        side.Worse (worth weight rest (target - min target l.size.toRat)) :=
      ih (fun l hl => hsize l (List.mem_cons_of_mem _ hl)) (by simp)
    rw [consumed_cons] at hweight
    rw [worth_cons]
    by_cases hpos : 0 < min target l.size.toRat
    · rw [if_pos hpos] at hweight
      exact ((hweight l List.mem_cons_self).mul_nonneg htaken).add
        (hrest fun l' hl' => hweight l' (List.mem_cons_of_mem _ hl'))
    · -- nothing is taken of this level, so its weight does not count
      rw [if_neg hpos] at hweight
      have hzero : min target l.size.toRat * weight l = 0 := by
        rw [le_antisymm (Rat.not_lt.1 hpos) htaken, zero_mul]
      rw [hzero, zero_add]
      exact hrest hweight

end Fills

/-! ## Room for exact sums -/

/-- How far the prices of levels in order are apart. -/
def spread (levels : List Level) : Rat :=
  match levels.head?, levels.getLast? with
  | some first, some last => |last.price.toRat - first.price.toRat|
  | _, _ => 0

theorem spread_nonneg (levels : List Level) : 0 ≤ spread levels := by
  unfold spread
  split
  · exact abs_nonneg _
  · exact le_rfl

/-- Levels and a target with at most `P` places for prices and `Q` for sizes, and with room for the target and for what
it costs more at the last price than at the first one. -/
structure Measured (P Q : Nat) (levels : List Level) (target : Decimal) : Prop where
  places_le : P + Q ≤ maxScale
  price_grid : ∀ l ∈ levels, OnGrid P l.price.toRat
  size_grid : ∀ l ∈ levels, OnGrid Q l.size.toRat
  target_grid : OnGrid Q target.toRat
  target_room : target.toRat * 10 ^ Q < limit
  cost_room : target.toRat * spread levels * 10 ^ (P + Q) < limit

/-- There is room for what is left of a walk: for what remains, and for the premium with all that can still be added. -/
structure InRoom (P Q : Nat) (gap : Rat) (remaining premium : Decimal) : Prop where
  remaining_nonneg : 0 ≤ remaining.toRat
  remaining_grid : OnGrid Q remaining.toRat
  remaining_room : remaining.toRat * 10 ^ Q < limit
  premium_grid : OnGrid (P + Q) premium.toRat
  premium_room : (|premium.toRat| + remaining.toRat * gap) * 10 ^ (P + Q) < limit

section Walk

variable {P Q : Nat} {gap : Rat} {best : Decimal} {levels : List Level}

/-- **The step of a walk in room**: all four operations are exact, and what they leave is in room again. -/
theorem InRoom.step {remaining premium : Decimal} {level : Level} (h : InRoom P Q gap remaining premium)
    (hplaces : P + Q ≤ maxScale) (hgap : gap * 10 ^ P < limit) (hsize : 0 < level.size) (hsizeGrid : OnGrid Q level.size.toRat)
    (hprice : |level.price.toRat - best.toRat| ≤ gap) (hpriceGrid : OnGrid P (level.price.toRat - best.toRat)) :
    ∃ more cost premium' remaining', level.price.sub best = .ok more ∧ (remaining.min level.size).mul more = .ok cost ∧
      premium.add cost = .ok premium' ∧ remaining.sub (remaining.min level.size) = .ok remaining' ∧
      InRoom P Q gap remaining' premium' ∧
      remaining'.toRat = remaining.toRat - min remaining.toRat level.size.toRat ∧
      premium'.toRat
        = premium.toRat + min remaining.toRat level.size.toRat * (level.price.toRat - best.toRat) := by
  obtain ⟨hnonneg, hgrid, hroom, hpremiumGrid, hpremiumRoom⟩ := h
  set taken := remaining.min level.size with htaken
  have htakenValue : taken.toRat = min remaining.toRat level.size.toRat := toRat_min ..
  have htaken0 : 0 ≤ taken.toRat := by
    rw [htakenValue]
    exact le_min hnonneg (toRat_pos.2 hsize).le
  have htakenLe : taken.toRat ≤ remaining.toRat := by
    rw [htakenValue]
    exact min_le_left ..
  have htakenGrid : OnGrid Q taken.toRat := by
    rw [htakenValue]
    exact hgrid.min hsizeGrid
  have hgap0 : 0 ≤ gap := (abs_nonneg _).trans hprice
  obtain ⟨more, hmore, hmoreValue⟩ := sub_exact (a := level.price) (b := best) (by omega) hpriceGrid
    (lt_of_le_of_lt (mul_le_mul_of_nonneg_right hprice (ten_pow_pos P).le) hgap)
  have hmoreLe : |more.toRat| ≤ gap := by rwa [hmoreValue]
  -- the cost of what is taken is part of what was reckoned with for the rest
  have hcostLe : |taken.toRat * more.toRat| ≤ taken.toRat * gap := by
    rw [abs_mul, abs_of_nonneg htaken0]
    exact mul_le_mul_of_nonneg_left hmoreLe htaken0
  have hcostLe' : taken.toRat * gap ≤ remaining.toRat * gap := mul_le_mul_of_nonneg_right htakenLe hgap0
  have hcostGrid : OnGrid (P + Q) (taken.toRat * more.toRat) := htakenGrid.mul (by rwa [hmoreValue])
  have hbelow : ∀ x, x ≤ |premium.toRat| + remaining.toRat * gap → x * 10 ^ (P + Q) < limit := fun x hx =>
    lt_of_le_of_lt (mul_le_mul_of_nonneg_right hx (ten_pow_pos _).le) hpremiumRoom
  obtain ⟨cost, hcost, hcostValue⟩ := mul_exact hplaces hcostGrid (hbelow _ (by linarith [abs_nonneg premium.toRat]))
  obtain ⟨premium', hpremium, hpremiumValue⟩ := add_exact (a := premium) (b := cost) hplaces hpremiumGrid
    (by rwa [hcostValue]) (hbelow _ (by rw [hcostValue]; linarith))
  have hrestGrid : OnGrid Q (remaining.toRat - taken.toRat) := hgrid.sub htakenGrid
  have hrest0 : 0 ≤ remaining.toRat - taken.toRat := sub_nonneg.2 htakenLe
  have hrestRoom : (remaining.toRat - taken.toRat) * 10 ^ Q < limit :=
    lt_of_le_of_lt (mul_le_mul_of_nonneg_right (sub_le_self _ htaken0) (ten_pow_pos Q).le) hroom
  obtain ⟨remaining', hremaining, hremainingValue⟩ := sub_exact (a := remaining) (b := taken) (by omega) hrestGrid
    (by rwa [abs_of_nonneg hrest0])
  refine ⟨more, cost, premium', remaining', hmore, hcost, hpremium, hremaining, ⟨?_, ?_, ?_, ?_, ?_⟩, ?_, ?_⟩
  · rwa [hremainingValue]
  · rwa [hremainingValue]
  · rwa [hremainingValue]
  · rw [hpremiumValue, hcostValue]
    exact hpremiumGrid.add hcostGrid
  · refine hbelow _ ?_
    rw [hpremiumValue, hcostValue, hremainingValue]
    have := abs_add_le premium.toRat (taken.toRat * more.toRat)
    linarith
  · rw [hremainingValue, htakenValue]
  · rw [hpremiumValue, hcostValue, hmoreValue, htakenValue]

/-- **The run of a walk in room**: what remains is what the fills have left, and the premium is what they cost more than
at the best price. -/
theorem consume_exact (hplaces : P + Q ≤ maxScale) (hgap : gap * 10 ^ P < limit) (hsize : ∀ l ∈ levels, 0 < l.size)
    (hsizeGrid : ∀ l ∈ levels, OnGrid Q l.size.toRat) (hprice : ∀ l ∈ levels, |l.price.toRat - best.toRat| ≤ gap)
    (hpriceGrid : ∀ l ∈ levels, OnGrid P (l.price.toRat - best.toRat)) :
    ∀ {remaining premium}, InRoom P Q gap remaining premium →
      ∃ r p, consume best levels remaining premium = .ok (r, p) ∧ InRoom P Q gap r p ∧
        r.toRat = remaining.toRat - (fills levels remaining.toRat).sum ∧
        p.toRat = premium.toRat + worth (fun l => l.price.toRat - best.toRat) levels remaining.toRat := by
  induction levels with
  | nil =>
    intro remaining premium h
    exact ⟨remaining, premium, rfl, h, by simp [fills], by simp⟩
  | cons level rest ih =>
    intro remaining premium h
    unfold consume
    by_cases hzero : remaining.isZero = true
    · -- the rest of the levels is not looked at, and nothing is taken of it
      rw [if_pos hzero]
      have hzero := toRat_eq_zero.2 hzero
      refine ⟨remaining, premium, rfl, h, ?_, ?_⟩
      · rw [hzero, sum_fills hsize le_rfl, min_eq_left (depth_nonneg hsize), sub_zero]
      · rw [hzero, worth_zero hsize, add_zero]
    · rw [if_neg hzero]
      obtain ⟨more, cost, premium', remaining', hmore, hcost, hpremium, hremaining, hroom, hremainingValue, hpremiumValue⟩ :=
        h.step hplaces hgap (hsize level List.mem_cons_self) (hsizeGrid level List.mem_cons_self)
          (hprice level List.mem_cons_self) (hpriceGrid level List.mem_cons_self)
      obtain ⟨r, p, hconsume, hroom, hr, hp⟩ := ih (fun l hl => hsize l (List.mem_cons_of_mem _ hl))
        (fun l hl => hsizeGrid l (List.mem_cons_of_mem _ hl)) (fun l hl => hprice l (List.mem_cons_of_mem _ hl))
        (fun l hl => hpriceGrid l (List.mem_cons_of_mem _ hl)) hroom
      refine ⟨r, p, ?_, hroom, ?_, ?_⟩
      · exact Outcome.bind_eq_ok.2 ⟨more, hmore, Outcome.bind_eq_ok.2 ⟨cost, hcost, Outcome.bind_eq_ok.2
          ⟨premium', hpremium, Outcome.bind_eq_ok.2 ⟨remaining', hremaining, hconsume⟩⟩⟩⟩
      · rw [hr, hremainingValue, fills, List.sum_cons]
        ring
      · rw [hp, hpremiumValue, hremainingValue, worth_cons, add_assoc]

end Walk

/-! ## The whole walk -/

/-- What is worse, but less so than something else, is also smaller. -/
theorem Side.Worse.abs_le {side : Side} {x y : Rat} (hx : side.Worse x) (hy : side.Worse (y - x)) : |x| ≤ |y| := by
  cases side with
  | buy =>
    have hx : 0 ≤ x := hx
    have hy : 0 ≤ y - x := hy
    rw [abs_of_nonneg hx, abs_of_nonneg (by linarith)]
    linarith
  | sell =>
    have hx : x ≤ 0 := hx
    have hy : y - x ≤ 0 := hy
    rw [abs_of_nonpos hx, abs_of_nonpos (by linarith)]
    linarith

/-- Of two values the one that is worse for a taker stays so when both are rounded. -/
theorem Side.Worse.nearest_sub {side : Side} {x y : Rat} (h : side.Worse (y - x)) :
    side.Worse (Decimal.nearest y - Decimal.nearest x) := by
  cases side with
  | buy => exact sub_nonneg.2 (nearest_mono (sub_nonneg.1 h))
  | sell => exact sub_nonpos.2 (nearest_mono (sub_nonpos.1 h))

/-- What leaves something for the taker still does so when it is rounded, if the whole is a decimal. -/
theorem Side.Worse.sub_nearest {side : Side} {x y : Rat} (h : side.Worse (y - x)) (hy : Decimal.nearest y = y) :
    side.Worse (y - Decimal.nearest x) := by
  simpa only [hy] using h.nearest_sub

/-- A number between two decimals is in range. -/
theorem fits_of_between {side : Side} {a b : Decimal} {x : Rat} (ha : side.Worse (x - a.toRat))
    (hb : side.Worse (b.toRat - x)) : Fits x 0 := by
  have hle : |x| ≤ |a.toRat| ∨ |x| ≤ |b.toRat| := by
    cases side with
    | buy =>
      have ha : 0 ≤ x - a.toRat := ha
      have hb : 0 ≤ b.toRat - x := hb
      exact (le_total 0 x).symm.imp (fun h => abs_le_abs_of_nonpos h (by linarith)) fun h => abs_le_abs_of_nonneg h (by linarith)
    | sell =>
      have ha : x - a.toRat ≤ 0 := ha
      have hb : b.toRat - x ≤ 0 := hb
      exact (le_total 0 x).imp (fun h => abs_le_abs_of_nonneg h (by linarith)) fun h => abs_le_abs_of_nonpos h (by linarith)
  rcases hle with h | h
  · exact (fits_toRat a).of_le (Nat.zero_le _) h
  · exact (fits_toRat b).of_le (Nat.zero_le _) h

section Average

variable {side : Side} {P Q : Nat} {first : Level} {levels rest : List Level} {target : Decimal}

/-- The last one of some levels has the worst price. -/
theorem Offered.exists_last (h : Offered side (first :: rest)) :
    ∃ last ∈ first :: rest, spread (first :: rest) = |last.price.toRat - first.price.toRat| ∧
      ∀ l ∈ first :: rest, side.Worse (last.price.toRat - l.price.toRat) := by
  have hne : first :: rest ≠ [] := by simp
  refine ⟨(first :: rest).getLast hne, List.getLast_mem hne, ?_, fun l hl => ?_⟩
  · unfold spread
    rw [List.head?_cons, List.getLast?_eq_some_getLast hne]
  · have hsorted := h.sorted
    rw [← List.dropLast_append_getLast hne] at hl hsorted
    rcases List.mem_append.1 hl with hl | hl
    · exact (List.pairwise_append.1 hsorted).2.2 l hl _ (List.mem_singleton_self _)
    · rw [List.mem_singleton.1 hl, sub_self]
      exact .zero side

theorem Offered.gap_le_spread (h : Offered side (first :: rest)) {l : Level} (hl : l ∈ first :: rest) :
    |l.price.toRat - first.price.toRat| ≤ spread (first :: rest) := by
  obtain ⟨last, -, hspread, hlast⟩ := h.exists_last
  rw [hspread]
  exact (h.worse_first hl).abs_le (by
    rw [sub_sub_sub_cancel_right]
    exact hlast l hl)

/-- The average price of a trade is between the first price and one that is worse than all that it takes. -/
theorem Offered.average_between (h : Offered side (first :: rest)) (htarget : 0 < target)
    (hsum : (fills (first :: rest) target.toRat).sum = target.toRat) {last : Level}
    (hlast : ∀ l ∈ consumed (first :: rest) target.toRat, side.Worse (last.price.toRat - l.price.toRat)) :
    side.Worse (average (first :: rest) target.toRat - first.price.toRat) ∧
      side.Worse (last.price.toRat - average (first :: rest) target.toRat) := by
  have htarget' := toRat_pos.2 htarget
  have hconst : ∀ c, worth (fun _ => c) (first :: rest) target.toRat / target.toRat = c := by
    intro c
    rw [worth_const, hsum, mul_div_cancel_left₀ _ htarget'.ne']
  constructor
  · have hworse := (worth_worse h.size_pos htarget'.le fun l hl =>
      h.worse_first (consumed_sublist.subset hl)).div_pos htarget'
    rwa [worth_sub, sub_div, hconst] at hworse
  · have hworse := (worth_worse h.size_pos htarget'.le hlast).div_pos htarget'
    rwa [worth_sub, sub_div, hconst] at hworse

/-- The target is one unit of its last place at least, so there is room for the spread as well. -/
theorem Measured.spread_room (h : Measured P Q levels target) (htarget : 0 < target) :
    spread levels * 10 ^ P < limit := by
  have hspread := spread_nonneg levels
  have hone := h.target_grid.one_le (toRat_pos.2 htarget)
  calc spread levels * 10 ^ P = 1 * (spread levels * 10 ^ P) := (one_mul _).symm
    _ ≤ target.toRat * 10 ^ Q * (spread levels * 10 ^ P) := by gcongr
    _ = target.toRat * spread levels * 10 ^ (P + Q) := by rw [pow_add]; ring
    _ < limit := h.cost_room

/-- There is room for the premium of every level. -/
theorem Measured.gap_room (h : Measured P Q (first :: rest) target) (hlevels : Offered side (first :: rest))
    (htarget : 0 < target) {l : Level} (hl : l ∈ first :: rest) :
    |l.price.toRat - first.price.toRat| * 10 ^ P < limit :=
  (mul_le_mul_of_nonneg_right (hlevels.gap_le_spread hl) (ten_pow_pos P).le).trans_lt (h.spread_room htarget)

/-- All levels of a measured walk are taken exactly. -/
theorem Measured.consume (h : Measured P Q (first :: rest) target) (hlevels : Offered side (first :: rest))
    (htarget : 0 < target) :
    ∃ r p, consume first.price (first :: rest) target 0 = .ok (r, p) ∧
      r.toRat = target.toRat - (fills (first :: rest) target.toRat).sum ∧
      p.toRat = worth (·.price.toRat) (first :: rest) target.toRat
        - (fills (first :: rest) target.toRat).sum * first.price.toRat := by
  have hfirst := h.price_grid first List.mem_cons_self
  have hstart : InRoom P Q (spread (first :: rest)) target 0 := by
    refine ⟨(toRat_pos.2 htarget).le, h.target_grid, h.target_room, ?_, ?_⟩
    · rw [toRat_zero]
      exact onGrid_zero _
    · rw [toRat_zero, abs_zero, zero_add]
      exact h.cost_room
  obtain ⟨r, p, hconsume, -, hr, hp⟩ := consume_exact h.places_le (h.spread_room htarget) hlevels.size_pos
    h.size_grid (fun l hl => hlevels.gap_le_spread hl) (fun l hl => (h.price_grid l hl).sub hfirst) hstart
  refine ⟨r, p, hconsume, hr, ?_⟩
  rw [hp, toRat_zero, zero_add, worth_sub, worth_const]

/-- A walk that is too long for its levels says how deep they are. -/
theorem Measured.walk_short (h : Measured P Q levels target) (hlevels : Offered side levels) (htarget : 0 < target)
    (hshort : depth levels < target.toRat) :
    ∃ available, walk levels target = .ok (.short available) ∧ available.toRat = depth levels := by
  cases levels with
  | nil => exact ⟨0, rfl, toRat_zero⟩
  | cons first rest =>
    have htarget' := toRat_pos.2 htarget
    obtain ⟨r, p, hconsume, hr, -⟩ := h.consume hlevels htarget
    have hdepth := depth_nonneg hlevels.size_pos
    rw [sum_fills hlevels.size_pos htarget'.le, min_eq_right hshort.le] at hr
    have hnonzero : r.isZero ≠ true := by
      intro hzero
      have := toRat_eq_zero.2 hzero
      linarith
    have hgrid : OnGrid Q (target.toRat - r.toRat) := by
      rw [hr, sub_sub_cancel]
      exact onGrid_depth h.size_grid
    have hroom : |target.toRat - r.toRat| * 10 ^ Q < limit := by
      rw [hr, sub_sub_cancel, abs_of_nonneg hdepth]
      exact lt_of_le_of_lt (mul_le_mul_of_nonneg_right hshort.le (ten_pow_pos Q).le) h.target_room
    obtain ⟨available, havailable, hvalue⟩ := sub_exact (by have := h.places_le; omega) hgrid hroom
    refine ⟨available, Outcome.bind_eq_ok.2 ⟨(r, p), hconsume, ?_⟩, ?_⟩
    · dsimp only
      rw [if_neg hnonzero]
      exact Outcome.bind_eq_ok.2 ⟨available, havailable, rfl⟩
    · rw [hvalue, hr, sub_sub_cancel]

/-- A premium that is not more than what the last price has over the first one is divided out and added without an error:
the whole of that is a decimal, so neither the premium nor the price gets past it by rounding. -/
theorem exists_price {best last premium target : Decimal} (hplaces : P ≤ maxScale)
    (hgrid : OnGrid P (last.toRat - best.toRat)) (hroom : |last.toRat - best.toRat| * 10 ^ P < limit)
    (htarget : target.toRat ≠ 0) (hworse : side.Worse (premium.toRat / target.toRat))
    (hrest : side.Worse (last.toRat - best.toRat - premium.toRat / target.toRat)) :
    ∃ more price, premium.div target = .ok more ∧ best.add more = .ok price ∧
      price.toRat = nearest (best.toRat + nearest (premium.toRat / target.toRat)) := by
  have hexact : nearest (last.toRat - best.toRat) = last.toRat - best.toRat := nearest_of_onGrid hplaces hgrid hroom
  have hfits : Fits (premium.toRat / target.toRat) 0 :=
    (fits_of_onGrid hgrid hroom).of_le (Nat.zero_le _) (hworse.abs_le hrest)
  obtain ⟨more, hdiv⟩ := div_defined htarget hfits
  have hmore := div_toRat hdiv
  have hfirst : side.Worse (best.toRat + more.toRat - best.toRat) := by
    rw [add_sub_cancel_left, hmore]
    exact hworse.nearest
  have hlast : side.Worse (last.toRat - (best.toRat + more.toRat)) := by
    rw [← sub_sub, hmore]
    exact hrest.sub_nearest hexact
  obtain ⟨price, hadd⟩ := add_defined (fits_of_between hfirst hlast)
  refine ⟨more, price, hdiv, hadd, ?_⟩
  rw [add_toRat hadd, hmore]

/-- **A walk that its levels can fill** has the best price and the rounded premium of the average over it. -/
theorem Measured.walk_filled (h : Measured P Q (first :: rest) target) (hlevels : Offered side (first :: rest))
    (htarget : 0 < target) (hdeep : target.toRat ≤ depth (first :: rest)) :
    ∃ price, walk (first :: rest) target = .ok (.filled price) ∧ price.toRat =
      nearest (first.price.toRat + nearest (average (first :: rest) target.toRat - first.price.toRat)) := by
  have htarget' := toRat_pos.2 htarget
  obtain ⟨r, p, hconsume, hr, hp⟩ := h.consume hlevels htarget
  have hsum : (fills (first :: rest) target.toRat).sum = target.toRat := by
    rw [sum_fills hlevels.size_pos htarget'.le, min_eq_left hdeep]
  have hzero : r.isZero = true := by
    rw [← toRat_eq_zero, hr, hsum, sub_self]
  have hpremium : p.toRat / target.toRat = average (first :: rest) target.toRat - first.price.toRat := by
    rw [hp, hsum, sub_div, mul_div_cancel_left₀ _ htarget'.ne']
    rfl
  rw [← hpremium]
  by_cases hflat : p.isZero = true
  · -- all that is taken has the best price
    refine ⟨first.price, Outcome.bind_eq_ok.2 ⟨(r, p), hconsume, ?_⟩, ?_⟩
    · dsimp only
      rw [if_pos hzero, if_pos hflat]
      rfl
    · rw [toRat_eq_zero.2 hflat, zero_div, nearest_zero, add_zero, nearest_toRat]
  · obtain ⟨last, hmem, -, hlast⟩ := hlevels.exists_last
    have hgapGrid := (h.price_grid last hmem).sub (h.price_grid first List.mem_cons_self)
    have hgapRoom := h.gap_room hlevels htarget hmem
    obtain ⟨hworse, hrest⟩ := hlevels.average_between htarget hsum fun l hl => hlast l (consumed_sublist.subset hl)
    rw [← sub_sub_sub_cancel_right _ _ first.price.toRat, ← hpremium] at hrest
    rw [← hpremium] at hworse
    obtain ⟨premium, price, hdiv, hprice, hvalue⟩ := exists_price (by have := h.places_le; omega) hgapGrid hgapRoom
      htarget'.ne' hworse hrest
    refine ⟨price, Outcome.bind_eq_ok.2 ⟨(r, p), hconsume, ?_⟩, hvalue⟩
    dsimp only
    rw [if_pos hzero, if_neg hflat]
    exact Outcome.bind_eq_ok.2 ⟨premium, hdiv, Outcome.bind_eq_ok.2 ⟨price, hprice, rfl⟩⟩

/-- **A walk is the plain account of a trade.** For levels in order, best price first, and a target, all with so few
digits that sums are exact: the walk fills the target exactly if the levels are deep enough, and otherwise it says how
deep they are. Its price is then the best price and a premium, which is the difference of the average price of what is
taken, rounded to a decimal; their sum is rounded once more. So the price is the average wherever both are decimals.
Without levels nothing is there. -/
theorem walk_average (side : Side) (levels : List Level) (target : Decimal) (P Q : Nat) (hlevels : Offered side levels)
    (htarget : 0 < target) (h : Measured P Q levels target) :
    ((∃ price, walk levels target = .ok (.filled price)) ↔ target.toRat ≤ depth levels) ∧
      (depth levels < target.toRat →
        ∃ available, walk levels target = .ok (.short available) ∧ available.toRat = depth levels) ∧
      (∀ best price, levels.head? = some best → walk levels target = .ok (.filled price) →
        (fills levels target.toRat).sum = target.toRat ∧
        price.toRat
          = nearest (best.price.toRat + nearest (average levels target.toRat - best.price.toRat)) ∧
        ∀ exact premium : Decimal, exact.toRat = average levels target.toRat →
          premium.toRat = average levels target.toRat - best.price.toRat → price ≈ exact) ∧
      walk [] target = .ok (.short 0) := by
  have hshort := h.walk_short hlevels htarget
  have hdeep : ∀ price, walk levels target = .ok (.filled price) → target.toRat ≤ depth levels := by
    intro price hprice
    by_contra hlt
    obtain ⟨available, havailable, -⟩ := hshort (Rat.not_le.1 hlt)
    cases hprice.symm.trans havailable
  refine ⟨⟨fun ⟨price, hprice⟩ => hdeep price hprice, fun hle => ?_⟩, hshort, fun best price hbest hprice => ?_, rfl⟩
  · cases levels with
    | nil => exact absurd hle (Rat.not_le.2 (toRat_pos.2 htarget))
    | cons first rest =>
      obtain ⟨price, hprice, -⟩ := h.walk_filled hlevels htarget hle
      exact ⟨price, hprice⟩
  · cases levels with
    | nil => cases hbest
    | cons first rest =>
      cases hbest
      have hle := hdeep price hprice
      obtain ⟨price', hprice', hvalue⟩ := h.walk_filled hlevels htarget hle
      cases hprice.symm.trans hprice'
      refine ⟨?_, hvalue, fun exact premium hexact hpremium => ?_⟩
      · rw [sum_fills hlevels.size_pos (toRat_pos.2 htarget).le, min_eq_left hle]
      · rw [← toRat_inj, hvalue, ← hpremium, nearest_toRat, hpremium, add_sub_cancel, ← hexact, nearest_toRat]

/-- Two asks; three units take all of the first one and a part of the second one. -/
def twoAsks : List Level := [⟨100, 1⟩, ⟨101, 5⟩]

/-- The average price of three units of `twoAsks` has no end, so the price of their walk is rounded twice. -/
theorem walk_average_twoAsks : Offered .buy twoAsks ∧ 0 < (3 : Decimal) ∧ Measured 0 0 twoAsks 3 ∧
    ∃ price, walk twoAsks 3 = .ok (.filled price) ∧ price.toRat = nearest (100 + nearest (2 / 3)) := by
  have hoffered : Offered .buy twoAsks := by
    refine ⟨by decide +kernel, List.pairwise_pair.2 ?_⟩
    show (0 : Rat) ≤ (101 : Decimal).toRat - (100 : Decimal).toRat
    decide +kernel
  have hmeasured : Measured 0 0 twoAsks 3 := by
    have hgrid : ∀ l ∈ twoAsks, l.price.scale ≤ 0 ∧ l.size.scale ≤ 0 := by decide +kernel
    exact ⟨by decide, fun l hl => onGrid_of_scale_le (hgrid l hl).1, fun l hl => onGrid_of_scale_le (hgrid l hl).2,
      onGrid_of_scale_le (by decide), by decide +kernel, by decide +kernel⟩
  have htarget : 0 < (3 : Decimal) := by decide
  obtain ⟨hfilled, -, hprice, -⟩ := walk_average .buy twoAsks 3 0 0 hoffered htarget hmeasured
  obtain ⟨price, hwalk⟩ := hfilled.2 (by decide +kernel)
  refine ⟨hoffered, htarget, hmeasured, price, hwalk, ?_⟩
  have haverage : average twoAsks (3 : Decimal).toRat = 100 + 2 / 3 := by decide +kernel
  have hbest : (100 : Decimal).toRat = 100 := by decide +kernel
  rw [(hprice ⟨100, 1⟩ price rfl hwalk).2.1, haverage, hbest, add_sub_cancel_left]

end Average

end TwoVenue
