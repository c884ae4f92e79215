import TwoVenue.Proofs.Market.Greedy

/-!
# Larger orders never get a better price

Levels come best price first. What a larger order takes on top of a smaller one is therefore no better than what both of
them take, so its exact average is no better either. The walk rounds an average twice, once as a premium over the best
price and once as a price, and rounding keeps the order of the averages.

- `Offered.worth_worse_mul`: every unit costs no less than a price that no level is better than.
- `Offered.worth_cross`: **the costs of two orders, compared without dividing**, by induction on the levels.
- `Offered.average_worse`: the average of the larger order is the worse one.
- `Measured.of_le`: digits that leave room for an order leave room for every smaller one.
- `Between`: a price is between the best and the worst one that an order has taken. `Measured.walk_between`: **the price
  of a walk is**.
- `BookSource.quote_larger`: **whoever can fill an order can fill a smaller one, at no worse a price**.
-/

namespace TwoVenue

open Decimal

section Cost

variable {side : Side} {levels : List Level} {level : Level} {target a b : Rat}

/-! ## Exact averages -/

theorem Offered.tail (h : Offered side (level :: levels)) : Offered side levels where
  size_pos l hl := h.size_pos l (List.mem_cons_of_mem _ hl)
  sorted := h.sorted.of_cons

/-- What a trade takes of levels in order is in order. -/
theorem Offered.sublist {taken : List Level} (h : Offered side levels) (hsub : taken.Sublist levels) :
    Offered side taken where
  size_pos l hl := h.size_pos l (hsub.subset hl)
  sorted := h.sorted.sublist hsub

/-- Where no level is better than a price, no unit is. -/
theorem Offered.worth_worse_mul (h : Offered side levels) {price : Rat}
    (hprice : ∀ l ∈ levels, side.Worse (l.price.toRat - price)) (htarget : 0 ≤ target) (hdeep : target ≤ depth levels) :
    side.Worse (worth (·.price.toRat) levels target - target * price) := by
  have hworse := worth_worse h.size_pos htarget fun l hl => hprice l (consumed_sublist.subset hl)
  rwa [worth_sub, worth_const, sum_fills h.size_pos htarget, min_eq_left hdeep] at hworse

/-- **The costs of two orders.** If the smaller one costs as much for each unit as the larger one does, then it costs no
less in all. -/
theorem Offered.worth_cross (h : Offered side levels) (ha : 0 ≤ a) (hab : a ≤ b) (hb : b ≤ depth levels) :
    side.Worse (a * worth (·.price.toRat) levels b - b * worth (·.price.toRat) levels a) := by
  induction levels generalizing a b with
  | nil => simpa using Side.Worse.zero side
  | cons l rest ih =>
    have hsize : 0 < l.size.toRat := toRat_pos.2 (h.size_pos l List.mem_cons_self)
    by_cases hfirst : a ≤ l.size.toRat
    · -- the smaller order has the best price for all of its units
      have hbest := h.worth_worse_mul (fun l' hl' => h.worse_first hl') (ha.trans hab) hb
      have hsmall : worth (·.price.toRat) (l :: rest) a = a * l.price.toRat := by
        rw [worth_cons, min_eq_left hfirst, sub_self, worth_zero h.tail.size_pos, add_zero]
      have hcross : a * worth (·.price.toRat) (l :: rest) b - b * (a * l.price.toRat)
          = a * (worth (·.price.toRat) (l :: rest) b - b * l.price.toRat) := by ring
      rw [hsmall, hcross]
      exact hbest.mul_nonneg ha
    · -- both orders take all of the first level and go on from there
      have hlt : l.size.toRat < a := Rat.not_le.1 hfirst
      have hrest_pos : 0 < a - l.size.toRat := sub_pos.2 hlt
      have hrest_deep : b - l.size.toRat ≤ depth rest := by
        rw [depth_cons] at hb
        linarith
      rw [worth_cons, worth_cons, min_eq_right hlt.le, min_eq_right (hlt.le.trans hab)]
      set u := worth (·.price.toRat) rest (a - l.size.toRat)
      set v := worth (·.price.toRat) rest (b - l.size.toRat)
      have hcross : side.Worse ((a - l.size.toRat) * v - (b - l.size.toRat) * u) :=
        ih h.tail hrest_pos.le (by linarith) hrest_deep
      have hsmall : side.Worse (u - (a - l.size.toRat) * l.price.toRat) :=
        h.tail.worth_worse_mul (fun l' hl' => List.rel_of_pairwise_cons h.sorted hl') hrest_pos.le (by linarith)
      -- each further unit costs no less than the first level, too
      have hmore : side.Worse (v - u - (b - a) * l.price.toRat) := by
        have hsum := hcross.add (hsmall.mul_nonneg (sub_nonneg.2 hab))
        have hscaled : (a - l.size.toRat) * v - (b - l.size.toRat) * u + (b - a) * (u - (a - l.size.toRat) * l.price.toRat)
            = (v - u - (b - a) * l.price.toRat) * (a - l.size.toRat) := by ring
        rw [hscaled] at hsum
        have hquotient := hsum.div_pos hrest_pos
        rwa [mul_div_cancel_right₀ _ hrest_pos.ne'] at hquotient
      have htotal := hcross.add (hmore.mul_nonneg hsize.le)
      convert htotal using 1
      ring

/-- The larger one of two orders has the worse average. -/
theorem Offered.average_worse (h : Offered side levels) (ha : 0 < a) (hab : a ≤ b) (hb : b ≤ depth levels) :
    side.Worse (average levels b - average levels a) := by
  have hb' : 0 < b := ha.trans_le hab
  have hquotient := (h.worth_cross ha.le hab hb).div_pos (mul_pos ha hb')
  have hsplit : average levels b - average levels a
      = (a * worth (·.price.toRat) levels b - b * worth (·.price.toRat) levels a) / (a * b) := by
    unfold average
    field_simp
  rwa [hsplit]

end Cost

/-! ## Rounded prices -/

/-- Whether a price is between the best and the worst price of the levels that an order takes. -/
def Between (side : Side) (levels : List Level) (target price : Decimal) : Prop :=
  ∃ best ∈ consumed levels target.toRat, ∃ worst ∈ consumed levels target.toRat,
    (∀ l ∈ consumed levels target.toRat,
      side.Worse (l.price.toRat - best.price.toRat) ∧ side.Worse (worst.price.toRat - l.price.toRat)) ∧
    side.Worse (price.toRat - best.price.toRat) ∧ side.Worse (worst.price.toRat - price.toRat)

section Walk

variable {side : Side} {P Q : Nat} {first : Level} {levels rest : List Level} {a b target price : Decimal}

/-- There is room for every smaller order. -/
theorem Measured.of_le (h : Measured P Q levels b) (hgrid : OnGrid Q a.toRat) (hab : a ≤ b) : Measured P Q levels a where
  places_le := h.places_le
  price_grid := h.price_grid
  size_grid := h.size_grid
  target_grid := hgrid
  target_room := by
    have hab := toRat_le_toRat.2 hab
    exact (mul_le_mul_of_nonneg_right hab (ten_pow_pos Q).le).trans_lt h.target_room
  cost_room := by
    have hab := toRat_le_toRat.2 hab
    have hspread := spread_nonneg levels
    refine lt_of_le_of_lt ?_ h.cost_room
    gcongr

/-- **The price of a walk is one between the prices that it takes.** -/
theorem Measured.walk_between (h : Measured P Q (first :: rest) target) (hlevels : Offered side (first :: rest))
    (htarget : 0 < target) (hdeep : target.toRat ≤ depth (first :: rest))
    (hwalk : walk (first :: rest) target = .ok (.filled price)) : Between side (first :: rest) target price := by
  have htarget' := toRat_pos.2 htarget
  have hsize := toRat_pos.2 (hlevels.size_pos first List.mem_cons_self)
  have hsum : (fills (first :: rest) target.toRat).sum = target.toRat := by
    rw [sum_fills hlevels.size_pos htarget'.le, min_eq_left hdeep]
  -- the first level is taken, so what is taken has a best and a worst level
  have hconsumed : consumed (first :: rest) target.toRat
      = first :: consumed rest (target.toRat - min target.toRat first.size.toRat) := by
    rw [consumed_cons, if_pos (lt_min htarget' hsize)]
  have htaken : Offered side (consumed (first :: rest) target.toRat) := hlevels.sublist consumed_sublist
  unfold Between
  rw [hconsumed] at htaken ⊢
  obtain ⟨worst, hmem, -, hworst⟩ := htaken.exists_last
  refine ⟨first, List.mem_cons_self, worst, hmem, fun l hl => ⟨htaken.worse_first hl, hworst l hl⟩, ?_⟩
  rw [← hconsumed] at hmem hworst
  obtain ⟨hbest, hrest⟩ := hlevels.average_between htarget hsum hworst
  obtain ⟨price', hprice', hvalue⟩ := h.walk_filled hlevels htarget hdeep
  cases hwalk.symm.trans hprice'
  rw [hvalue]
  -- the premium of the worst level is a decimal, so rounding the average does not get past it
  have hgap : nearest (worst.price.toRat - first.price.toRat) = worst.price.toRat - first.price.toRat := by
    have hmem := consumed_sublist.subset hmem
    exact nearest_of_onGrid (by have := h.places_le; omega)
      ((h.price_grid worst hmem).sub (h.price_grid first List.mem_cons_self)) (h.gap_room hlevels htarget hmem)
  refine ⟨hbest.nearest.nearest_add first.price, Side.Worse.sub_nearest ?_ (nearest_toRat worst.price)⟩
  rw [← sub_sub]
  refine Side.Worse.sub_nearest ?_ hgap
  rwa [sub_sub_sub_cancel_right]

/-- What a walk fills, the levels hold. -/
theorem Measured.le_depth (h : Measured P Q levels target) (hlevels : Offered side levels) (htarget : 0 < target)
    (hwalk : walk levels target = .ok (.filled price)) : target.toRat ≤ depth levels := by
  by_contra hshort
  obtain ⟨available, havailable, -⟩ := h.walk_short hlevels htarget (Rat.not_le.1 hshort)
  cases hwalk.symm.trans havailable

/-- **A walk of a larger order has the worse price**: its average is worse, and both roundings keep that. -/
theorem Measured.walk_larger (h : Measured P Q (first :: rest) b) (hgrid : OnGrid Q a.toRat)
    (hlevels : Offered side (first :: rest)) (ha : 0 < a) (hab : a ≤ b) (hdeep : b.toRat ≤ depth (first :: rest)) :
    ∃ small large, walk (first :: rest) a = .ok (.filled small) ∧ walk (first :: rest) b = .ok (.filled large) ∧
      side.Worse (large.toRat - small.toRat) := by
  have hab' := toRat_le_toRat.2 hab
  obtain ⟨small, hsmall, hsmallValue⟩ := (h.of_le hgrid hab).walk_filled hlevels ha (hab'.trans hdeep)
  obtain ⟨large, hlarge, hlargeValue⟩ := h.walk_filled hlevels (ha.trans_le hab) hdeep
  refine ⟨small, large, hsmall, hlarge, ?_⟩
  have haverage := hlevels.average_worse (toRat_pos.2 ha) hab' hdeep
  rw [hsmallValue, hlargeValue]
  refine Side.Worse.nearest_sub ?_
  rw [add_sub_add_left_eq_sub]
  refine Side.Worse.nearest_sub ?_
  rwa [sub_sub_sub_cancel_right]

end Walk

/-! ## Quotes -/

/-- **Larger orders never get a better price.** Take a book and two amounts, all with so few digits that the walk of the
larger amount is exact. If the larger amount can be filled, then so can the smaller one. A buyer pays no less for a
unit of the larger amount, and a seller receives no more. Both prices are between the best and the worst price that is
taken. -/
theorem BookSource.quote_larger (s : BookSource) (book : Book) (side : Side) (a b : Decimal) (P Q : Nat) (ha : 0 < a)
    (hab : a ≤ b) (hgrid : OnGrid Q a.toRat) (h : Measured P Q (levels book.normalized side) b)
    (hfills : ∃ quote, (s.update book).quote s.venue.tradingPair side b = .ok quote) :
    ∃ small large, (s.update book).quote s.venue.tradingPair side a = .ok small ∧
      (s.update book).quote s.venue.tradingPair side b = .ok large ∧
      side.Worse (large.price.toRat - small.price.toRat) ∧
      Between side (levels book.normalized side) a small.price ∧
      Between side (levels book.normalized side) b large.price := by
  obtain ⟨quote, hquote⟩ := hfills
  obtain ⟨snapshot, hsnapshot, hb, hfilled, -⟩ := quote_eq_ok hquote
  have hbook : (s.update book).book = some book.normalized := rfl
  cases hbook.symm.trans hsnapshot
  have hlevels := offered_normalized book side
  have hdeep := h.le_depth hlevels hb hfilled
  have hquotes : ∀ {amount price}, 0 < amount → walk (levels book.normalized side) amount = .ok (.filled price) →
      (s.update book).quote s.venue.tradingPair side amount = .ok ⟨price, book.normalized.feeRate⟩ :=
    fun hamount hwalk => quote_of_walk hbook hamount hwalk
  cases hside : levels book.normalized side with
  | nil =>
    rw [hside] at hfilled
    cases hfilled
  | cons first rest =>
    rw [hside] at h hlevels hdeep hquotes
    obtain ⟨small, large, hsmall, hlarge, hworse⟩ := h.walk_larger hgrid hlevels ha hab hdeep
    have hsmallDeep := (toRat_le_toRat.2 hab).trans hdeep
    exact ⟨_, _, hquotes ha hsmall, hquotes hb hlarge, hworse,
      (h.of_le hgrid hab).walk_between hlevels ha hsmallDeep hsmall, h.walk_between hlevels hb hdeep hlarge⟩

/-- Bids in no order: one unit at 101, then two units at 99. -/
def twoBids : Book := ⟨[⟨99, 2⟩, ⟨101, 1⟩], [], 0⟩

theorem levels_twoBids : BookSource.levels twoBids.normalized .sell = [⟨101, 1⟩, ⟨99, 2⟩] := by cbv

/-- Of `twoBids`, three units are sold at no better a price than one and a half. Neither average has an end. -/
theorem BookSource.quote_larger_twoBids : 0 < (1.5 : Decimal) ∧ (1.5 : Decimal) ≤ 3 ∧ OnGrid 1 (1.5 : Decimal).toRat ∧
    Measured 0 1 (levels twoBids.normalized .sell) 3 ∧
    ∃ small large, (update ⟨⟨"kraken", "BTC-USDT"⟩, none⟩ twoBids).quote "BTC-USDT" .sell 1.5 = .ok small ∧
      (update ⟨⟨"kraken", "BTC-USDT"⟩, none⟩ twoBids).quote "BTC-USDT" .sell 3 = .ok large ∧
      large.price ≤ small.price := by
  have hmeasured : Measured 0 1 (levels twoBids.normalized .sell) 3 := by
    rw [levels_twoBids]
    have hscale : ∀ l ∈ [(⟨101, 1⟩ : Level), ⟨99, 2⟩], l.price.scale ≤ 0 ∧ l.size.scale ≤ 1 := by decide +kernel
    exact ⟨by decide, fun l hl => onGrid_of_scale_le (hscale l hl).1, fun l hl => onGrid_of_scale_le (hscale l hl).2,
      onGrid_of_scale_le (by decide), by decide +kernel, by decide +kernel⟩
  have hgrid : OnGrid 1 (1.5 : Decimal).toRat := onGrid_of_scale_le (by decide)
  have hpos : 0 < (1.5 : Decimal) := by decide
  have hle : (1.5 : Decimal) ≤ 3 := by decide
  have hfills : ∃ quote, (update ⟨⟨"kraken", "BTC-USDT"⟩, none⟩ twoBids).quote "BTC-USDT" .sell 3 = .ok quote := by
    have hoffered := offered_normalized twoBids .sell
    have hroom := hmeasured
    rw [levels_twoBids] at hoffered hroom
    obtain ⟨price, hwalk, -⟩ := hroom.walk_filled hoffered (by decide) (by decide +kernel)
    rw [← levels_twoBids] at hwalk
    exact ⟨_, quote_of_walk rfl (by decide) hwalk⟩
  obtain ⟨small, large, hsmall, hlarge, hworse, -⟩ := quote_larger ⟨⟨"kraken", "BTC-USDT"⟩, none⟩ twoBids .sell 1.5 3 0 1
    hpos hle hgrid hmeasured hfills
  exact ⟨hpos, hle, hgrid, hmeasured, small, large, hsmall, hlarge, toRat_le_toRat.1 (sub_nonpos.1 hworse)⟩

end TwoVenue
