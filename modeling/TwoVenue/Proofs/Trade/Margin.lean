import TwoVenue.Proofs.Trade.Ceiling

/-!
# How a profit depends on prices and fees

A profit is a quotient of two products, less one, and after each of these four operations digits can be dropped. All of
the roundings keep order, so worse terms never look better, however small the prices are. Where the products are exact
only the quotient is rounded, and the profit is as close to the exact one as a decimal with 28 places can be.

- `Leg.Valid.outlay_mono`, `Leg.Valid.proceeds_anti`, `returns_mono`: the products and their quotient keep order.
- `Proposal.NoBetter`: worse prices, worse fees, or both.
- `Proposal.profit_monotone`: **worse terms and fees never raise a profit**.
- `returns_of_exact`: without a digit too many in the products, only the quotient is rounded.
- `Proposal.profit_accuracy`: **a profit has the right sign and the right size**.
-/

namespace TwoVenue

open Decimal

/-! ## Keeping order -/

namespace Leg.Valid

variable {l l' : Leg}

/-- A higher price or a higher fee costs more. -/
theorem outlay_mono (h : l.Valid) (hprice : l.price ≤ l'.price) (hfee : l.fee ≤ l'.fee) : l.outlay ≤ l'.outlay := by
  have hpaid : (0 : Rat) ≤ 1 + l'.fee.toRat := by linarith [h.fee_bounds.1, toRat_le_toRat.2 hfee]
  calc l.outlay
      ≤ l.price.toRat * (1 + l'.fee.toRat) :=
        mul_le_mul_of_nonneg_left (by linarith [toRat_le_toRat.2 hfee]) (toRat_pos.2 h.price_pos).le
    _ ≤ l'.outlay := mul_le_mul_of_nonneg_right (toRat_le_toRat.2 hprice) hpaid

/-- A lower price or a higher fee brings less. -/
theorem proceeds_anti (h : l.Valid) (hprice : l'.price ≤ l.price) (hfee : l.fee ≤ l'.fee) (h' : l'.Valid) :
    l'.proceeds ≤ l.proceeds := by
  have hkept : (0 : Rat) ≤ 1 - l.fee.toRat := by linarith [h.fee_bounds.2]
  calc l'.proceeds
      ≤ l'.price.toRat * (1 - l.fee.toRat) :=
        mul_le_mul_of_nonneg_left (by linarith [toRat_le_toRat.2 hfee]) (toRat_pos.2 h'.price_pos).le
    _ ≤ l.proceeds := mul_le_mul_of_nonneg_right (toRat_le_toRat.2 hprice) hkept

end Leg.Valid

/-- **The quotient keeps order**, also where the product of a small price and a fee is rounded to zero. -/
theorem returns_mono {buy buy' sell sell' : Leg} (hbuy : buy.Valid) (hsell : sell.Valid)
    (houtlay : buy.outlay ≤ buy'.outlay) (hproceeds : sell'.proceeds ≤ sell.proceeds) :
    returns buy' sell' ≤ returns buy sell := by
  refine nearest_mono (div_le_div₀ (nearest_nonneg hsell.proceeds_pos.le) (nearest_mono hproceeds) ?_ ?_)
  · exact hbuy.nearest_outlay_pos
  · exact nearest_mono houtlay

/-- Profits are in the order of the quotients. -/
theorem Proposal.profit_le_of_returns {p p' : Proposal} {withFees withFees' : Bool} {profit profit' : Decimal}
    (hbuy : p.buySide.Valid) (hsell : p.sellSide.Valid) (hbuy' : p'.buySide.Valid) (hsell' : p'.sellSide.Valid)
    (h : p.profit withFees = .ok profit) (h' : p'.profit withFees' = .ok profit')
    (hle : returns (p'.buySide.charged withFees') (p'.sellSide.charged withFees')
      ≤ returns (p.buySide.charged withFees) (p.sellSide.charged withFees)) : profit' ≤ profit := by
  obtain ⟨ratio, hratio, hprofit⟩ := profit_toRat hbuy hsell h
  obtain ⟨ratio', hratio', hprofit'⟩ := profit_toRat hbuy' hsell' h'
  rw [← toRat_le_toRat, hprofit, hprofit']
  refine nearest_mono (sub_le_sub_right ?_ 1)
  rwa [hratio, hratio']

/-! ## Worse terms -/

/-- Whether the terms of one proposal are no better than those of another one. -/
structure Proposal.NoBetter (p' p : Proposal) : Prop where
  buyPrice : p.buySide.price ≤ p'.buySide.price
  buyFee : p.buySide.fee ≤ p'.buySide.fee
  sellPrice : p'.sellSide.price ≤ p.sellSide.price
  sellFee : p.sellSide.fee ≤ p'.sellSide.fee

/-- **Monotone profitability.** A profit never fails with a division by zero. Raising the purchase price or a fee, or
lowering the sale price, never raises it, and a profit with fees is never above the one without. -/
theorem Proposal.profit_monotone (p : Proposal) (hbuy : p.buySide.Valid) (hsell : p.sellSide.Valid) :
    (∀ withFees, p.profit withFees ≠ .error .divisionByZero) ∧
      (∀ p' : Proposal, p'.buySide.Valid → p'.sellSide.Valid → p'.NoBetter p →
        ∀ net net', p.profit true = .ok net → p'.profit true = .ok net' → net' ≤ net) ∧
      ∀ net gross, p.profit true = .ok net → p.profit false = .ok gross → net ≤ gross := by
  refine ⟨fun withFees => Proposal.profit_avoids rfl hbuy withFees, ?_, ?_⟩
  · intro p' hbuy' hsell' hworse net net' hnet hnet'
    refine profit_le_of_returns hbuy hsell hbuy' hsell' hnet hnet' (returns_mono hbuy hsell ?_ ?_)
    · exact hbuy.outlay_mono hworse.buyPrice hworse.buyFee
    · exact hsell.proceeds_anti hworse.sellPrice hworse.sellFee hsell'
  · intro net gross hnet hgross
    have hfree := hbuy.charged false
    have hfree' := hsell.charged false
    refine profit_le_of_returns hbuy hsell hbuy hsell hgross hnet (returns_mono hfree hfree' ?_ ?_)
    · exact hfree.outlay_mono (le_refl _) hbuy.fee_nonneg
    · exact hfree'.proceeds_anti (le_refl _) hsell.fee_nonneg hsell

/-- One unit that is bought on one venue and sold on another one. -/
def oneUnit (buyPrice buyFee sellPrice sellFee : Decimal) : Proposal where
  first := ⟨⟨"binance", "BTC-USDT"⟩, .buy, 1, buyPrice, buyFee⟩
  second := ⟨⟨"kraken", "BTC-USDT"⟩, .sell, 1, sellPrice, sellFee⟩
  sides_ne := nofun
  amounts_equiv := rfl
  venues_ne := by simp

/-- At the smallest price a fee of 0.4 is rounded away, and one of 0.6 takes everything. -/
theorem Proposal.profit_monotone_smallest :
    (oneUnit 1e-28 0.001 1e-28 0.6).NoBetter (oneUnit 1e-28 0.001 1e-28 0.4) ∧
      (oneUnit 1e-28 0.001 1e-28 0.4).profit true = .ok 0 ∧ (oneUnit 1e-28 0.001 1e-28 0.6).profit true = .ok (-1) ∧
      (-1 : Decimal) ≤ 0 := by
  have hbuy : (oneUnit 1e-28 0.001 1e-28 0.4).buySide.Valid := by constructor <;> decide
  have hsell : (oneUnit 1e-28 0.001 1e-28 0.4).sellSide.Valid := by constructor <;> decide
  have hbuy' : (oneUnit 1e-28 0.001 1e-28 0.6).buySide.Valid := by constructor <;> decide
  have hsell' : (oneUnit 1e-28 0.001 1e-28 0.6).sellSide.Valid := by constructor <;> decide
  have hworse : (oneUnit 1e-28 0.001 1e-28 0.6).NoBetter (oneUnit 1e-28 0.001 1e-28 0.4) := by constructor <;> decide
  have hnet : (oneUnit 1e-28 0.001 1e-28 0.4).profit true = .ok 0 := by decide +kernel
  have hnet' : (oneUnit 1e-28 0.001 1e-28 0.6).profit true = .ok (-1) := by decide +kernel
  obtain ⟨-, hmono, -⟩ := Proposal.profit_monotone _ hbuy hsell
  exact ⟨hworse, hnet, hnet', hmono _ hbuy' hsell' hworse 0 (-1) hnet hnet'⟩

/-! ## The size of a profit -/

/-- Where the products have no digit too many, only the quotient is rounded. -/
theorem returns_of_exact {buy sell : Leg} (houtlay : ∃ d : Decimal, d.toRat = buy.outlay)
    (hproceeds : ∃ d : Decimal, d.toRat = sell.proceeds) : returns buy sell = nearest (sell.proceeds / buy.outlay) := by
  obtain ⟨outlay, houtlay⟩ := houtlay
  obtain ⟨proceeds, hproceeds⟩ := hproceeds
  unfold returns
  rw [← houtlay, ← hproceeds, nearest_toRat, nearest_toRat]

/-- Quotients below 7.9 have room for all 28 places. -/
theorem fits_maxScale {x : Rat} (hx : 0 ≤ x) (hlt : x < 7.9) : Fits x maxScale := by
  unfold Fits
  rw [abs_of_nonneg hx, limit_cast]
  norm_num [maxScale] at hlt ⊢
  linarith

/-- One can be taken from a quotient with all its places. -/
theorem nearest_sub_one {ratio : Decimal} (hnonneg : 0 ≤ ratio.toRat) (hlt : ratio.toRat < 7.91) :
    nearest (ratio.toRat - 1) = ratio.toRat - 1 := by
  have hgrid : OnGrid maxScale (ratio.toRat - 1) := by
    rw [← toRat_one]
    exact (onGrid_maxScale ratio).sub (onGrid_maxScale 1)
  have habs : |ratio.toRat - 1| ≤ 7 := by
    norm_num at hlt
    rw [abs_le]
    constructor <;> linarith
  refine nearest_of_onGrid le_rfl hgrid ?_
  calc |ratio.toRat - 1| * 10 ^ maxScale
      ≤ 7 * 10 ^ maxScale := mul_le_mul_of_nonneg_right habs (ten_pow_pos _).le
    _ < limit := by
        rw [limit_cast]
        norm_num [maxScale]

/-- **A profit has the right sign and the right size.** If it is positive, then the sale brings more than the purchase
costs, in exact numbers. If the two products have no digit too many and their quotient is below 7.9, then the profit
differs from the exact one by half of its last place at most, and it is positive as soon as the exact one is a place
above zero. -/
theorem Proposal.profit_accuracy (p : Proposal) (hbuy : p.buySide.Valid) (hsell : p.sellSide.Valid) (profit : Decimal)
    (h : p.profit true = .ok profit) :
    (0 < profit → p.buySide.price.toRat * (1 + p.buySide.fee.toRat)
        < p.sellSide.price.toRat * (1 - p.sellSide.fee.toRat)) ∧
      ((∃ d : Decimal, d.toRat = p.buySide.outlay) → (∃ d : Decimal, d.toRat = p.sellSide.proceeds) →
        p.sellSide.proceeds / p.buySide.outlay < 7.9 →
          |profit.toRat - (p.sellSide.proceeds / p.buySide.outlay - 1)| ≤ 1 / 2 / 10 ^ 28 ∧
          (1 + 1 / 10 ^ 28 ≤ p.sellSide.proceeds / p.buySide.outlay → 0 < profit)) := by
  refine ⟨fun hpos => Proposal.yields_of_profit_pos hbuy hsell h hpos, fun houtlay hproceeds hlt => ?_⟩
  obtain ⟨ratio, hratio, hprofit⟩ := Proposal.profit_toRat hbuy hsell h
  have hquotient : ratio.toRat = nearest (p.sellSide.proceeds / p.buySide.outlay) :=
    hratio.trans (returns_of_exact houtlay hproceeds)
  have hpos : 0 < p.sellSide.proceeds / p.buySide.outlay := div_pos hsell.proceeds_pos hbuy.outlay_pos
  have hclose : |ratio.toRat - p.sellSide.proceeds / p.buySide.outlay| ≤ 1 / 2 / 10 ^ 28 := by
    rw [hquotient]
    exact abs_nearest_sub_le le_rfl (fits_maxScale hpos.le hlt)
  obtain ⟨hlow, hhigh⟩ := abs_le.1 hclose
  -- the quotient is not rounded again
  have hexact : profit.toRat = ratio.toRat - 1 := by
    rw [hprofit]
    refine nearest_sub_one ?_ ?_
    · rw [hquotient]
      exact nearest_nonneg hpos.le
    · norm_num at hlt hhigh ⊢
      linarith
  constructor
  · rwa [hexact, sub_sub_sub_cancel_right]
  · intro hge
    rw [← toRat_pos, hexact]
    norm_num at hge hlow ⊢
    linarith

/-- What is bought for 100.1 is sold for 104.79, and their quotient goes on forever. -/
theorem Proposal.profit_accuracy_oneUnit :
    (oneUnit 100 0.001 105 0.002).profit true = .ok 0.0468531468531468531468531469 ∧
      (100 : Decimal).toRat * (1 + (0.001 : Decimal).toRat) < (105 : Decimal).toRat * (1 - (0.002 : Decimal).toRat) ∧
      |(0.0468531468531468531468531469 : Decimal).toRat
        - ((oneUnit 100 0.001 105 0.002).sellSide.proceeds / (oneUnit 100 0.001 105 0.002).buySide.outlay - 1)|
          ≤ 1 / 2 / 10 ^ 28 ∧
      (0 : Decimal) < 0.0468531468531468531468531469 := by
  have hbuy : (oneUnit 100 0.001 105 0.002).buySide.Valid := by constructor <;> decide
  have hsell : (oneUnit 100 0.001 105 0.002).sellSide.Valid := by constructor <;> decide
  have hprofit : (oneUnit 100 0.001 105 0.002).profit true = .ok 0.0468531468531468531468531469 := by decide +kernel
  obtain ⟨hsign, hsize⟩ := Proposal.profit_accuracy _ hbuy hsell _ hprofit
  obtain ⟨hclose, hpositive⟩ := hsize ⟨100.1, by decide +kernel⟩ ⟨104.79, by decide +kernel⟩ (by decide +kernel)
  have hpos := hpositive (by decide +kernel)
  exact ⟨hprofit, hsign hpos, hclose, hpos⟩

end TwoVenue
