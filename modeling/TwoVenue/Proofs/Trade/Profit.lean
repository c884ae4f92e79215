import TwoVenue.Proofs.Decimal.Quotient
import TwoVenue.Proofs.Search.Proposal

/-!
# What a profit says about prices

The profit of a proposal is a quotient of two products, and each of them is rounded.

- `Proposal.Yields`: the sale brings more than the purchase costs, after fees and without any rounding.
- `nearest_one_add`: what a fee adds to one, or leaves of it, is exact.
- `Leg.outlay`, `Leg.proceeds`: what a unit costs and what it brings, exactly.
- `Leg.charged`: a leg with its fee or without any. `Proposal.profit_eq_ok`: the steps of a profit in either case.
- `Proposal.profit_toRat`: **the value of a profit**, with a rounding after each of its operations.
- `Proposal.yields_of_profit_pos`: **a profit that is shown is a profit that is made**.
-/

namespace TwoVenue

open Decimal

/-- Whether the sale brings more than the purchase costs. -/
def Proposal.Yields (p : Proposal) : Prop :=
  p.buySide.price.toRat * (1 + p.buySide.fee.toRat) < p.sellSide.price.toRat * (1 - p.sellSide.fee.toRat)

/-! ## Fees -/

section Fee

variable {fee : Decimal}

/-- A value below two is not rounded if it has no more places than a decimal. -/
theorem nearest_eq_self_of_abs_le_two {x : Rat} {s : Nat} {n : Int} (hs : s ≤ maxScale) (hx : |x| ≤ 2)
    (hn : x * 10 ^ s = n) : nearest x = x := by
  refine nearest_eq_self hs ?_ hn
  have hpow : (10 : Rat) ^ s ≤ 10 ^ maxScale := pow_le_pow_right₀ (by norm_num) hs
  calc |x| * 10 ^ s
      ≤ 2 * 10 ^ maxScale := mul_le_mul hx hpow (ten_pow_pos s).le (by norm_num)
    _ < limit - 1 / 2 := by
        rw [limit_cast]
        norm_num [maxScale]

/-- What is one at most can be added to one without rounding, since it has all its places below one. -/
theorem nearest_one_add {d : Decimal} (h : |d.toRat| ≤ 1) : nearest (1 + d.toRat) = 1 + d.toRat := by
  obtain ⟨hlow, hhigh⟩ := abs_le.1 h
  have hgrid : (1 + d.toRat) * 10 ^ d.scale = ((10 ^ d.scale + d.signed : Int) : Rat) := by
    rw [add_mul, mul_pow_scale]
    push_cast
    ring
  exact nearest_eq_self_of_abs_le_two d.scale_le (by rw [abs_le]; constructor <;> linarith) hgrid

theorem abs_fee_le_one (h₀ : 0 ≤ fee) (h₁ : fee < 1) : |fee.toRat| ≤ 1 := by
  rw [abs_of_nonneg (toRat_nonneg.2 h₀), ← toRat_one]
  exact (toRat_lt_toRat.2 h₁).le

theorem toRat_one_add_of_fee (h₀ : 0 ≤ fee) (h₁ : fee < 1) {c : Decimal} (h : Decimal.add 1 fee = .ok c) :
    c.toRat = 1 + fee.toRat := by
  rw [add_toRat h, toRat_one, nearest_one_add (abs_fee_le_one h₀ h₁)]

theorem toRat_one_sub_of_fee (h₀ : 0 ≤ fee) (h₁ : fee < 1) {c : Decimal} (h : Decimal.sub 1 fee = .ok c) :
    c.toRat = 1 - fee.toRat := by
  have hneg : |(-fee).toRat| ≤ 1 := by
    rw [toRat_neg, abs_neg]
    exact abs_fee_le_one h₀ h₁
  rw [sub_toRat h, toRat_one, sub_eq_add_neg, ← toRat_neg, nearest_one_add hneg]

end Fee

/-! ## What a unit costs and what it brings -/

/-- What a unit costs that is bought, fee included and without any rounding. -/
def Leg.outlay (l : Leg) : Rat := l.price.toRat * (1 + l.fee.toRat)

/-- What a unit brings that is sold, after its fee and without any rounding. -/
def Leg.proceeds (l : Leg) : Rat := l.price.toRat * (1 - l.fee.toRat)

namespace Leg.Valid

variable {l : Leg}

theorem fee_bounds (h : l.Valid) : 0 ≤ l.fee.toRat ∧ l.fee.toRat < 1 := by
  constructor
  · exact toRat_nonneg.2 h.fee_nonneg
  · rw [← toRat_one]
    exact toRat_lt_toRat.2 h.fee_lt_one

theorem price_le_nearest_outlay (h : l.Valid) : l.price.toRat ≤ nearest l.outlay := by
  have hprice := toRat_pos.2 h.price_pos
  exact toRat_le_nearest (le_mul_of_one_le_right hprice.le (by linarith [h.fee_bounds.1]))

/-- What is paid stays positive when it is rounded, so it can be divided by. -/
theorem nearest_outlay_pos (h : l.Valid) : 0 < nearest l.outlay :=
  (toRat_pos.2 h.price_pos).trans_le h.price_le_nearest_outlay

theorem outlay_pos (h : l.Valid) : 0 < l.outlay :=
  mul_pos (toRat_pos.2 h.price_pos) (by linarith [h.fee_bounds.1])

theorem proceeds_pos (h : l.Valid) : 0 < l.proceeds :=
  mul_pos (toRat_pos.2 h.price_pos) (by linarith [h.fee_bounds.2])

end Leg.Valid

/-! ## The profit -/

/-- A leg as a profit counts it, with its fee or without any. -/
def Leg.charged (l : Leg) (withFees : Bool) : Leg := { l with fee := if withFees then l.fee else 0 }

theorem Leg.Valid.charged {l : Leg} (h : l.Valid) (withFees : Bool) : (l.charged withFees).Valid := by
  cases withFees with
  | true => exact h
  | false => exact ⟨h.amount_pos, h.price_pos, le_refl 0, (by decide : (0 : Decimal) < 1)⟩

/-- The steps of the computation of a profit. -/
theorem Proposal.profit_eq_ok {p : Proposal} {withFees : Bool} {profit : Decimal} :
    p.profit withFees = .ok profit ↔
      ∃ paid outlay kept proceeds ratio, Decimal.add 1 (p.buySide.charged withFees).fee = .ok paid ∧
        p.buySide.price.mul paid = .ok outlay ∧ Decimal.sub 1 (p.sellSide.charged withFees).fee = .ok kept ∧
        p.sellSide.price.mul kept = .ok proceeds ∧ proceeds.div outlay = .ok ratio ∧ ratio.sub 1 = .ok profit := by
  simp only [Proposal.profit, Leg.charged, Outcome.bind_eq_ok, exists_and_left]

/-- What is paid is at least the price, so it can be divided by. -/
theorem price_le_outlay {l : Leg} {paid outlay : Decimal} (h : l.Valid) (hpaid : Decimal.add 1 l.fee = .ok paid)
    (houtlay : l.price.mul paid = .ok outlay) : l.price.toRat ≤ outlay.toRat := by
  rw [mul_toRat houtlay, toRat_one_add_of_fee h.fee_nonneg h.fee_lt_one hpaid]
  exact h.price_le_nearest_outlay

/-- What a sale brings for each unit that a purchase costs, with the roundings of both products and of the quotient. -/
def returns (buy sell : Leg) : Rat := nearest (nearest sell.proceeds / nearest buy.outlay)

/-- The value of a profit, with fees or without. -/
theorem Proposal.profit_toRat {p : Proposal} {withFees : Bool} {profit : Decimal} (hbuy : p.buySide.Valid)
    (hsell : p.sellSide.Valid) (h : p.profit withFees = .ok profit) :
    ∃ ratio : Decimal, ratio.toRat = returns (p.buySide.charged withFees) (p.sellSide.charged withFees) ∧
      profit.toRat = nearest (ratio.toRat - 1) := by
  obtain ⟨paid, outlay, kept, proceeds, ratio, hpaid, houtlay, hkept, hproceeds, hratio, hprofit⟩ := profit_eq_ok.1 h
  have hbuy' := hbuy.charged withFees
  have hsell' := hsell.charged withFees
  refine ⟨ratio, ?_, ?_⟩
  · rw [div_toRat hratio, mul_toRat houtlay, mul_toRat hproceeds,
      toRat_one_add_of_fee hbuy'.fee_nonneg hbuy'.fee_lt_one hpaid,
      toRat_one_sub_of_fee hsell'.fee_nonneg hsell'.fee_lt_one hkept]
    rfl
  · rw [sub_toRat hprofit, toRat_one]

/-- **No rounding makes a profit out of nothing.** -/
theorem Proposal.yields_of_profit_pos {p : Proposal} {profit : Decimal} (hbuy : p.buySide.Valid)
    (hsell : p.sellSide.Valid) (h : p.profit true = .ok profit) (hpos : 0 < profit) : p.Yields := by
  obtain ⟨ratio, hratio, hprofit⟩ := profit_toRat hbuy hsell h
  have hratio_gt : 1 < ratio.toRat := by
    by_contra hle
    have hnonpos : profit.toRat ≤ 0 := by
      rw [hprofit]
      exact nearest_nonpos (by linarith)
    exact absurd (toRat_pos.2 hpos) (Rat.not_lt.2 hnonpos)
  have hquotient : 1 < nearest p.sellSide.proceeds / nearest p.buySide.outlay := by
    refine lt_of_nearest_lt ?_
    rw [nearest_one]
    exact hratio_gt.trans_eq hratio
  have hproducts : nearest p.buySide.outlay < nearest p.sellSide.proceeds :=
    (one_lt_div hbuy.nearest_outlay_pos).1 hquotient
  exact lt_of_nearest_lt hproducts

end TwoVenue
