import TwoVenue.Engine.Basic
import TwoVenue.Proofs.Decimal.Grid
import TwoVenue.Proofs.Decimal.RoundTrip
import TwoVenue.Proofs.Market.Ceiling
import TwoVenue.Proofs.Trade.Buffer
import TwoVenue.Proofs.Trade.Profit

/-!
# How far profits and limit prices can go

What is computed of a proposal are products with fees, a quotient of two prices, its percentage and the limit prices of
its orders.

- `Proposal.Within`: a proposal with bounded prices.
- `Proposal.Within.profit_bounded`: **its profit**, bounded by the quotient of the prices.
- `toFixed_isOk`: a text with fixed places has room for a number of digits.
- `Opportunity.summary_bounded`: **the line about it**, and `Proposal.Within.candidates_bounded`: **its orders**.
- `TopOfBook.midPrice_bounded`: the price between two bounded ones.
- `Proposal.profit_avoids`, `Opportunity.summary_avoids`, `Proposal.candidates_avoids`, `TopOfBook.midPrice_avoids`:
  **none of them has a fault but numbers that are too large**, with bounds or without.
-/

namespace TwoVenue

open Decimal

/-! ## Profits -/

section Profit

variable {l : Leg} {m n : Nat}

/-- What is paid for a unit, fee included. -/
theorem Leg.Valid.outlay_bounded (h : l.Valid) (hm : m ≤ 28) (hle : l.price.toRat ≤ 3 * 10 ^ m) :
    ∃ paid outlay, Decimal.add 1 l.fee = .ok paid ∧ l.price.mul paid = .ok outlay := by
  have hprice := toRat_pos.2 h.price_pos
  obtain ⟨hfee, hfee_lt⟩ := h.fee_bounds
  obtain ⟨paid, hpaid, -⟩ := add_bounded (a := 1) (b := l.fee) (n := 2) (by decide)
    (by rw [toRat_one, abs_of_nonneg (by linarith)]; push_cast; linarith)
  have hproduct : |l.price.toRat * paid.toRat| ≤ 6 * 10 ^ m := by
    rw [toRat_one_add_of_fee h.fee_nonneg h.fee_lt_one hpaid, abs_of_nonneg (by positivity)]
    nlinarith
  obtain ⟨outlay, houtlay, -⟩ := mul_bounded (a := l.price) (b := paid) (n := 6 * 10 ^ m)
    (by have := ten_pow_lt_limit hm; omega) (by exact_mod_cast hproduct)
  exact ⟨paid, outlay, hpaid, houtlay⟩

/-- What a sale brings for a unit, after its fee. -/
theorem Leg.Valid.proceeds_bounded (h : l.Valid) (hm : m ≤ 28) (hle : l.price.toRat ≤ 10 ^ m) :
    ∃ kept proceeds, Decimal.sub 1 l.fee = .ok kept ∧ l.price.mul kept = .ok proceeds ∧
      0 ≤ proceeds.toRat ∧ proceeds.toRat ≤ 10 ^ m := by
  have hprice := toRat_pos.2 h.price_pos
  obtain ⟨hfee, hfee_lt⟩ := h.fee_bounds
  obtain ⟨kept, hkept, -⟩ := sub_bounded (a := 1) (b := l.fee) (n := 1) (by decide)
    (by rw [toRat_one, abs_of_nonneg (by linarith)]; push_cast; linarith)
  have hkept_value := toRat_one_sub_of_fee h.fee_nonneg h.fee_lt_one hkept
  have hnonneg : 0 ≤ l.price.toRat * kept.toRat := by
    rw [hkept_value]
    exact mul_nonneg hprice.le (by linarith)
  have hproduct : |l.price.toRat * kept.toRat| ≤ 10 ^ m := by
    rw [abs_of_nonneg hnonneg, hkept_value]
    nlinarith
  obtain ⟨proceeds, hproceeds, hproceeds_le⟩ := mul_bounded (a := l.price) (b := kept) (n := 10 ^ m)
    (by have := ten_pow_lt_limit hm; omega) (by exact_mod_cast hproduct)
  refine ⟨kept, proceeds, hkept, hproceeds, ?_, (le_abs_self _).trans (by exact_mod_cast hproceeds_le)⟩
  rw [mul_toRat hproceeds]
  exact nearest_nonneg hnonneg

/-- The quotient of the two, less one. -/
theorem margin_bounded {proceeds outlay : Decimal} (hmn : m + n ≤ 28) (hproceeds : 0 ≤ proceeds.toRat)
    (hle : proceeds.toRat ≤ 10 ^ m) (houtlay : 0 < outlay.toRat) (hge : 1 ≤ outlay.toRat * 10 ^ n) :
    ∃ ratio profit, proceeds.div outlay = .ok ratio ∧ ratio.sub 1 = .ok profit ∧ |profit.toRat| ≤ 10 ^ (m + n) := by
  have hlimit : 10 ^ (m + n) < limit := by
    have := ten_pow_lt_limit hmn
    omega
  have hone : (1 : Rat) ≤ 10 ^ (m + n) := one_le_pow₀ (by norm_num)
  have hquotient : |proceeds.toRat / outlay.toRat| ≤ 10 ^ (m + n) := by
    rw [abs_of_nonneg (by positivity), div_le_iff₀ houtlay, pow_add]
    nlinarith [ten_pow_pos m]
  obtain ⟨ratio, hratio, hratio_le⟩ := div_bounded (a := proceeds) (b := outlay) (n := 10 ^ (m + n)) houtlay.ne' hlimit
    (by exact_mod_cast hquotient)
  have hratio_le : |ratio.toRat| ≤ 10 ^ (m + n) := by exact_mod_cast hratio_le
  have hratio_nonneg : 0 ≤ ratio.toRat := by
    rw [div_toRat hratio]
    exact nearest_nonneg (by positivity)
  have hmargin : |ratio.toRat - (1 : Decimal).toRat| ≤ 10 ^ (m + n) := by
    rw [abs_of_nonneg hratio_nonneg] at hratio_le
    rw [toRat_one, abs_le]
    constructor <;> linarith
  obtain ⟨profit, hprofit, hprofit_le⟩ := sub_bounded (a := ratio) (b := 1) (n := 10 ^ (m + n)) hlimit
    (by exact_mod_cast hmargin)
  exact ⟨ratio, profit, hratio, hprofit, by exact_mod_cast hprofit_le⟩

end Profit

/-- What holds of the legs of a proposal whose quotes keep to some digits. -/
structure Proposal.Within (d : Digits) (p : Proposal) : Prop where
  buy_valid : p.buySide.Valid
  sell_valid : p.sellSide.Valid
  buy_ge : 1 ≤ p.buySide.price.toRat * 10 ^ d.ask
  buy_le : p.buySide.price.toRat ≤ 3 * 10 ^ (d.price + 1)
  sell_le : p.sellSide.price.toRat ≤ 10 ^ d.price
  amount_le : p.amount.toRat ≤ 3 * 10 ^ d.amount

/-- The purchase and the sale are the two legs, in one order or the other. -/
theorem Proposal.sides_cases (p : Proposal) :
    p.buySide = p.first ∧ p.sellSide = p.second ∨ p.buySide = p.second ∧ p.sellSide = p.first := by
  cases hfirst : p.first.isBuy with
  | true => exact .inl ⟨if_pos hfirst, if_pos hfirst⟩
  | false => exact .inr ⟨if_neg (Bool.eq_false_iff.1 hfirst), if_neg (Bool.eq_false_iff.1 hfirst)⟩

theorem Proposal.Within.amount_pos {d : Digits} {p : Proposal} (h : p.Within d) : 0 < p.amount := by
  rcases p.sides_cases with ⟨hbuy, -⟩ | ⟨-, hsell⟩
  · have := h.buy_valid.amount_pos
    rwa [hbuy] at this
  · have := h.sell_valid.amount_pos
    rwa [hsell] at this

/-- **A proposal within the digits has a profit**, bounded by the quotient of its prices. -/
theorem Proposal.Within.profit_bounded {d : Digits} {p : Proposal} (h : p.Within d) :
    ∃ profit, p.profit true = .ok profit ∧ |profit.toRat| ≤ 10 ^ (d.price + d.ask) := by
  have hroom := d.ratio_room
  obtain ⟨paid, outlay, hpaid, houtlay⟩ := h.buy_valid.outlay_bounded (by omega) h.buy_le
  obtain ⟨kept, proceeds, hkept, hproceeds, hproceeds_nonneg, hproceeds_le⟩ :=
    h.sell_valid.proceeds_bounded (by omega) h.sell_le
  have hprice_le := price_le_outlay h.buy_valid hpaid houtlay
  obtain ⟨ratio, profit, hratio, hprofit, hprofit_le⟩ := margin_bounded (m := d.price) (n := d.ask) (by omega)
    hproceeds_nonneg hproceeds_le ((toRat_pos.2 h.buy_valid.price_pos).trans_le hprice_le)
    (h.buy_ge.trans (mul_le_mul_of_nonneg_right hprice_le (ten_pow_pos _).le))
  refine ⟨profit, Proposal.profit_eq_ok.2 ?_, hprofit_le⟩
  exact ⟨paid, outlay, kept, proceeds, ratio, hpaid, houtlay, hkept, hproceeds, hratio, hprofit⟩

/-- **No profit divides by zero**, with fees or without: the outlay is at least the price. -/
theorem Proposal.profit_avoids {p : Proposal} {f : Fault} (hf : f.tooLarge = false) (hbuy : p.buySide.Valid)
    (withFees : Bool) : Avoids f (p.profit withFees) := by
  refine (add_avoids hf _ _).bind fun paid hpaid => (mul_avoids hf _ _).bind fun outlay houtlay => ?_
  have hcharged := hbuy.charged withFees
  have houtlay_pos := (toRat_pos.2 hcharged.price_pos).trans_le (price_le_outlay hcharged hpaid houtlay)
  exact (sub_avoids hf _ _).bind fun _ _ => (mul_avoids hf _ _).bind fun _ _ =>
    (div_avoids hf _ houtlay_pos.ne').bind fun _ _ => sub_avoids hf _ _

/-! ## The line about an opportunity -/

namespace Decimal

/-- The digits of a text with fixed places. -/
theorem length_unsignedChars {mantissa places n : Nat} (hplaces : 0 < places) (hn : 0 < n)
    (h : mantissa / tenPow places < 10 ^ n) : (unsignedChars mantissa places).length ≤ n + 1 + places := by
  have hwhole := (Nat.length_toDigits_le_iff (b := 10) (by decide) hn).2 h
  have hfraction : (zeroPadded places (mantissa % tenPow places)).length = places :=
    zeroPadded_length hplaces (Nat.mod_lt mantissa (tenPow_pos places))
  unfold unsignedChars
  rw [if_neg hplaces.ne', List.length_append, List.length_cons, hfraction]
  omega

/-- The digits before the point do not depend on how many places are shown. -/
theorem whole_toFixed (d : Decimal) (places : Nat) :
    (if d.scale ≤ places then d.mantissa * tenPow (places - d.scale) else d.mantissa / tenPow (d.scale - places)) /
      tenPow places = d.mantissa / tenPow d.scale := by
  split
  · next h =>
    obtain ⟨j, rfl⟩ := Nat.exists_eq_add_of_le h
    rw [Nat.add_sub_cancel_left, Nat.add_comm d.scale j, tenPow_add, Nat.mul_comm (tenPow j),
      Nat.mul_div_mul_right _ _ (tenPow_pos j)]
  · next h =>
    rw [Nat.div_div_eq_div_mul, ← tenPow_add, Nat.sub_add_cancel (by omega)]

/-- **A text with fixed places has room for a number of digits before the point.** -/
theorem toFixed_isOk {d : Decimal} {n : Nat} (places : Nat) (hplaces : 0 < places) (hn : 0 < n)
    (hroom : n + 1 + places ≤ fixedLimit) (h : d.mantissa / tenPow d.scale < 10 ^ n) : ∃ text, d.toFixed places = .ok text := by
  rw [← whole_toFixed d places] at h
  have hlength := (length_unsignedChars hplaces hn h).trans hroom
  unfold toFixed
  dsimp only
  rw [if_neg (Nat.not_lt.2 hlength)]
  exact ⟨_, rfl⟩

theorem whole_lt (d : Decimal) : d.mantissa / tenPow d.scale < 10 ^ 29 :=
  (Nat.div_le_self ..).trans_lt (d.mantissa_lt.trans (by decide))

theorem whole_lt_of_abs_lt {d : Decimal} {n : Nat} (h : |d.toRat| < n) : d.mantissa / tenPow d.scale < n := by
  rw [abs_toRat, ← tenPow_cast, div_lt_iff₀ (by exact_mod_cast tenPow_pos d.scale)] at h
  rw [Nat.div_lt_iff_lt_mul (tenPow_pos _)]
  exact_mod_cast h

theorem toFixed_avoids {f : Fault} (hf : f.tooLarge = false) (d : Decimal) (places : Nat) :
    Avoids f (d.toFixed places) := by
  unfold toFixed
  dsimp only
  generalize (if d.scale ≤ places then _ else _) = mantissa
  split
  · refine .of_ne ?_
    rintro rfl
    cases hf
  · exact .ok _ _

end Decimal

/-- **There is a line about every opportunity** whose percentage fits and whose amount has at most 25 digits before the
point. -/
theorem Opportunity.summary_bounded {amount profit : Decimal} (hamount : |amount.toRat| < 10 ^ 25)
    (hprofit : |profit.toRat| ≤ 10 ^ 26) : ∃ text, Opportunity.summary amount profit = .ok text := by
  have hhundred : (100 : Decimal).toRat = 100 := toRat_ofNat (by decide)
  have hproduct : |profit.toRat * (100 : Decimal).toRat| ≤ 10 ^ 28 := by
    rw [hhundred, abs_mul, abs_of_pos (by norm_num : (0 : Rat) < 100)]
    linarith
  obtain ⟨percent, hpercent, -⟩ := mul_bounded (a := profit) (b := 100) (n := 10 ^ 28) (by decide)
    (by exact_mod_cast hproduct)
  obtain ⟨size, hsize⟩ := toFixed_isOk (d := amount) (n := 25) 6 (by decide) (by decide) (by decide)
    (whole_lt_of_abs_lt (by exact_mod_cast hamount))
  obtain ⟨share, hshare⟩ := toFixed_isOk (d := percent.roundPlaces 2) (n := 29) 2 (by decide) (by decide)
    (by decide) (whole_lt _)
  exact ⟨_, Outcome.bind_eq_ok.2 ⟨percent, hpercent, Outcome.bind_eq_ok.2 ⟨size, hsize,
    Outcome.bind_eq_ok.2 ⟨share, hshare, rfl⟩⟩⟩⟩

theorem Opportunity.summary_avoids {f : Fault} (hf : f.tooLarge = false) (amount profit : Decimal) :
    Avoids f (Opportunity.summary amount profit) :=
  (mul_avoids hf _ _).bind fun _ _ => (toFixed_avoids hf _ _).bind fun _ _ =>
    (toFixed_avoids hf _ _).bind fun _ _ => .ok _ _

/-! ## Limit prices -/

/-- A limit price, for a price and a buffer that leave room for their product. -/
theorem bufferedPrice_bounded {quoted buffer : Decimal} {m n : Nat} (side : Side) (hmn : m + n ≤ 28)
    (hquoted : |quoted.toRat| ≤ 3 * 10 ^ m) (hbuffer : 0 ≤ buffer) (hbuffer_le : buffer.toRat ≤ 10 ^ n) :
    ∃ price, bufferedPrice quoted side buffer = .ok price := by
  have hbuffer' := toRat_nonneg.2 hbuffer
  have hone : (1 : Rat) ≤ 10 ^ n := one_le_pow₀ (by norm_num)
  have hlimit : 2 * 10 ^ n < limit := by
    have := ten_pow_lt_limit (show n ≤ 28 by omega)
    omega
  -- the factor is `1 + buffer` or `1 - buffer`, and of at most twice `10 ^ n` either way
  have hproduct : ∀ factor : Decimal, |factor.toRat| ≤ ((2 * 10 ^ n : Nat) : Rat) →
      ∃ price, quoted.mul factor = .ok price := by
    intro factor hfactor
    push_cast at hfactor
    have hproduct : |quoted.toRat * factor.toRat| ≤ 6 * 10 ^ (m + n) := by
      rw [abs_mul]
      calc |quoted.toRat| * |factor.toRat| ≤ 3 * 10 ^ m * (2 * 10 ^ n) := by gcongr
        _ = 6 * 10 ^ (m + n) := by rw [pow_add]; ring
    obtain ⟨price, hprice, -⟩ := mul_bounded (a := quoted) (b := factor) (n := 6 * 10 ^ (m + n))
      (by have := ten_pow_lt_limit hmn; omega) (by exact_mod_cast hproduct)
    exact ⟨price, hprice⟩
  cases side with
  | buy =>
    obtain ⟨factor, hfactor, hfactor_le⟩ := add_bounded (a := 1) (b := buffer) hlimit (by
      rw [toRat_one, abs_of_nonneg (by linarith)]
      push_cast
      linarith)
    obtain ⟨price, hprice⟩ := hproduct factor hfactor_le
    exact ⟨price.max 0, Outcome.bind_eq_ok.2 ⟨factor, hfactor, Outcome.bind_eq_ok.2 ⟨price, hprice, rfl⟩⟩⟩
  | sell =>
    obtain ⟨factor, hfactor, hfactor_le⟩ := sub_bounded (a := 1) (b := buffer) hlimit (by
      rw [toRat_one, abs_le]
      push_cast
      constructor <;> linarith)
    obtain ⟨price, hprice⟩ := hproduct factor hfactor_le
    exact ⟨price.max 0, Outcome.bind_eq_ok.2 ⟨factor, hfactor, Outcome.bind_eq_ok.2 ⟨price, hprice, rfl⟩⟩⟩

theorem bufferedPrice_avoids {f : Fault} (hf : f.tooLarge = false) (quoted buffer : Decimal) (side : Side) :
    Avoids f (bufferedPrice quoted side buffer) := by
  unfold bufferedPrice
  cases side with
  | buy => exact (add_avoids hf _ _).bind fun _ _ => (mul_avoids hf _ _).bind fun _ _ => .ok _ _
  | sell => exact (sub_avoids hf _ _).bind fun _ _ => (mul_avoids hf _ _).bind fun _ _ => .ok _ _

/-- The legs of a proposal within the digits, in the order of the proposal. -/
theorem Proposal.Within.sides {d : Digits} {p : Proposal} (h : p.Within d) :
    |p.first.price.toRat| ≤ 3 * 10 ^ (d.price + 1) ∧ |p.second.price.toRat| ≤ 3 * 10 ^ (d.price + 1) := by
  have hbuy : |p.buySide.price.toRat| ≤ 3 * 10 ^ (d.price + 1) := by
    rw [abs_of_pos (toRat_pos.2 h.buy_valid.price_pos)]
    exact h.buy_le
  have hsell : |p.sellSide.price.toRat| ≤ 3 * 10 ^ (d.price + 1) := by
    rw [abs_of_pos (toRat_pos.2 h.sell_valid.price_pos), pow_succ]
    linarith [h.sell_le, ten_pow_pos d.price]
  rcases p.sides_cases with ⟨hfirst, hsecond⟩ | ⟨hsecond, hfirst⟩
  · exact ⟨hfirst ▸ hbuy, hsecond ▸ hsell⟩
  · exact ⟨hfirst ▸ hsell, hsecond ▸ hbuy⟩

/-- **A proposal within the digits has its orders.** -/
theorem Proposal.Within.candidates_bounded {s : Settings} {d : Digits} {p : Proposal} (h : p.Within d)
    (hbuffer1 : s.market1SlippageBuffer.toRat ≤ 10 ^ d.buffer)
    (hbuffer2 : s.market2SlippageBuffer.toRat ≤ 10 ^ d.buffer) : ∃ orders, p.candidates s = .ok orders := by
  have hcandidate : ∀ l : Leg, |l.price.toRat| ≤ 3 * 10 ^ (d.price + 1) → ∃ order, l.candidate s = .ok order := by
    intro l hl
    have hbuffer : (s.slippageBuffer l.venue.connector).toRat ≤ 10 ^ d.buffer := by
      unfold Settings.slippageBuffer
      split
      · exact hbuffer1
      · exact hbuffer2
    obtain ⟨price, hprice⟩ := bufferedPrice_bounded l.side (by have := d.limit_room; omega) hl
      (s.slippageBuffer_nonneg l.venue.connector) hbuffer
    exact ⟨_, Leg.candidate_eq_ok.2 ⟨price, hprice, rfl⟩⟩
  obtain ⟨first, hfirst⟩ := hcandidate p.first h.sides.1
  obtain ⟨second, hsecond⟩ := hcandidate p.second h.sides.2
  exact ⟨[first, second], Proposal.candidates_eq_ok.2 ⟨first, second, hfirst, hsecond, rfl⟩⟩

theorem Proposal.candidates_avoids {f : Fault} (hf : f.tooLarge = false) (s : Settings) (p : Proposal) :
    Avoids f (p.candidates s) := by
  have hcandidate : ∀ l : Leg, Avoids f (l.candidate s) :=
    fun l => (bufferedPrice_avoids hf _ _ _).bind fun _ _ => .ok _ _
  exact (hcandidate _).bind fun _ _ => (hcandidate _).bind fun _ _ => .ok _ _

/-! ## Mid prices -/

theorem toRat_two : (2 : Decimal).toRat = 2 := toRat_ofNat (by decide)

/-- **Two bounded prices have a price between them.** -/
theorem TopOfBook.midPrice_bounded {t : TopOfBook} {m : Nat} (hm : m ≤ 28)
    (hbid : ∀ bid, t.bestBid = some bid → |bid.toRat| ≤ 10 ^ m)
    (hask : ∀ ask, t.bestAsk = some ask → |ask.toRat| ≤ 10 ^ m) : ∃ mid, t.midPrice = .ok mid := by
  have hlimit : 2 * 10 ^ m < limit := by
    have := ten_pow_lt_limit hm
    omega
  unfold TopOfBook.midPrice
  cases hb : t.bestBid with
  | none => exact ⟨none, rfl⟩
  | some bid =>
    cases ha : t.bestAsk with
    | none => exact ⟨none, rfl⟩
    | some ask =>
      have hsum : |bid.toRat + ask.toRat| ≤ 2 * 10 ^ m := by
        have := abs_add_le bid.toRat ask.toRat
        linarith [hbid bid hb, hask ask ha]
      obtain ⟨total, htotal, htotal_le⟩ := add_bounded (a := bid) (b := ask) hlimit (by exact_mod_cast hsum)
      obtain ⟨half, hhalf, -⟩ := div_bounded (a := total) (b := 2) (by rw [toRat_two]; norm_num) hlimit (by
        rw [toRat_two, abs_div, abs_of_pos (by norm_num : (0 : Rat) < 2)]
        exact (div_le_self (abs_nonneg _) (by norm_num)).trans htotal_le)
      exact ⟨some half, Outcome.bind_eq_ok.2 ⟨total, htotal, Outcome.bind_eq_ok.2 ⟨half, hhalf, rfl⟩⟩⟩

theorem TopOfBook.midPrice_avoids {f : Fault} (hf : f.tooLarge = false) (t : TopOfBook) : Avoids f t.midPrice := by
  unfold TopOfBook.midPrice
  split
  · exact (add_avoids hf _ _).bind fun _ _ =>
      (div_avoids hf _ (by rw [toRat_two]; norm_num)).bind fun _ _ => .ok _ _
  · exact .ok _ _

end TwoVenue
