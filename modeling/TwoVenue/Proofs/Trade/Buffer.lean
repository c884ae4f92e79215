import TwoVenue.Proofs.Decimal.Operations
import TwoVenue.Proofs.Market.Depth
import TwoVenue.Trade.Candidates

/-!
# Limit prices

A buffer makes a limit price worse than the quote, and its roundings do not turn that around: without a buffer the limit
is the quote itself, and a worse factor or a lower quote never makes it better.

- `limitValue`: the value of a limit price, from its quote and its factor. `limitValue_mono`: it keeps the order of the
  factors, and `limitValue_mono_left`: that of the quotes.
- `bufferedPrice_toRat`: **limit prices have these values**.
- `bufferedPrice_worse`: **a limit price is on the safe side of its quote**. `bufferedPrice_anti`: a larger buffer moves
  it further. `bufferedPrice_mono`: a higher quote has a higher limit.
- `Leg.candidate_eq_ok`: the order for a leg.
- `Settings.slippageBuffer_nonneg`: no connector has a negative buffer.
-/

namespace TwoVenue

open Decimal

/-! ## The value of a limit price -/

/-- The value of a limit price: factor and product are rounded, and what is negative becomes zero. -/
def limitValue (quoted factor : Rat) : Rat := max (nearest (quoted * nearest factor)) 0

section Value

variable {quoted quoted' factor factor' : Rat}

theorem limitValue_mono (hquoted : 0 ≤ quoted) (h : factor ≤ factor') :
    limitValue quoted factor ≤ limitValue quoted factor' :=
  max_le_max_right 0 (nearest_mono (mul_le_mul_of_nonneg_left (nearest_mono h) hquoted))

/-- Nothing is left of a quote whose factor is not positive. -/
theorem limitValue_of_nonpos (hquoted : 0 ≤ quoted) (h : factor ≤ 0) : limitValue quoted factor = 0 :=
  max_eq_right (nearest_nonpos (mul_nonpos_of_nonneg_of_nonpos hquoted (nearest_nonpos h)))

theorem limitValue_mono_left (hquoted : 0 ≤ quoted) (h : quoted ≤ quoted') :
    limitValue quoted factor ≤ limitValue quoted' factor := by
  by_cases hfactor : 0 ≤ factor
  · exact max_le_max_right 0 (nearest_mono (mul_le_mul_of_nonneg_right h (nearest_nonneg hfactor)))
  · -- a negative factor turns the order of the products around, but then both limits are zero
    rw [limitValue_of_nonpos hquoted (not_le.1 hfactor).le, limitValue_of_nonpos (hquoted.trans h) (not_le.1 hfactor).le]

/-- Without a buffer the limit is the quote. -/
theorem limitValue_one {d : Decimal} (hd : 0 ≤ d) : limitValue d.toRat 1 = d.toRat := by
  unfold limitValue
  rw [nearest_one, mul_one, nearest_toRat, max_eq_left (toRat_nonneg.2 hd)]

end Value

/-! ## Limit prices -/

/-- The factor of a limit price, before it is rounded. -/
def Side.factor (side : Side) (buffer : Decimal) : Rat :=
  match side with
  | .buy => 1 + buffer.toRat
  | .sell => 1 - buffer.toRat

section Price

variable {quoted quoted' buffer buffer' price price' : Decimal} {side : Side}

/-- The steps of the computation of a limit price. -/
theorem bufferedPrice_eq_ok (h : bufferedPrice quoted side buffer = .ok price) :
    ∃ factor product, factor.toRat = nearest (side.factor buffer) ∧ quoted.mul factor = .ok product ∧
      price = product.max 0 := by
  unfold bufferedPrice at h
  cases side with
  | buy =>
    obtain ⟨factor, hfactor, h⟩ := Outcome.bind_eq_ok.1 h
    obtain ⟨product, hproduct, h⟩ := Outcome.bind_eq_ok.1 h
    refine ⟨factor, product, ?_, hproduct, (Except.ok.inj h).symm⟩
    rw [add_toRat hfactor, toRat_one]
    rfl
  | sell =>
    obtain ⟨factor, hfactor, h⟩ := Outcome.bind_eq_ok.1 h
    obtain ⟨product, hproduct, h⟩ := Outcome.bind_eq_ok.1 h
    refine ⟨factor, product, ?_, hproduct, (Except.ok.inj h).symm⟩
    rw [sub_toRat hfactor, toRat_one]
    rfl

/-- **The value of a limit price**, as far as it has one. -/
theorem bufferedPrice_toRat (h : bufferedPrice quoted side buffer = .ok price) :
    price.toRat = limitValue quoted.toRat (side.factor buffer) := by
  obtain ⟨factor, product, hfactor, hproduct, rfl⟩ := bufferedPrice_eq_ok h
  rw [toRat_max, toRat_zero, mul_toRat hproduct, hfactor, limitValue]

theorem bufferedPrice_nonneg (h : bufferedPrice quoted side buffer = .ok price) : 0 ≤ price := by
  rw [← toRat_nonneg, bufferedPrice_toRat h]
  exact le_max_right _ _

/-- A buyer may pay at least the quoted price, and a seller may receive at most the quoted price. -/
theorem bufferedPrice_worse (hquoted : 0 < quoted) (hbuffer : 0 ≤ buffer)
    (h : bufferedPrice quoted side buffer = .ok price) : side.Worse (price.toRat - quoted.toRat) := by
  have hquoted' := (toRat_pos.2 hquoted).le
  have hbuffer' := toRat_nonneg.2 hbuffer
  have hone : limitValue quoted.toRat 1 = quoted.toRat := limitValue_one hquoted.le
  have hvalue := bufferedPrice_toRat h
  cases side with
  | buy =>
    have hle : limitValue quoted.toRat 1 ≤ limitValue quoted.toRat (Side.buy.factor buffer) :=
      limitValue_mono hquoted' (le_add_of_nonneg_right hbuffer')
    rw [hone, ← hvalue] at hle
    exact sub_nonneg.2 hle
  | sell =>
    have hle : limitValue quoted.toRat (Side.sell.factor buffer) ≤ limitValue quoted.toRat 1 :=
      limitValue_mono hquoted' (sub_le_self _ hbuffer')
    rw [hone, ← hvalue] at hle
    exact sub_nonpos.2 hle

/-- **A larger buffer moves the limit further**, for a buyer up and for a seller down. -/
theorem bufferedPrice_anti (hquoted : 0 < quoted) (hle : buffer ≤ buffer')
    (h : bufferedPrice quoted side buffer = .ok price) (h' : bufferedPrice quoted side buffer' = .ok price') :
    side.Worse (price'.toRat - price.toRat) := by
  have hquoted' := (toRat_pos.2 hquoted).le
  have hle' := toRat_le_toRat.2 hle
  rw [bufferedPrice_toRat h, bufferedPrice_toRat h']
  cases side with
  | buy => exact sub_nonneg.2 (limitValue_mono hquoted' (add_le_add_right hle' 1))
  | sell => exact sub_nonpos.2 (limitValue_mono hquoted' (sub_le_sub_left hle' 1))

/-- **A higher quote never has a lower limit**, whatever the buffer is. -/
theorem bufferedPrice_mono (hquoted : 0 < quoted) (hle : quoted ≤ quoted')
    (h : bufferedPrice quoted side buffer = .ok price) (h' : bufferedPrice quoted' side buffer = .ok price') :
    price ≤ price' := by
  rw [← toRat_le_toRat, bufferedPrice_toRat h, bufferedPrice_toRat h']
  exact limitValue_mono_left (toRat_pos.2 hquoted).le (toRat_le_toRat.2 hle)

/-- A buffer of the whole price leaves nothing to a seller. -/
theorem bufferedPrice_of_one_le (hquoted : 0 < quoted) (hbuffer : 1 ≤ buffer)
    (h : bufferedPrice quoted .sell buffer = .ok price) : price ≈ 0 := by
  have hbuffer' := toRat_le_toRat.2 hbuffer
  rw [toRat_one] at hbuffer'
  rw [← toRat_inj, bufferedPrice_toRat h, toRat_zero]
  exact limitValue_of_nonpos (toRat_pos.2 hquoted).le (sub_nonpos.2 hbuffer')

end Price

/-! ## Orders -/

theorem Leg.candidate_eq_ok {s : Settings} {l : Leg} {o : Order} :
    l.candidate s = .ok o ↔ ∃ price, bufferedPrice l.price l.side (s.slippageBuffer l.venue.connector) = .ok price ∧
      o = .taker l.venue l.side l.amount price := by
  unfold Leg.candidate
  rw [Outcome.bind_eq_ok]
  constructor
  · rintro ⟨price, hprice, h⟩
    cases h
    exact ⟨price, hprice, rfl⟩
  · rintro ⟨price, hprice, rfl⟩
    exact ⟨price, hprice, rfl⟩

theorem Proposal.candidates_eq_ok {s : Settings} {p : Proposal} {orders : List Order} :
    p.candidates s = .ok orders ↔
      ∃ first second, p.first.candidate s = .ok first ∧ p.second.candidate s = .ok second ∧ orders = [first, second] := by
  unfold Proposal.candidates
  rw [Outcome.bind_eq_ok]
  constructor
  · rintro ⟨first, hfirst, h⟩
    obtain ⟨second, hsecond, h⟩ := Outcome.bind_eq_ok.1 h
    cases h
    exact ⟨first, second, hfirst, hsecond, rfl⟩
  · rintro ⟨first, second, hfirst, hsecond, rfl⟩
    exact ⟨first, hfirst, Outcome.bind_eq_ok.2 ⟨second, hsecond, rfl⟩⟩

theorem Settings.slippageBuffer_nonneg (s : Settings) (connector : String) : 0 ≤ s.slippageBuffer connector := by
  unfold Settings.slippageBuffer
  split
  · exact s.buffer1_nonneg
  · exact s.buffer2_nonneg

end TwoVenue
