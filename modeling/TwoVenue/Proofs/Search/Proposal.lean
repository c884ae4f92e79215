import TwoVenue.Proofs.Decimal.Value
import TwoVenue.Proofs.Sequence

/-!
# What a proposal is made of

- `Leg.Valid`: amount and price are positive, and the fee is a part of the whole.
- `Makes`: an opportunity is what an amount makes when it is bought on one market and sold on another.
- `propose_eq_ok`: **the proposals of a search are two valid legs at the quoted prices**, the purchase first.
-/

namespace TwoVenue

/-- What holds for every leg that comes from a quote. -/
structure Leg.Valid (l : Leg) : Prop where
  amount_pos : 0 < l.amount
  price_pos : 0 < l.price
  fee_nonneg : 0 ≤ l.fee
  fee_lt_one : l.fee < 1

theorem Leg.ofQuote_eq_ok {venue : Venue} {side : Side} {amount : Decimal} {quote : Quote} {l : Leg} :
    Leg.ofQuote venue side amount quote = .ok l ↔ l = ⟨venue, side, amount, quote.price, quote.fee⟩ ∧ l.Valid := by
  unfold Leg.ofQuote
  constructor
  · intro h
    dsimp only at h
    split at h
    · cases h
    split at h
    · cases h
    split at h
    · cases h
    next hamount hprice hfee =>
    rw [not_or, Decimal.not_lt, Decimal.not_le] at hfee
    cases h
    exact ⟨rfl, Decimal.not_le.1 hamount, Decimal.not_le.1 hprice, hfee.1, hfee.2⟩
  · rintro ⟨rfl, hamount, hprice, hnonneg, hone⟩
    dsimp only at hamount hprice hnonneg hone ⊢
    have hfee : ¬ (quote.fee < 0 ∨ 1 ≤ quote.fee) := by
      rw [not_or, Decimal.not_lt, Decimal.not_le]
      exact ⟨hnonneg, hone⟩
    rw [if_neg (Decimal.not_le.2 hamount), if_neg (Decimal.not_le.2 hprice), if_neg hfee]

/-- A refused quote or request concerns the asked amount only. -/
theorem Leg.ofQuote_isSampleLocal {venue : Venue} {side : Side} {amount : Decimal} {quote : Quote} {e : QuoteError}
    (h : Leg.ofQuote venue side amount quote = .error e) : e.isSampleLocal = true := by
  unfold Leg.ofQuote at h
  dsimp only at h
  split at h
  · cases h; rfl
  split at h
  · cases h; rfl
  split at h
  · cases h; rfl
  · cases h

theorem Proposal.pair?_eq_some {first second : Leg} {p : Proposal} :
    Proposal.pair? first second = some p ↔ p.first = first ∧ p.second = second := by
  unfold Proposal.pair?
  constructor
  · intro h
    split at h
    · cases h
      exact ⟨rfl, rfl⟩
    · cases h
  · rintro ⟨rfl, rfl⟩
    rw [dif_pos ⟨p.sides_ne, p.amounts_equiv, p.venues_ne⟩]

variable {q : Quoters} {buy sell : Market} {a : Decimal} {p : Proposal}

theorem askQuote_outcome (q : Quoters) (m : Market) (side : Side) (a : Decimal) :
    (askQuote q m side a).outcome = (q m).quote side a := by
  unfold askQuote
  rw [Traced.emit_bind_outcome]
  cases h : (q m).quote side a with
  | error e => rw [Traced.bind_of_error (Traced.ofOutcome_outcome _)]
  | ok quote =>
    rw [Traced.bind_of_ok (Traced.ofOutcome_outcome _)]
    split <;> simp

/-- What holds for every proposal of a search. -/
structure Proposed (q : Quoters) (buy sell : Market) (a : Decimal) (p : Proposal) : Prop where
  quotes : ∃ buyQuote sellQuote, (q buy).quote .buy a = .ok buyQuote ∧ (q sell).quote .sell a = .ok sellQuote ∧
    p.first = ⟨(q buy).venue, .buy, a, buyQuote.price, buyQuote.fee⟩ ∧
    p.second = ⟨(q sell).venue, .sell, a, sellQuote.price, sellQuote.fee⟩
  first_valid : p.first.Valid
  second_valid : p.second.Valid

theorem propose_eq_ok : (propose q buy sell a).outcome = .ok p ↔ Proposed q buy sell a p := by
  unfold propose pairQuotes
  constructor
  · intro h
    obtain ⟨buyQuote, hbuy, h⟩ := Traced.bind_eq_ok.1 h
    obtain ⟨sellQuote, hsell, h⟩ := Traced.bind_eq_ok.1 h
    rw [askQuote_outcome] at hbuy hsell
    rw [Traced.emit_bind_outcome, Traced.ofOutcome_outcome, Outcome.ofCheck_eq_ok] at h
    obtain ⟨first, hfirst, h⟩ := Outcome.bind_eq_ok.1 h
    obtain ⟨second, hsecond, h⟩ := Outcome.bind_eq_ok.1 h
    split at h
    · next p' hp =>
      cases h
      obtain ⟨rfl, rfl⟩ := Proposal.pair?_eq_some.1 hp
      obtain ⟨hfirst, hfv⟩ := Leg.ofQuote_eq_ok.1 hfirst
      obtain ⟨hsecond, hsv⟩ := Leg.ofQuote_eq_ok.1 hsecond
      exact ⟨⟨buyQuote, sellQuote, hbuy, hsell, hfirst, hsecond⟩, hfv, hsv⟩
    · cases h
  · rintro ⟨⟨buyQuote, sellQuote, hbuy, hsell, hfirst, hsecond⟩, hfv, hsv⟩
    refine Traced.bind_eq_ok.2 ⟨buyQuote, by rw [askQuote_outcome, hbuy], ?_⟩
    refine Traced.bind_eq_ok.2 ⟨sellQuote, by rw [askQuote_outcome, hsell], ?_⟩
    rw [Traced.emit_bind_outcome, Traced.ofOutcome_outcome, Outcome.ofCheck_eq_ok]
    refine Outcome.bind_eq_ok.2 ⟨p.first, Leg.ofQuote_eq_ok.2 ⟨hfirst, hfv⟩, ?_⟩
    refine Outcome.bind_eq_ok.2 ⟨p.second, Leg.ofQuote_eq_ok.2 ⟨hsecond, hsv⟩, ?_⟩
    rw [Proposal.pair?_eq_some.2 ⟨rfl, rfl⟩]
    rfl

namespace Proposed

theorem buySide_eq (h : Proposed q buy sell a p) : p.buySide = p.first := by
  obtain ⟨_, _, _, _, hfirst, _⟩ := h.quotes
  unfold Proposal.buySide Leg.isBuy
  rw [hfirst]
  rfl

theorem sellSide_eq (h : Proposed q buy sell a p) : p.sellSide = p.second := by
  obtain ⟨_, _, _, _, hfirst, _⟩ := h.quotes
  unfold Proposal.sellSide Leg.isBuy
  rw [hfirst]
  rfl

theorem buySide_venue (h : Proposed q buy sell a p) : p.buySide.venue = (q buy).venue := by
  obtain ⟨_, _, _, _, hfirst, _⟩ := h.quotes
  rw [h.buySide_eq, hfirst]

theorem sellSide_venue (h : Proposed q buy sell a p) : p.sellSide.venue = (q sell).venue := by
  obtain ⟨_, _, _, _, _, hsecond⟩ := h.quotes
  rw [h.sellSide_eq, hsecond]

end Proposed

/-! ## What an amount makes -/

/-- The opportunity that an amount makes: its proposal with the profit of the proposal. -/
structure Makes (q : Quoters) (buy sell : Market) (a : Decimal) (o : Opportunity) : Prop where
  proposal : (propose q buy sell a).outcome = .ok o.proposal
  profit : o.proposal.profit true = .ok o.profit

/-- An amount makes one opportunity at most. -/
theorem Makes.unique {o o' : Opportunity} (h : Makes q buy sell a o) (h' : Makes q buy sell a o') : o = o' := by
  cases o with
  | mk p profit =>
    cases o' with
    | mk p' profit' =>
      have hp : p = p' := Except.ok.inj (h.proposal.symm.trans h'.proposal)
      subst hp
      have hprofit : profit = profit' := Except.ok.inj (h.profit.symm.trans h'.profit)
      rw [hprofit]

end TwoVenue
