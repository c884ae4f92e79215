import TwoVenue.Proofs.Market.Depth
import TwoVenue.Proofs.Search.Samples

/-!
# Why samples are skipped

An amount makes a proposal if both venues have a quote for it that a leg can be made of. The venues of an engine quote
from price curves: that of a book is the average price of its levels, that of a scripted venue is given.

- `Usable`: a quote that a leg can be made of. `exists_propose_iff`: **what a proposal needs**.
- `Unfit`: a price and a fee that no leg can be made of.
- `Quoter.Follows`: a venue quotes from a curve. `BookSource.follows`, `ScriptedSource.follows`: both kinds of sources do.
- `skipped_iff`: **a sample is skipped if and only if one of its two venues is unfit for it**.
-/

namespace TwoVenue

variable {q : Quoters} {buy sell : Market} {a : Decimal}

/-! ## What a proposal needs -/

/-- Whether a venue has a quote for an amount that a leg can be made of. -/
def Usable (venue : Quoter) (side : Side) (a : Decimal) : Prop :=
  ∃ quote, venue.quote side a = .ok quote ∧ 0 < quote.price ∧ 0 ≤ quote.fee ∧ quote.fee < 1

/-- **A proposal needs two usable quotes**, and nothing more. -/
theorem exists_propose_iff (ha : 0 < a) (hvenues : (q buy).venue ≠ (q sell).venue) :
    (∃ p, (propose q buy sell a).outcome = .ok p) ↔ Usable (q buy) .buy a ∧ Usable (q sell) .sell a := by
  constructor
  · rintro ⟨p, hp⟩
    obtain ⟨⟨buyQuote, sellQuote, hbuy, hsell, hfirst, hsecond⟩, hfirst_valid, hsecond_valid⟩ := propose_eq_ok.1 hp
    rw [hfirst] at hfirst_valid
    rw [hsecond] at hsecond_valid
    exact ⟨⟨buyQuote, hbuy, hfirst_valid.price_pos, hfirst_valid.fee_nonneg, hfirst_valid.fee_lt_one⟩,
      ⟨sellQuote, hsell, hsecond_valid.price_pos, hsecond_valid.fee_nonneg, hsecond_valid.fee_lt_one⟩⟩
  · rintro ⟨⟨buyQuote, hbuy, hbuy_price, hbuy_fee⟩, ⟨sellQuote, hsell, hsell_price, hsell_fee⟩⟩
    let p : Proposal :=
      { first := ⟨(q buy).venue, .buy, a, buyQuote.price, buyQuote.fee⟩
        second := ⟨(q sell).venue, .sell, a, sellQuote.price, sellQuote.fee⟩
        sides_ne := nofun
        amounts_equiv := rfl
        venues_ne := hvenues }
    refine ⟨p, propose_eq_ok.2 ⟨⟨buyQuote, sellQuote, hbuy, hsell, rfl, rfl⟩, ?_, ?_⟩⟩
    · exact ⟨ha, hbuy_price, hbuy_fee.1, hbuy_fee.2⟩
    · exact ⟨ha, hsell_price, hsell_fee.1, hsell_fee.2⟩

/-- An amount that the selling market does not answer for makes no proposal, if it gets that far. -/
theorem propose_of_unsold {quote : Quote} {failure : Failure QuoteError} (hbuy : (q buy).quote .buy a = .ok quote)
    (hsell : (q sell).quote .sell a = .error failure) : (propose q buy sell a).outcome = .error failure := by
  unfold propose
  refine Traced.bind_eq_error.2 (Or.inr ⟨quote, ?_, Traced.bind_eq_error.2 (Or.inl ?_)⟩)
  · rw [askQuote_outcome, hbuy]
  · rw [askQuote_outcome, hsell]

/-! ## Venues that quote from a curve -/

/-- Whether no leg can be made of a price and a fee: there is no price, or it is not positive, or the fee is not a part of
the whole. -/
def Unfit (price : Except Fault (Option Decimal)) (fee : Decimal) : Prop :=
  price = .ok none ∨ (∃ p, price = .ok (some p) ∧ p ≤ 0) ∨ fee < 0 ∨ 1 ≤ fee

instance (price : Except Fault (Option Decimal)) (fee : Decimal) : Decidable (Unfit price fee) :=
  match price with
  | .ok none => isTrue (Or.inl rfl)
  | .ok (some p) => decidable_of_iff (p ≤ 0 ∨ fee < 0 ∨ 1 ≤ fee) (by simp [Unfit])
  | .error f => decidable_of_iff (fee < 0 ∨ 1 ≤ fee) (by simp [Unfit])

/-- Whether a venue quotes an amount from the curve and the fee of each side. An amount without a price is one that it
cannot fill. -/
structure Quoter.Follows (venue : Quoter) (curve : Side → PriceCurve) (fee : Side → Decimal) (a : Decimal) : Prop where
  priced : ∀ {side price}, curve side a = .ok (some price) → venue.quote side a = .ok ⟨price, fee side⟩
  unfilled : ∀ {side}, curve side a = .ok none →
    ∃ available, venue.quote side a = .error (.error (.insufficientLiquidity venue.venue.connector a available))
  broken : ∀ {side f}, curve side a = .error f → venue.quote side a = .error (.fault f)

namespace Quoter.Follows

variable {venue : Quoter} {curve : Side → PriceCurve} {fee : Side → Decimal} {side : Side}

theorem not_usable (h : venue.Follows curve fee a) (hunfit : Unfit (curve side a) (fee side)) :
    ¬ Usable venue side a := by
  rintro ⟨quote, hquote, hprice, hfee⟩
  cases hcurve : curve side a with
  | error f => cases hquote.symm.trans (h.broken hcurve)
  | ok price =>
    cases price with
    | none =>
      obtain ⟨available, hunfilled⟩ := h.unfilled hcurve
      cases hquote.symm.trans hunfilled
    | some price =>
      cases hquote.symm.trans (h.priced hcurve)
      rw [hcurve] at hunfit
      rcases hunfit with hnone | ⟨p, hp, hnonpos⟩ | hnegative | hone
      · cases hnone
      · cases hp
        exact absurd hprice (Decimal.not_lt.2 hnonpos)
      · exact absurd hfee.1 (Decimal.not_le.2 hnegative)
      · exact absurd hfee.2 (Decimal.not_lt.2 hone)

/-- A venue that is not usable is unfit, unless its arithmetic fails. -/
theorem unfit (h : venue.Follows curve fee a) (hbroken : ∀ f, venue.quote side a ≠ .error (.fault f))
    (husable : ¬ Usable venue side a) : Unfit (curve side a) (fee side) := by
  cases hcurve : curve side a with
  | error f => exact absurd (h.broken hcurve) (hbroken f)
  | ok price =>
    cases price with
    | none => exact Or.inl rfl
    | some price =>
      by_contra hfit
      rw [Unfit, not_or, not_or, not_or, Decimal.not_lt, Decimal.not_le] at hfit
      obtain ⟨-, hprice, hfee⟩ := hfit
      refine husable ⟨_, h.priced hcurve, Decimal.not_le.1 fun hnonpos => ?_, hfee⟩
      exact hprice ⟨price, rfl, hnonpos⟩

/-- A venue that quotes from a curve has nothing to say about an amount but that it cannot fill it. -/
theorem eq_of_error {e : QuoteError} (h : venue.Follows curve fee a) (hquote : venue.quote side a = .error (.error e)) :
    ∃ available, e = .insufficientLiquidity venue.venue.connector a available := by
  cases hcurve : curve side a with
  | error f => cases (h.broken hcurve).symm.trans hquote
  | ok price =>
    cases price with
    | some price => cases (h.priced hcurve).symm.trans hquote
    | none =>
      obtain ⟨available, hunfilled⟩ := h.unfilled hcurve
      cases hunfilled.symm.trans hquote
      exact ⟨available, rfl⟩

end Quoter.Follows

/-- **A sample is skipped if and only if the buying venue or the selling one is unfit for it.** -/
theorem skipped_iff (curve : Market → Side → PriceCurve) (fee : Market → Side → Decimal) (ha : 0 < a)
    (hvenues : (q buy).venue ≠ (q sell).venue) (hfollows : ∀ m, (q m).Follows (curve m) (fee m) a)
    (hpassed : Passed q buy sell a) :
    (∃ e, (propose q buy sell a).outcome = .error (.error e)) ↔
      Unfit (curve buy .buy a) (fee buy .buy) ∨ Unfit (curve sell .sell a) (fee sell .sell) := by
  have hproposes := exists_propose_iff ha hvenues
  constructor
  · rintro ⟨e, he⟩
    -- the error is not a fault, so neither are the answers of the venues that were asked
    by_cases hbuy : Usable (q buy) .buy a
    · have hsell : ¬ Usable (q sell) .sell a := by
        intro hsell
        obtain ⟨p, hp⟩ := hproposes.2 ⟨hbuy, hsell⟩
        cases hp.symm.trans he
      obtain ⟨quote, hquote, -⟩ := hbuy
      refine Or.inr ((hfollows sell).unfit (fun f hf => ?_) hsell)
      cases (propose_of_unsold hquote hf).symm.trans he
    · refine Or.inl ((hfollows buy).unfit (fun f hf => ?_) hbuy)
      cases (propose_of_unanswered hf).symm.trans he
  · intro hunfit
    cases hpassed with
    | skipped h => exact ⟨_, h⟩
    | made h =>
      obtain ⟨hbuy, hsell⟩ := hproposes.1 ⟨_, h.proposal⟩
      rcases hunfit with hunfit | hunfit
      · exact absurd hbuy ((hfollows buy).not_usable hunfit)
      · exact absurd hsell ((hfollows sell).not_usable hunfit)

/-! ## The curves of both kinds of sources -/

/-- The price of a walk that has filled its target. -/
def Fill.price? : Fill → Option Decimal
  | .filled price => some price
  | .short _ => none

/-- The average price of an amount on a side of a book, if its levels can fill it. -/
def Book.curve (b : Book) (side : Side) : PriceCurve := fun a => (walk (BookSource.levels b side) a).map Fill.price?

namespace Book

variable {b : Book} {side : Side}

theorem curve_eq_some {price : Decimal} :
    b.curve side a = .ok (some price) ↔ walk (BookSource.levels b side) a = .ok (.filled price) := by
  unfold curve
  cases walk (BookSource.levels b side) a with
  | error f => simp [Except.map]
  | ok fill => cases fill <;> simp [Except.map, Fill.price?]

theorem curve_eq_none :
    b.curve side a = .ok none ↔ ∃ available, walk (BookSource.levels b side) a = .ok (.short available) := by
  unfold curve
  cases walk (BookSource.levels b side) a with
  | error f => simp [Except.map]
  | ok fill => cases fill <;> simp [Except.map, Fill.price?]

theorem curve_eq_error {f : Fault} : b.curve side a = .error f ↔ walk (BookSource.levels b side) a = .error f := by
  unfold curve
  cases walk (BookSource.levels b side) a <;> simp [Except.map]

end Book

/-- A book quotes from its curve. -/
theorem BookSource.follows {source : BookSource} {b : Book} (hbook : source.book = some b) (ha : 0 < a) :
    (Source.book source).quoter.Follows b.curve (fun _ => b.feeRate) a := by
  have hquote : ∀ side, (Source.book source).quoter.quote side a =
      (Outcome.ofArithmetic (walk (levels b side) a) >>= fun fill => match fill with
        | .filled price => pure ⟨price, b.feeRate⟩
        | .short available => throw (.error (.insufficientLiquidity source.venue.connector a available))) := by
    intro side
    show source.quote source.venue.tradingPair side a = _
    unfold quote
    rw [read_own_some hbook, Outcome.ofCheck_ok]
    show (if a ≤ 0 then _ else _ : Outcome QuoteError Quote) = _
    rw [if_neg (Decimal.not_le.2 ha)]
    rfl
  constructor
  · intro side price hcurve
    rw [hquote, Book.curve_eq_some.1 hcurve]
    rfl
  · intro side hcurve
    obtain ⟨available, hwalk⟩ := Book.curve_eq_none.1 hcurve
    refine ⟨available, ?_⟩
    rw [hquote, hwalk]
    rfl
  · intro side f hcurve
    rw [hquote, Book.curve_eq_error.1 hcurve]
    rfl

/-- A scripted venue that answers quotes from its curves. -/
theorem ScriptedSource.follows {source : ScriptedSource} (havailable : source.unavailable = false) :
    (Source.scripted source).quoter.Follows source.curve source.fee a := by
  constructor
  · intro side price hcurve
    show source.quote side a = _
    unfold quote
    rw [havailable, hcurve]
    rfl
  · intro side hcurve
    refine ⟨0, ?_⟩
    show source.quote side a = _
    unfold quote
    rw [havailable, hcurve]
    rfl
  · intro side f hcurve
    show source.quote side a = _
    unfold quote
    rw [havailable, hcurve]
    rfl

end TwoVenue
