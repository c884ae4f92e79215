import TwoVenue.Proofs.Search.Optimum
import TwoVenue.Proofs.Search.Sweep
import TwoVenue.Proofs.Trade.Ceiling

/-!
# Faults of a search

A fault of a search is one of its sweep, of a walk or of a profit. A sweep only fails because its amounts have no room, and
the others because a number is too large. Within digits that leave room for all numbers there is no fault of that kind.

- `fault_of_findOptimal`: **all faults of a search**.
- `Proposed.within`: **what quotes within some digits make is a proposal within these digits**.
- `findOptimal_bounded`: **a search within some digits has no fault**. `found_bounded`: what it finds.
-/

namespace TwoVenue

open Decimal

variable {q : Quoters} {sources : Market → Source} {s : Settings} {d : Digits} {a : Decimal} {f : Fault}

/-- A fault that stops an amount comes from one of its two quotes or from its profit. -/
theorem not_stops_of {buy sell : Market} (hquote : ∀ m side, Avoids (.fault f) ((q m).quote side a))
    (hprofit : ∀ p, Proposed q buy sell a p → Avoids f (p.profit true)) : ¬ Stops q buy sell a (.fault f) := by
  intro hstops
  cases hstops with
  | bought h => exact hquote buy .buy h
  | sold _ h => exact hquote sell .sell h
  | profit hp h => exact hprofit _ hp h

/-- **All faults of a search**, whatever the books are: a number is too large, or the amounts have no room. -/
theorem fault_of_findOptimal (hbooks : FromBooks (fun _ => True) sources)
    (h : (findOptimal s fun m => (sources m).quoter).outcome = .error (.fault f)) :
    f.tooLarge = true ∨ f = .capacityOverflow ∧ 2 ^ 58 < s.sweepSteps.toNat := by
  rcases findOptimal_eq_error h with ⟨f', hsweep, heq⟩ | ⟨amounts, -, a, -, m, hstops⟩
  · cases heq
    exact Or.inr (Settings.sweep_eq_error.1 hsweep)
  · by_contra hother
    have hf : f.tooLarge = false := Bool.eq_false_iff.2 fun hlarge => hother (Or.inl hlarge)
    refine not_stops_of (fun m side => ?_) (fun p hp => ?_) hstops
    · obtain ⟨source, -, hsource⟩ := hbooks m
      rw [hsource]
      exact BookSource.quote_avoids hf
    · refine Proposal.profit_avoids hf ?_ true
      rw [hp.buySide_eq]
      exact hp.first_valid

/-- What an amount of a sweep makes of two books that keep to some digits. -/
theorem Proposed.within {buy sell : Market} {p : Proposal} (hbooks : FromBooks (BookSource.Within d) sources)
    (ha : a.toRat ≤ 3 * 10 ^ d.amount) (hp : Proposed (fun m => (sources m).quoter) buy sell a p) : p.Within d := by
  obtain ⟨buyQuote, sellQuote, hbuy, hsell, hfirst, hsecond⟩ := hp.quotes
  obtain ⟨buySource, hbuySource, hbuyBook⟩ := hbooks buy
  obtain ⟨sellSource, hsellSource, hsellBook⟩ := hbooks sell
  rw [hbuyBook] at hbuy
  rw [hsellBook] at hsell
  have hbuy_price : p.buySide.price = buyQuote.price := by rw [hp.buySide_eq, hfirst]
  have hsell_price : p.sellSide.price = sellQuote.price := by rw [hp.sellSide_eq, hsecond]
  refine ⟨?_, ?_, ?_, ?_, ?_, ?_⟩
  · rw [hp.buySide_eq]
    exact hp.first_valid
  · rw [hp.sellSide_eq]
    exact hp.second_valid
  · rw [hbuy_price]
    exact hbuySource.ask_ge hbuy
  · rw [hbuy_price]
    exact (le_abs_self _).trans ((hbuySource.quote_bounded ha).2 _ hbuy)
  · rw [hsell_price]
    exact hsellSource.bid_le hsell
  · unfold Proposal.amount
    rw [hfirst]
    exact ha

/-- **A search within some digits has no fault**, if its amounts have room. -/
theorem findOptimal_bounded (hbooks : FromBooks (BookSource.Within d) sources)
    (hmax : s.maxOrderAmount.toRat ≤ 10 ^ d.amount) (hroom : s.sweepSteps.toNat ≤ 2 ^ 58) (f : Fault) :
    Avoids (.fault f) (findOptimal s fun m => (sources m).quoter).outcome := by
  intro h
  rcases findOptimal_eq_error h with ⟨f', hsweep, -⟩ | ⟨amounts, hamounts, a, ha, m, hstops⟩
  · exact absurd (Settings.sweep_eq_error.1 hsweep).2 (Nat.not_lt.2 hroom)
  · have ha_le := Settings.sweep_bounded hamounts hmax ha
    refine not_stops_of (fun m side => ?_) (fun p hp => ?_) hstops
    · obtain ⟨source, hsource, hbook⟩ := hbooks m
      rw [hbook]
      exact (hsource.quote_bounded ha_le).1 f
    · obtain ⟨profit, hprofit, -⟩ := (hp.within hbooks ha_le).profit_bounded
      rw [hprofit]
      exact .ok _ _

/-- **What a search within some digits finds** is within these digits, and its profit is bounded. -/
theorem found_bounded {o : Opportunity} (hbooks : FromBooks (BookSource.Within d) sources)
    (hmax : s.maxOrderAmount.toRat ≤ 10 ^ d.amount)
    (h : (findOptimal s fun m => (sources m).quoter).outcome = .ok (some o)) :
    o.proposal.Within d ∧ |o.profit.toRat| ≤ 10 ^ (d.price + d.ask) := by
  obtain ⟨amounts, hamounts, m, a, ha, ho, -⟩ := makes_of_findOptimal h
  have hwithin := (propose_eq_ok.1 ho.proposal).within hbooks (Settings.sweep_bounded hamounts hmax ha)
  obtain ⟨profit, hprofit, hprofit_le⟩ := hwithin.profit_bounded
  cases ho.profit.symm.trans hprofit
  exact ⟨hwithin, hprofit_le⟩

end TwoVenue
