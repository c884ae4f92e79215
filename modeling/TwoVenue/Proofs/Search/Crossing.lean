import TwoVenue.Proofs.Market.Depth
import TwoVenue.Proofs.Search.Optimum
import TwoVenue.Proofs.Trade.Profit

/-!
# No opportunity without crossing books

Between the books and the profit stand a walk, two products and a quotient, all of them rounded. None of them can make
an opportunity of books that do not cross.

- `Holds`: a venue quotes from the snapshot of a book.
- `Crosses`: after fees, the best bid of one book is above the best ask of the other one.
- `Makes.crosses`: **an amount with a profit has crossing books**, and its prices are no better than theirs.
- `findOptimal_crosses`: the same for what a search finds.
-/

namespace TwoVenue

open Decimal

/-- Whether the quotes of a venue are those of a snapshot, with its fee and no better than its best price. -/
def Holds (venue : Quoter) (b : Book) : Prop :=
  ∀ side a quote, venue.quote side a = .ok quote →
    quote.fee = b.feeRate ∧ ∃ best, b.normalized.best side = some best ∧ side.Worse (quote.price.toRat - best.toRat)

theorem holds_of_book {s : BookSource} {b : Book} (h : s.book = some b.normalized) : Holds (Source.book s).quoter b :=
  fun _ _ _ hquote => BookSource.quote_worse h hquote

/-- Whether selling at the best bid brings more than buying at the best ask costs, after fees and in exact numbers. -/
def Crosses (ask buyFee bid sellFee : Decimal) : Prop :=
  ask.toRat * (1 + buyFee.toRat) < bid.toRat * (1 - sellFee.toRat)

/-- If prices cross after fees, then better ones do. -/
theorem Crosses.mono {ask ask' buyFee bid bid' sellFee : Decimal} (h : Crosses ask' buyFee bid' sellFee)
    (hask : ask ≤ ask') (hbid : bid' ≤ bid) (hbuyFee : 0 ≤ buyFee) (hsellFee : sellFee < 1) :
    Crosses ask buyFee bid sellFee := by
  have hpaid : (0 : Rat) ≤ 1 + buyFee.toRat := by linarith [toRat_nonneg.2 hbuyFee]
  have hkept : (0 : Rat) ≤ 1 - sellFee.toRat := by
    have hfee := toRat_lt_toRat.2 hsellFee
    rw [toRat_one] at hfee
    linarith
  calc ask.toRat * (1 + buyFee.toRat)
      ≤ ask'.toRat * (1 + buyFee.toRat) := mul_le_mul_of_nonneg_right (toRat_le_toRat.2 hask) hpaid
    _ < bid'.toRat * (1 - sellFee.toRat) := h
    _ ≤ bid.toRat * (1 - sellFee.toRat) := mul_le_mul_of_nonneg_right (toRat_le_toRat.2 hbid) hkept

/-- **What an amount makes with a profit, the books have made possible.** -/
theorem Makes.crosses {q : Quoters} {buy sell : Market} {a : Decimal} {o : Opportunity} {buyBook sellBook : Book}
    (ho : Makes q buy sell a o) (hpos : 0 < o.profit) (hbuy : Holds (q buy) buyBook) (hsell : Holds (q sell) sellBook) :
    ∃ ask bid, buyBook.normalized.bestAsk = some ask ∧ sellBook.normalized.bestBid = some bid ∧
      Crosses ask buyBook.normalized.feeRate bid sellBook.normalized.feeRate ∧
      ask ≤ o.proposal.buySide.price ∧ o.proposal.sellSide.price ≤ bid := by
  have hmade := propose_eq_ok.1 ho.proposal
  obtain ⟨buyQuote, sellQuote, hbuyQuote, hsellQuote, hfirst, hsecond⟩ := hmade.quotes
  obtain ⟨hbuyFee, ask, hask, hbuyWorse⟩ := hbuy _ _ _ hbuyQuote
  obtain ⟨hsellFee, bid, hbid, hsellWorse⟩ := hsell _ _ _ hsellQuote
  -- the legs of the proposal are the quotes
  have hbuyValid : o.proposal.buySide.Valid := by
    rw [hmade.buySide_eq]
    exact hmade.first_valid
  have hsellValid : o.proposal.sellSide.Valid := by
    rw [hmade.sellSide_eq]
    exact hmade.second_valid
  have hbuyPrice : ask ≤ o.proposal.buySide.price := by
    rw [hmade.buySide_eq, hfirst]
    exact hbuyWorse.le_of_buy
  have hsellPrice : o.proposal.sellSide.price ≤ bid := by
    rw [hmade.sellSide_eq, hsecond]
    exact hsellWorse.le_of_sell
  have hbuyLeg : o.proposal.buySide.fee = buyBook.normalized.feeRate := by
    rw [hmade.buySide_eq, hfirst]
    exact hbuyFee
  have hsellLeg : o.proposal.sellSide.fee = sellBook.normalized.feeRate := by
    rw [hmade.sellSide_eq, hsecond]
    exact hsellFee
  have hyields := Proposal.yields_of_profit_pos hbuyValid hsellValid ho.profit hpos
  refine ⟨ask, bid, hask, hbid, ?_, hbuyPrice, hsellPrice⟩
  rw [← hbuyLeg, ← hsellLeg]
  exact Crosses.mono hyields hbuyPrice hsellPrice hbuyValid.fee_nonneg hsellValid.fee_lt_one

/-- Two venues, each with the snapshot of a book. -/
def bookQuoters (venue : Market → Venue) (book : Market → Book) : Quoters := fun m =>
  (Source.book (BookSource.update ⟨venue m, none⟩ (book m))).quoter

/-- **No opportunity without crossing books.** Whatever the books and the sweep are, an opportunity buys on one venue
and sells on the other, the best prices of the two snapshots cross after fees, and no quoted price is better than the
best one. -/
theorem findOptimal_crosses (s : Settings) (venue : Market → Venue) (book : Market → Book) (o : Opportunity)
    (h : (findOptimal s (bookQuoters venue book)).outcome = .ok (some o)) :
    ∃ m : Market, o.proposal.buySide.venue = venue m ∧ o.proposal.sellSide.venue = venue m.other ∧
      ∃ ask bid, (book m).normalized.bestAsk = some ask ∧ (book m.other).normalized.bestBid = some bid ∧
        bid.toRat * (1 - (book m.other).normalized.feeRate.toRat) > ask.toRat * (1 + (book m).normalized.feeRate.toRat) ∧
        ask ≤ o.proposal.buySide.price ∧ o.proposal.sellSide.price ≤ bid := by
  obtain ⟨amounts, -, m, a, -, ho, hpos⟩ := makes_of_findOptimal h
  have hholds : ∀ m, Holds (bookQuoters venue book m) (book m) := fun m => holds_of_book rfl
  have hmade := propose_eq_ok.1 ho.proposal
  obtain ⟨ask, bid, hask, hbid, hcrosses, hbuy, hsell⟩ := ho.crosses hpos (hholds m) (hholds m.other)
  exact ⟨m, hmade.buySide_venue, hmade.sellSide_venue, ask, bid, hask, hbid, hcrosses, hbuy, hsell⟩

/-- Two books in no order: the first one asks 100 at best, the second one bids 105 at best. -/
def unsortedBooks : Market → Book
  | .first => ⟨[⟨99, 3⟩], [⟨101, 1⟩, ⟨100, 1.5⟩], 0.001⟩
  | .second => ⟨[⟨104, 1⟩, ⟨105, 1⟩], [⟨106, 5⟩], 0.002⟩

/-- The snapshots of `unsortedBooks`. -/
def sortedBooks : Market → Book
  | .first => ⟨[⟨99, 3⟩], [⟨100, 1.5⟩, ⟨101, 1⟩], 0.001⟩
  | .second => ⟨[⟨105, 1⟩, ⟨104, 1⟩], [⟨106, 5⟩], 0.002⟩

theorem unsortedBooks_normalized (m : Market) : (unsortedBooks m).normalized = sortedBooks m := by
  cases m <;> cbv

/-- A search of `unsortedBooks` finds an opportunity, so they cross after fees. -/
theorem findOptimal_crosses_unsorted :
    ∃ o, (findOptimal threeAmounts (bookQuoters threeAmounts.venue unsortedBooks)).outcome = .ok (some o) ∧
      ∃ m : Market, o.proposal.buySide.venue = threeAmounts.venue m ∧
        ∃ ask bid, (unsortedBooks m).normalized.bestAsk = some ask ∧
          (unsortedBooks m.other).normalized.bestBid = some bid ∧
          bid.toRat * (1 - (unsortedBooks m.other).normalized.feeRate.toRat) >
            ask.toRat * (1 + (unsortedBooks m).normalized.feeRate.toRat) := by
  have hquoters : bookQuoters threeAmounts.venue unsortedBooks
      = fun m => (Source.book ⟨threeAmounts.venue m, some (sortedBooks m)⟩).quoter := by
    funext m
    rw [← unsortedBooks_normalized]
    rfl
  obtain ⟨o, h⟩ : ∃ o, (findOptimal threeAmounts (bookQuoters threeAmounts.venue unsortedBooks)).outcome
      = .ok (some o) := by
    rw [hquoters]
    exact Outcome.exists_ok_some (by decide +kernel)
  obtain ⟨m, hvenue, -, ask, bid, hask, hbid, hcrosses, -, -⟩ :=
    findOptimal_crosses threeAmounts threeAmounts.venue unsortedBooks o h
  exact ⟨o, h, m, hvenue, ask, bid, hask, hbid, hcrosses⟩

end TwoVenue
