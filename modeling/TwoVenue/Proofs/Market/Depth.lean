import TwoVenue.Market.Source
import TwoVenue.Proofs.Decimal.Quotient
import TwoVenue.Proofs.Sequence

/-!
# Prices deeper in a book

A snapshot has its best price first, so whoever takes more than the first level gets a worse price. All roundings of
the walk keep it that way. Asks and bids are treated as one: what is worse for a taker depends on the side.

- `Side.Worse`: a price difference is not to the taker's advantage. It adds up, scales and survives rounding.
- `Offered`: levels with something to take, best price first. `offered_normalized`: every snapshot has such levels.
- `consume_worse`: **one level after the other**, the premium over the best price only gets worse.
- `BookSource.quote_eq_ok`, `BookSource.quote_of_walk`: what a quote comes from.
- `BookSource.quote_worse`: **no quote is better than the best price of its snapshot**.
-/

namespace TwoVenue

open Decimal

/-! ## What is worse for a taker -/

/-- Whether a price difference is not to the taker's advantage: a buyer pays more, a seller receives less. -/
def Side.Worse (side : Side) (difference : Rat) : Prop :=
  match side with
  | .buy => 0 ≤ difference
  | .sell => difference ≤ 0

namespace Side.Worse

variable {side : Side} {x y c : Rat}

theorem zero (side : Side) : side.Worse 0 := by
  cases side <;> exact le_rfl

theorem add (hx : side.Worse x) (hy : side.Worse y) : side.Worse (x + y) := by
  cases side with
  | buy => exact add_nonneg hx hy
  | sell => exact add_nonpos hx hy

theorem mul_nonneg (hc : 0 ≤ c) (hx : side.Worse x) : side.Worse (c * x) := by
  cases side with
  | buy => exact Left.mul_nonneg hc hx
  | sell => exact mul_nonpos_of_nonneg_of_nonpos hc hx

theorem div_pos (hx : side.Worse x) (hc : 0 < c) : side.Worse (x / c) := by
  cases side with
  | buy => exact div_nonneg hx hc.le
  | sell => exact div_nonpos_of_nonpos_of_nonneg hx hc.le

/-- Rounding makes nothing better. -/
theorem nearest (hx : side.Worse x) : side.Worse (nearest x) := by
  cases side with
  | buy => exact nearest_nonneg hx
  | sell => exact nearest_nonpos hx

/-- A price that is worse by some difference stays so when it is rounded. -/
theorem nearest_add (d : Decimal) (hx : side.Worse x) : side.Worse (Decimal.nearest (d.toRat + x) - d.toRat) := by
  cases side with
  | buy =>
    have hle : d.toRat ≤ Decimal.nearest (d.toRat + x) := toRat_le_nearest (le_add_of_nonneg_right hx)
    exact sub_nonneg.2 hle
  | sell =>
    have hle : Decimal.nearest (d.toRat + x) ≤ d.toRat := nearest_le_toRat (add_le_of_nonpos_right hx)
    exact sub_nonpos.2 hle

/-- A price that is worse for a buyer is a higher one. -/
theorem le_of_buy {best price : Decimal} (h : Side.buy.Worse (price.toRat - best.toRat)) : best ≤ price :=
  toRat_le_toRat.1 (sub_nonneg.1 h)

/-- A price that is worse for a seller is a lower one. -/
theorem le_of_sell {best price : Decimal} (h : Side.sell.Worse (price.toRat - best.toRat)) : price ≤ best :=
  toRat_le_toRat.1 (sub_nonpos.1 h)

end Side.Worse

/-! ## The levels of a snapshot -/

/-- Levels as a taker wants them: every one has something to take, and no later one has a better price. -/
structure Offered (side : Side) (levels : List Level) : Prop where
  size_pos : ∀ l ∈ levels, 0 < l.size
  sorted : levels.Pairwise fun a b => side.Worse (b.price.toRat - a.price.toRat)

/-- No level has a better price than the first one. -/
theorem Offered.worse_first {side : Side} {first l : Level} {rest : List Level} (h : Offered side (first :: rest))
    (hl : l ∈ first :: rest) : side.Worse (l.price.toRat - first.price.toRat) := by
  rcases List.mem_cons.1 hl with rfl | hl
  · rw [sub_self]
    exact .zero side
  · exact List.rel_of_pairwise_cons h.sorted hl

/-- Levels that are sorted by an order of their prices. -/
theorem pairwise_sort (r : Level → Level → Prop) [DecidableRel r] (htrans : ∀ a b c, r a b → r b c → r a c)
    (htotal : ∀ a b, r a b ∨ r b a) (levels : List Level) : (levels.mergeSort fun a b => decide (r a b)).Pairwise r := by
  refine (List.pairwise_mergeSort (fun a b c hab hbc => ?_) (fun a b => ?_) levels).imp of_decide_eq_true
  · exact decide_eq_true (htrans a b c (of_decide_eq_true hab) (of_decide_eq_true hbc))
  · rw [Bool.or_eq_true, decide_eq_true_iff, decide_eq_true_iff]
    exact htotal a b

theorem sortAsks_pairwise (levels : List Level) : (Book.sortAsks levels).Pairwise fun a b => a.price ≤ b.price :=
  pairwise_sort (fun a b => a.price ≤ b.price) (fun _ _ _ => le_trans)
    (fun a b => Decimal.le_total a.price b.price) levels

theorem sortBids_pairwise (levels : List Level) : (Book.sortBids levels).Pairwise fun a b => b.price ≤ a.price :=
  pairwise_sort (fun a b => b.price ≤ a.price) (fun _ _ _ hab hbc => le_trans hbc hab)
    (fun a b => Decimal.le_total b.price a.price) levels

theorem mem_offered {levels : List Level} {l : Level} : l ∈ Book.offered levels ↔ l ∈ levels ∧ 0 < l.size := by
  unfold Book.offered
  rw [List.mem_filter, decide_eq_true_iff]

/-- A snapshot offers its levels in order, whatever the order of the book was. -/
theorem offered_normalized (b : Book) (side : Side) : Offered side (BookSource.levels b.normalized side) := by
  cases side with
  | buy =>
    refine ⟨fun l hl => ?_, (sortAsks_pairwise _).imp fun h => sub_nonneg.2 (toRat_le_toRat.2 h)⟩
    exact (mem_offered.1 (List.mem_mergeSort.1 hl)).2
  | sell =>
    refine ⟨fun l hl => ?_, (sortBids_pairwise _).imp fun h => sub_nonpos.2 (toRat_le_toRat.2 h)⟩
    exact (mem_offered.1 (List.mem_mergeSort.1 hl)).2

/-! ## The walk -/

section Walk

variable {side : Side} {best : Decimal} {levels : List Level}

/-- A walk is over when nothing remains. -/
theorem consume_of_isZero {remaining premium : Decimal} (levels : List Level) (hzero : remaining.isZero = true) :
    consume best levels remaining premium = .ok (remaining, premium) := by
  cases levels <;> simp [consume, hzero]

/-- What a walk has left to fill is never negative, and its premium never an advantage. -/
structure Walking (side : Side) (remaining premium : Decimal) : Prop where
  remaining_nonneg : 0 ≤ remaining
  premium_worse : side.Worse premium.toRat

theorem Walking.start {target : Decimal} (htarget : 0 < target) : Walking side target 0 where
  remaining_nonneg := htarget.le
  premium_worse := by
    rw [toRat_zero]
    exact .zero side

/-- **The step of a walk**: what is taken of a level costs no less than at the best price. -/
theorem Walking.step {remaining premium : Decimal} {level : Level} {gap cost premium' remaining' : Decimal}
    (h : Walking side remaining premium) (hsize : 0 < level.size)
    (hprice : side.Worse (level.price.toRat - best.toRat))
    (hgap : level.price.sub best = .ok gap) (hcost : (remaining.min level.size).mul gap = .ok cost)
    (hpremium : premium.add cost = .ok premium') (hremaining : remaining.sub (remaining.min level.size) = .ok remaining') :
    Walking side remaining' premium' := by
  have htaken : 0 ≤ (remaining.min level.size).toRat := by
    rw [toRat_min]
    exact le_min (toRat_nonneg.2 h.remaining_nonneg) (toRat_pos.2 hsize).le
  have hgap' : side.Worse gap.toRat := by
    rw [sub_toRat hgap]
    exact hprice.nearest
  have hcost' : side.Worse cost.toRat := by
    rw [mul_toRat hcost]
    exact (hgap'.mul_nonneg htaken).nearest
  refine ⟨toRat_nonneg.1 ?_, ?_⟩
  · rw [sub_toRat hremaining, toRat_min]
    exact nearest_nonneg (sub_nonneg.2 (min_le_left _ _))
  · rw [add_toRat hpremium]
    exact (h.premium_worse.add hcost').nearest

/-- **The run of a walk** over all levels. -/
theorem consume_worse (hsize : ∀ l ∈ levels, 0 < l.size)
    (hprice : ∀ l ∈ levels, side.Worse (l.price.toRat - best.toRat)) :
    ∀ {remaining premium r p}, Walking side remaining premium → consume best levels remaining premium = .ok (r, p) →
      Walking side r p := by
  induction levels with
  | nil =>
    intro remaining premium r p hw h
    cases h
    exact hw
  | cons level rest ih =>
    intro remaining premium r p hw h
    unfold consume at h
    split at h
    · cases h
      exact hw
    · obtain ⟨gap, hgap, h⟩ := Outcome.bind_eq_ok.1 h
      obtain ⟨cost, hcost, h⟩ := Outcome.bind_eq_ok.1 h
      obtain ⟨premium', hpremium, h⟩ := Outcome.bind_eq_ok.1 h
      obtain ⟨remaining', hremaining, h⟩ := Outcome.bind_eq_ok.1 h
      have hstep := hw.step (hsize level (by simp)) (hprice level (by simp)) hgap hcost hpremium hremaining
      exact ih (fun l hl => hsize l (by simp [hl])) (fun l hl => hprice l (by simp [hl])) hstep h

/-- The average price of a walk is no better than the price of its first level. -/
theorem walk_worse {target price : Decimal} (hlevels : Offered side levels) (htarget : 0 < target)
    (h : walk levels target = .ok (.filled price)) :
    ∃ first, levels.head? = some first ∧ side.Worse (price.toRat - first.price.toRat) := by
  cases levels with
  | nil => cases h
  | cons first rest =>
    refine ⟨first, rfl, ?_⟩
    unfold walk at h
    obtain ⟨⟨remaining, premium⟩, hconsume, h⟩ := Outcome.bind_eq_ok.1 h
    have hend := consume_worse hlevels.size_pos (fun l hl => hlevels.worse_first hl) (Walking.start htarget) hconsume
    dsimp only at h
    split at h
    · split at h
      · -- within the first level the price is exactly that level's
        cases h
        rw [sub_self]
        exact .zero side
      · obtain ⟨average, haverage, h⟩ := Outcome.bind_eq_ok.1 h
        obtain ⟨price', hprice', h⟩ := Outcome.bind_eq_ok.1 h
        cases h
        rw [add_toRat hprice', div_toRat haverage]
        exact (hend.premium_worse.div_pos (toRat_pos.2 htarget)).nearest.nearest_add first.price
    · obtain ⟨available, -, h⟩ := Outcome.bind_eq_ok.1 h
      cases h

end Walk

/-! ## Quotes -/

namespace Book

/-- The best price that a taker on a side can get. -/
def best (b : Book) : Side → Option Decimal
  | .buy => b.bestAsk
  | .sell => b.bestBid

theorem best_eq (b : Book) (side : Side) : b.best side = (BookSource.levels b side).head?.map (·.price) := by
  cases side <;> rfl

end Book

namespace BookSource

variable {s : BookSource} {pair : String} {side : Side} {amount : Decimal}

theorem book_of_read {book : Book} (h : s.read pair = .ok book) : s.book = some book := by
  unfold read at h
  split at h
  · cases h
  · split at h
    · next hbook =>
      cases h
      exact hbook
    · cases h

theorem read_own_some {book : Book} (h : s.book = some book) : s.read s.venue.tradingPair = .ok book := by
  unfold read
  rw [if_neg (not_not.2 rfl), h]

/-- A quote is the average price of a walk, with the fee of the book. -/
theorem quote_eq_ok {quote : Quote} (h : s.quote pair side amount = .ok quote) :
    ∃ book, s.book = some book ∧ 0 < amount ∧ walk (levels book side) amount = .ok (.filled quote.price) ∧
      quote.fee = book.feeRate := by
  unfold BookSource.quote at h
  obtain ⟨book, hread, h⟩ := Outcome.bind_eq_ok.1 h
  split at h
  · cases h
  next hamount =>
  obtain ⟨fill, hwalk, h⟩ := Outcome.bind_eq_ok.1 h
  have hwalk : walk (levels book side) amount = .ok fill := Outcome.ofArithmetic_eq_ok.1 hwalk
  cases fill with
  | short available => cases h
  | filled price =>
    cases h
    exact ⟨book, book_of_read (Outcome.ofCheck_eq_ok.1 hread), Decimal.not_le.1 hamount, hwalk, rfl⟩

/-- A walk that fills an amount of the venue's own pair is quoted. -/
theorem quote_of_walk {book : Book} {price : Decimal} (hbook : s.book = some book) (hamount : 0 < amount)
    (hwalk : walk (levels book side) amount = .ok (.filled price)) :
    s.quote s.venue.tradingPair side amount = .ok ⟨price, book.feeRate⟩ := by
  unfold BookSource.quote
  refine Outcome.bind_eq_ok.2 ⟨book, Outcome.ofCheck_eq_ok.2 (read_own_some hbook), ?_⟩
  rw [if_neg (Decimal.not_le.2 hamount)]
  exact Outcome.bind_eq_ok.2 ⟨.filled price, Outcome.ofArithmetic_eq_ok.2 hwalk, rfl⟩

/-- **No quote is better than the best price** of the snapshot that it comes from, and its fee is that of the book. -/
theorem quote_worse {b : Book} {quote : Quote} (hbook : s.book = some b.normalized)
    (h : s.quote pair side amount = .ok quote) :
    quote.fee = b.feeRate ∧ ∃ best, b.normalized.best side = some best ∧ side.Worse (quote.price.toRat - best.toRat) := by
  obtain ⟨book, hbook', hamount, hwalk, hfee⟩ := quote_eq_ok h
  cases hbook.symm.trans hbook'
  obtain ⟨first, hfirst, hworse⟩ := walk_worse (offered_normalized b side) hamount hwalk
  exact ⟨hfee, first.price, by rw [Book.best_eq, hfirst]; rfl, hworse⟩

end BookSource

end TwoVenue
