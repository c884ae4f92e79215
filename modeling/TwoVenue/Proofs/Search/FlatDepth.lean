import TwoVenue.Proofs.Search.Crossing
import TwoVenue.Proofs.Search.Sweep

/-!
# Sweeps within the first levels

As long as every amount of a sweep fits into the first level of both books, the size of a trade makes no difference. Its
prices are those of the first levels, so its profit is always the same one, and the sweep keeps the first amount. No
digit of the step may show in the prices for that, since a difference in the last place would move the tie.

- `walk_of_le_first`: **within the first level a walk has exactly that level's price**, whatever digits the amount has.
- `Flat`: two markets quote the same two prices for all amounts of a sweep.
- `Flat.proposed`: what one amount can do, every other one can do with the same profit.
- `Flat.smallest`: **of equal profits the first one is kept**.
- `bestForDirection_flat`: all that for two snapshots.
-/

namespace TwoVenue

open Decimal

/-! ## Within the first level -/

section Walk

variable {side : Side} {first : Level} {rest : List Level} {best target remaining premium : Decimal}

/-- **Within the first level a walk has exactly that level's price.** Its only gap is that of this level to itself. -/
theorem walk_of_le_first (htarget : 0 < target) (hle : target ≤ first.size) :
    walk (first :: rest) target = .ok (.filled first.price) := by
  have hnonzero : target.isZero ≠ true := not_isZero_of_pos htarget
  have htaken : target.min first.size = target := if_neg (Decimal.not_lt.2 hle)
  obtain ⟨gap, hgap, hgapZero⟩ := exists_sub_self first.price
  obtain ⟨rest', hrest, hrestZero⟩ := exists_sub_self target
  have hconsume : consume first.price (first :: rest) target 0 = .ok (rest', 0) := by
    rw [consume, if_neg hnonzero, htaken]
    refine Outcome.bind_eq_ok.2 ⟨gap, hgap, Outcome.bind_eq_ok.2 ⟨0, mul_of_isZero_right hgapZero, ?_⟩⟩
    refine Outcome.bind_eq_ok.2 ⟨0, add_of_isZero_left rfl, Outcome.bind_eq_ok.2 ⟨rest', hrest, ?_⟩⟩
    exact consume_of_isZero rest hrestZero
  refine Outcome.bind_eq_ok.2 ⟨(rest', 0), hconsume, ?_⟩
  dsimp only
  rw [if_pos hrestZero]
  rfl

/-- A quote within the first level has exactly the best price. -/
theorem BookSource.quote_of_le_first {s : BookSource} {book : Book} {amount : Decimal} (hbook : s.book = some book)
    (hfirst : (levels book side).head? = some first) (hamount : 0 < amount) (hle : amount ≤ first.size) :
    s.quote s.venue.tradingPair side amount = .ok ⟨first.price, book.feeRate⟩ := by
  obtain ⟨rest, hlevels⟩ := List.head?_eq_some_iff.1 hfirst
  refine quote_of_walk hbook hamount ?_
  rw [hlevels]
  exact walk_of_le_first hamount hle

end Walk

/-! ## Amounts that make no difference -/

/-- Two markets that quote the same two prices for all amounts of a sweep. -/
structure Flat (q : Quoters) (buy sell : Market) (amounts : List Decimal) (buyQuote sellQuote : Quote) : Prop where
  amount_pos : ∀ a ∈ amounts, 0 < a
  bought : ∀ a ∈ amounts, (q buy).quote .buy a = .ok buyQuote
  sold : ∀ a ∈ amounts, (q sell).quote .sell a = .ok sellQuote

/-- The profit depends on prices and fees only. -/
theorem Proposal.profit_congr {p p' : Proposal} (hbuyPrice : p.buySide.price = p'.buySide.price)
    (hbuyFee : p.buySide.fee = p'.buySide.fee) (hsellPrice : p.sellSide.price = p'.sellSide.price)
    (hsellFee : p.sellSide.fee = p'.sellSide.fee) : p.profit = p'.profit := by
  funext withFees
  simp only [profit, hbuyPrice, hbuyFee, hsellPrice, hsellFee]

namespace Flat

variable {q : Quoters} {buy sell : Market} {amounts : List Decimal} {buyQuote sellQuote : Quote} {a b : Decimal}

/-- **What one amount can do, every other one can do**, with the same profit. -/
theorem proposed (h : Flat q buy sell amounts buyQuote sellQuote) (ha : a ∈ amounts) (hb : b ∈ amounts) {p : Proposal}
    (hp : Proposed q buy sell a p) : ∃ p', Proposed q buy sell b p' ∧ p'.profit = p.profit := by
  obtain ⟨buyQuote', sellQuote', hbuy, hsell, hfirst, hsecond⟩ := hp.quotes
  cases (h.bought a ha).symm.trans hbuy
  cases (h.sold a ha).symm.trans hsell
  let first : Leg := { p.first with amount := b }
  let second : Leg := { p.second with amount := b }
  let p' : Proposal := ⟨first, second, p.sides_ne, rfl, p.venues_ne⟩
  have hp' : Proposed q buy sell b p' := by
    refine ⟨⟨buyQuote, sellQuote, h.bought b hb, h.sold b hb, ?_, ?_⟩, ?_, ?_⟩
    · simp [p', first, hfirst]
    · simp [p', second, hsecond]
    · exact ⟨h.amount_pos b hb, hp.first_valid.price_pos, hp.first_valid.fee_nonneg, hp.first_valid.fee_lt_one⟩
    · exact ⟨h.amount_pos b hb, hp.second_valid.price_pos, hp.second_valid.fee_nonneg, hp.second_valid.fee_lt_one⟩
  refine ⟨p', hp', Proposal.profit_congr ?_ ?_ ?_ ?_⟩
  · rw [hp'.buySide_eq, hp.buySide_eq]
  · rw [hp'.buySide_eq, hp.buySide_eq]
  · rw [hp'.sellSide_eq, hp.sellSide_eq]
  · rw [hp'.sellSide_eq, hp.sellSide_eq]

/-- Either no amount makes a proposal, or all of them make one with the same profit. -/
theorem none_or_all (h : Flat q buy sell amounts buyQuote sellQuote) (hpriced : Priced q buy sell amounts) :
    (∀ a ∈ amounts, ∀ p, (propose q buy sell a).outcome ≠ .ok p) ∨
      ∃ profit margin, profit true = .ok margin ∧
        ∀ a ∈ amounts, ∃ p, (propose q buy sell a).outcome = .ok p ∧ p.profit = profit := by
  by_cases hsome : ∃ a ∈ amounts, ∃ p, (propose q buy sell a).outcome = .ok p
  · obtain ⟨a, ha, p, hp⟩ := hsome
    obtain ⟨margin, hmargin⟩ := hpriced a ha p hp
    refine Or.inr ⟨p.profit, margin, hmargin, fun b hb => ?_⟩
    obtain ⟨p', hp', hsame⟩ := h.proposed ha hb (propose_eq_ok.1 hp)
    exact ⟨p', propose_eq_ok.2 hp', hsame⟩
  · push Not at hsome
    exact Or.inl hsome

/-- **Of equal profits the first one is kept.** -/
theorem smallest {rest : List Decimal} (h : Flat q buy sell (a :: rest) buyQuote sellQuote) {o : Opportunity}
    (hbest : FirstBest q buy sell (a :: rest) o) : o.proposal.amount = a := by
  obtain ⟨before, b, after, hsplit, hmakes, hbefore, -⟩ := hbest
  have hb : b ∈ a :: rest := by simp [hsplit]
  have hproposed := propose_eq_ok.1 hmakes.proposal
  -- an amount before the best one would make as much
  have hempty : before = [] := by
    cases before with
    | nil => rfl
    | cons c before =>
      have hc : c ∈ a :: rest := by simp [hsplit]
      obtain ⟨p', hp', hsame⟩ := h.proposed hb hc hproposed
      have hmakes' : Makes q buy sell c ⟨p', o.profit⟩ :=
        ⟨propose_eq_ok.2 hp', (congrFun hsame true).trans hmakes.profit⟩
      exact absurd (hbefore c (by simp) _ hmakes') (lt_irrefl _)
  subst hempty
  obtain ⟨rfl, -⟩ := List.cons_eq_cons.1 hsplit
  obtain ⟨_, _, _, _, hfirst, -⟩ := hproposed.quotes
  unfold Proposal.amount
  rw [hfirst]

/-- A direction with such prices ends well if its arithmetic does. -/
theorem direction (h : Flat q buy sell amounts buyQuote sellQuote) {s : Settings} (hsweep : s.sweep = .ok amounts)
    (noFault : ∀ f, (bestForDirection s q buy sell).outcome ≠ .error (.fault f)) :
    ∃ best, BestSoFar q buy sell amounts best ∧ (bestForDirection s q buy sell).outcome = .ok (profitable best) := by
  cases hr : (bestForDirection s q buy sell).outcome with
  | ok r =>
    obtain ⟨amounts', best, hamounts', hbest, rfl⟩ := bestForDirection_spec hr
    cases hsweep.symm.trans hamounts'
    exact ⟨best, hbest, rfl⟩
  | error failure =>
    obtain ⟨f, hf, -⟩ | ⟨amounts', hamounts', a, ha, hstops⟩ := bestForDirection_eq_error hr
    · cases hsweep.symm.trans hf
    cases hsweep.symm.trans hamounts'
    cases hstops with
    | bought hbuy => cases (h.bought a ha).symm.trans hbuy
    | sold _ hsell => cases (h.sold a ha).symm.trans hsell
    | profit => exact absurd hr (noFault _)

end Flat

/-! ## Two snapshots -/

/-- **Flat depth resolves to the smallest size.** If all amounts of a sweep fit into the first levels of the two
snapshots of a direction, and no arithmetic of it fails, then every amount is quoted at exactly the best prices, all
amounts make a proposal with the same profit or none does, and what is found has the smallest amount, digit for
digit. -/
theorem bestForDirection_flat (s : Settings) (venue : Market → Venue) (book : Market → Book) (m : Market)
    (ask bid : Level) (hask : (book m).normalized.asks.head? = some ask)
    (hbid : (book m.other).normalized.bids.head? = some bid)
    (hfits : ∀ amounts, s.sweep = .ok amounts → ∀ a ∈ amounts, a ≤ ask.size ∧ a ≤ bid.size)
    (noFault : ∀ f, (bestForDirection s (bookQuoters venue book) m m.other).outcome ≠ .error (.fault f)) :
    ∃ amounts bought sold, s.sweep = .ok amounts ∧
      (book m).normalized.bestAsk = some bought.price ∧ (book m.other).normalized.bestBid = some sold.price ∧
      (∀ a ∈ amounts, (bookQuoters venue book m).quote .buy a = .ok bought ∧
        (bookQuoters venue book m.other).quote .sell a = .ok sold) ∧
      ((∀ a ∈ amounts, ∀ p, (propose (bookQuoters venue book) m m.other a).outcome ≠ .ok p) ∨
        ∃ profit margin, profit true = .ok margin ∧ ∀ a ∈ amounts, ∃ p,
          (propose (bookQuoters venue book) m m.other a).outcome = .ok p ∧ p.profit = profit) ∧
      ((bestForDirection s (bookQuoters venue book) m m.other).outcome = .ok none ∨
        ∃ o, (bestForDirection s (bookQuoters venue book) m m.other).outcome = .ok (some o) ∧
          o.proposal.amount = s.minOrderAmount) := by
  cases hsweep : s.sweep with
  | error f => exact absurd (bestForDirection_of_sweep hsweep) (noFault f)
  | ok amounts =>
    obtain ⟨⟨others, rfl⟩, hmin⟩ := Settings.sweep_eq_ok hsweep
    have hpos : ∀ a ∈ s.minOrderAmount :: others, 0 < a := fun a ha => lt_of_lt_of_le s.min_pos (hmin a ha)
    have hflat : Flat (bookQuoters venue book) m m.other (s.minOrderAmount :: others)
        ⟨ask.price, (book m).normalized.feeRate⟩ ⟨bid.price, (book m.other).normalized.feeRate⟩ := by
      refine ⟨hpos, fun a ha => ?_, fun a ha => ?_⟩
      · exact BookSource.quote_of_le_first rfl hask (hpos a ha) (hfits _ hsweep a ha).1
      · exact BookSource.quote_of_le_first rfl hbid (hpos a ha) (hfits _ hsweep a ha).2
    obtain ⟨best, hbest, hfound⟩ := hflat.direction hsweep noFault
    refine ⟨_, _, _, rfl, by simp [Book.bestAsk, hask], by simp [Book.bestBid, hbid],
      fun a ha => ⟨hflat.bought a ha, hflat.sold a ha⟩, hflat.none_or_all hbest.priced, ?_⟩
    rw [hfound]
    cases hprofitable : profitable best with
    | none => exact Or.inl rfl
    | some o =>
      have hsome := (profitable_eq_some.1 hprofitable).1
      exact Or.inr ⟨o, rfl, hflat.smallest (hbest.of_some o hsome)⟩

/-- Settings of a sweep over four amounts, two of which have no last digit. -/
def fourAmounts : Settings := { threeAmounts with sweepSteps := 4, two_le_steps := by decide }

/-- Two books in no order, with 3 units at the best ask of the first one and 2 at the best bid of the second one. -/
def deepBooks : Market → Book
  | .first => ⟨[⟨99, 3⟩], [⟨101, 5⟩, ⟨100, 3⟩], 0.001⟩
  | .second => ⟨[⟨104, 1⟩, ⟨105, 2⟩], [⟨106, 5⟩], 0.002⟩

/-- The snapshots of `deepBooks`. -/
def deepSnapshots : Market → Book
  | .first => ⟨[⟨99, 3⟩], [⟨100, 3⟩, ⟨101, 5⟩], 0.001⟩
  | .second => ⟨[⟨105, 2⟩, ⟨104, 1⟩], [⟨106, 5⟩], 0.002⟩

theorem deepBooks_normalized (m : Market) : (deepBooks m).normalized = deepSnapshots m := by
  cases m <;> cbv

/-- All amounts up to 2 make the same profit, so the smallest one is found. -/
theorem bestForDirection_flat_fourAmounts :
    (∀ amounts, fourAmounts.sweep = .ok amounts → ∀ a ∈ amounts, a ≤ 3 ∧ a ≤ 2) ∧
      (∀ f, (bestForDirection fourAmounts (bookQuoters fourAmounts.venue deepBooks) .first .second).outcome
        ≠ .error (.fault f)) ∧
      ∃ o, (bestForDirection fourAmounts (bookQuoters fourAmounts.venue deepBooks) .first .second).outcome
        = .ok (some o) ∧ o.proposal.amount = 1 := by
  have hsweep : fourAmounts.sweep
      = .ok [1, 1.3333333333333333333333333333, 1.6666666666666666666666666666, 2] := by decide +kernel
  have hfits : ∀ amounts, fourAmounts.sweep = .ok amounts → ∀ a ∈ amounts, a ≤ 3 ∧ a ≤ 2 := by
    intro amounts hamounts
    cases hsweep.symm.trans hamounts
    decide
  have hquoters : bookQuoters fourAmounts.venue deepBooks
      = fun m => (Source.book ⟨fourAmounts.venue m, some (deepSnapshots m)⟩).quoter := by
    funext m
    rw [← deepBooks_normalized]
    rfl
  obtain ⟨o, ho⟩ : ∃ o, (bestForDirection fourAmounts (bookQuoters fourAmounts.venue deepBooks) .first .second).outcome
      = .ok (some o) := by
    rw [hquoters]
    exact Outcome.exists_ok_some (by decide +kernel)
  have noFault : ∀ f, (bestForDirection fourAmounts (bookQuoters fourAmounts.venue deepBooks) .first .second).outcome
      ≠ .error (.fault f) := by
    intro f h
    rw [ho] at h
    cases h
  obtain ⟨_, _, _, _, _, _, _, _, hfound⟩ := bestForDirection_flat fourAmounts fourAmounts.venue deepBooks .first
    ⟨100, 3⟩ ⟨105, 2⟩ (by rw [deepBooks_normalized]; rfl) (by rw [deepBooks_normalized]; rfl) hfits noFault
  refine ⟨hfits, noFault, o, ho, ?_⟩
  obtain hnone | ⟨o', ho', hamount⟩ := hfound
  · cases ho.symm.trans hnone
  · cases ho.symm.trans ho'
    exact hamount

end TwoVenue
