import TwoVenue.Proofs.Engine.Run
import TwoVenue.Proofs.Search.Crossing
import TwoVenue.Proofs.Trade.Buffer

/-!
# What a submitted cycle guarantees

Between a search and its orders stand the threshold, the buffers, the check of the batch and the numbers of the
executor. Whatever has happened to the engine before, they let through a hedged pair of orders and nothing else.

- `Engine.held`: the snapshot that a market quotes from.
- `Hedges`: two orders buy and sell one amount of the sweep, at prices on the safe side of the best ones.
- `hedges_of_candidates`: **the candidates of what a search has found are such a pair**, once the batch has passed its
  check.
- `AddsPair`: what an accepted pair adds to the executor. `Wired.addsPair`: its names are new.
- `determine_submitted`: **all that together**, for every engine that comes from a configuration.
-/

namespace TwoVenue

open Decimal

namespace Engine

/-- The snapshot that a market quotes from, if there is one. -/
def held (e : Engine) (m : Market) : Option Book :=
  match e.source m with
  | .book s => s.book
  | .scripted _ => none

/-- Whether two orders are a purchase on a market and a sale of the same amount on the other one, both to be executed
at once, and neither of them better than its quote, nor its quote better than the best price of the snapshot. -/
structure Hedges (s : Settings) (e : Engine) (o : Opportunity) (m : Market) (orders : List Order) : Prop where
  pair : ∃ a buyPrice sellPrice,
    (∃ amounts, sweepAmounts s.minOrderAmount s.maxOrderAmount s.sweepSteps.toNat = .ok amounts ∧ a ∈ amounts) ∧
    orders = [.taker (s.venue m) .buy a buyPrice, .taker (s.venue m.other) .sell a sellPrice] ∧
    (∃ fee, (e.quoters m).quote .buy a = .ok ⟨o.proposal.buySide.price, fee⟩) ∧
    (∃ fee, (e.quoters m.other).quote .sell a = .ok ⟨o.proposal.sellSide.price, fee⟩) ∧
    o.proposal.buySide.price ≤ buyPrice ∧ 0 < sellPrice ∧ sellPrice ≤ o.proposal.sellSide.price
  best_ask : ∃ book ask, e.held m = some book ∧ book.bestAsk = some ask ∧ ask ≤ o.proposal.buySide.price
  best_bid : ∃ book bid, e.held m.other = some book ∧ book.bestBid = some bid ∧ o.proposal.sellSide.price ≤ bid

variable {c : Config} {e : Engine} {o : Opportunity} {m : Market} {a : Decimal}

/-- A market that has given a quote holds a snapshot, which all of its quotes come from. -/
theorem Wired.holds_of_quote (h : Wired c e) {side : Side} {quote : Quote}
    (hquote : (e.quoters m).quote side a = .ok quote) :
    ∃ book : Book, e.held m = some book.normalized ∧ Holds (e.quoters m) book := by
  obtain ⟨snapshot, hsource⟩ := h.source m
  have hquoter : e.quoters m = (e.source m).quoter := rfl
  have hheld : e.held m = snapshot.map Book.normalized := by
    unfold held
    rw [hsource]
  cases snapshot with
  | some book =>
    refine ⟨book, hheld, ?_⟩
    rw [hquoter, hsource]
    exact holds_of_book rfl
  | none =>
    -- without a snapshot there is no quote
    rw [hquoter, hsource] at hquote
    obtain ⟨book, hread, -⟩ := Outcome.bind_eq_ok.1 hquote
    rw [Outcome.ofCheck_eq_ok] at hread
    unfold BookSource.read at hread
    split at hread <;> cases hread

theorem Wired.quoters_venue (h : Wired c e) (m : Market) : (e.quoters m).venue = e.settings.venue m := by
  obtain ⟨snapshot, hsource⟩ := h.source m
  show (e.source m).venue = _
  rw [hsource]
  rfl

/-- **The candidates of what an amount makes hedge each other**, once each of them has passed its check. -/
theorem hedges_of_candidates (h : Wired c e) {amounts : List Decimal} {orders : List Order}
    (hamounts : sweepAmounts e.settings.minOrderAmount e.settings.maxOrderAmount e.settings.sweepSteps.toNat = .ok amounts)
    (ha : a ∈ amounts) (ho : Makes e.quoters m m.other a o) (hpos : 0 < o.profit)
    (horders : o.proposal.candidates e.settings = .ok orders) (hcheck : ∀ order ∈ orders, order.check = .ok ()) :
    Hedges e.settings e o m orders := by
  have hmade := propose_eq_ok.1 ho.proposal
  obtain ⟨buyQuote, sellQuote, hbuyQuote, hsellQuote, hfirst, hsecond⟩ := hmade.quotes
  obtain ⟨buyBook, hbuyHeld, hbuyHolds⟩ := h.holds_of_quote hbuyQuote
  obtain ⟨sellBook, hsellHeld, hsellHolds⟩ := h.holds_of_quote hsellQuote
  obtain ⟨ask, bid, hask, hbid, -, hbuyBest, hsellBest⟩ := ho.crosses hpos hbuyHolds hsellHolds
  obtain ⟨buy, sell, hbuy, hsell, rfl⟩ := Proposal.candidates_eq_ok.1 horders
  obtain ⟨buyPrice, hbuyPrice, hbuyOrder⟩ := Leg.candidate_eq_ok.1 hbuy
  obtain ⟨sellPrice, hsellPrice, hsellOrder⟩ := Leg.candidate_eq_ok.1 hsell
  have hbuyWorse := bufferedPrice_worse hmade.first_valid.price_pos (e.settings.slippageBuffer_nonneg _) hbuyPrice
  have hsellWorse := bufferedPrice_worse hmade.second_valid.price_pos (e.settings.slippageBuffer_nonneg _) hsellPrice
  have hsellPos : 0 < sell.price := (Order.check_eq_ok.1 (hcheck sell (by simp))).2.2.1
  rw [hmade.buySide_eq] at hbuyBest
  rw [hmade.sellSide_eq] at hsellBest
  refine ⟨⟨a, buyPrice, sellPrice, ⟨amounts, hamounts, ha⟩, ?_, ⟨buyQuote.fee, ?_⟩, ⟨sellQuote.fee, ?_⟩, ?_, ?_, ?_⟩,
    ⟨_, ask, hbuyHeld, hask, ?_⟩, ⟨_, bid, hsellHeld, hbid, ?_⟩⟩
  · rw [hbuyOrder, hsellOrder, hfirst, hsecond, h.quoters_venue, h.quoters_venue]
  · rw [hmade.buySide_eq, hfirst]
    exact hbuyQuote
  · rw [hmade.sellSide_eq, hsecond]
    exact hsellQuote
  · rw [hmade.buySide_eq]
    rw [hfirst] at hbuyWorse ⊢
    exact hbuyWorse.le_of_buy
  · rw [hsellOrder] at hsellPos
    exact hsellPos
  · rw [hmade.sellSide_eq]
    rw [hsecond] at hsellWorse ⊢
    exact hsellWorse.le_of_sell
  · rw [hmade.buySide_eq]
    exact hbuyBest
  · rw [hmade.sellSide_eq]
    exact hsellBest

/-! ## Accepted pairs -/

/-- What the acceptance of two orders adds to an executor. -/
structure AddsPair (e e' : Engine) (orders : List Order) (ids : List String) : Prop where
  ids_eq : ids = [orderId e.executor.nextNumber, orderId (e.executor.nextNumber + 1)]
  ids_nodup : ids.Nodup
  /-- No order that was ever accepted has one of the two names. -/
  fresh : ∀ number, Issued e.journal number → orderId number ∉ ids
  active : ∃ added, e'.executor.active = e.executor.active ++ added ∧ added.map (·.order) = orders ∧
    added.map (·.id) = ids
  balances : e'.executor.balances = e.executor.balances

theorem Wired.addsPair (h : Wired c e) {e' : Engine} {clock : Nat → Instant} {orders : List Order}
    {entered : List ActiveOrder} (hlength : orders.length = 2)
    (hsubmit : e.executor.submit clock orders = .ok (entered, e'.executor)) :
    AddsPair e e' orders (entered.map (·.id)) := by
  obtain ⟨-, hentered, hexecutor⟩ := Executor.submit_eq_ok.1 hsubmit
  have hids : entered.map (·.id) = [orderId e.executor.nextNumber, orderId (e.executor.nextNumber + 1)] := by
    have hid : (ActiveOrder.id : ActiveOrder → String) = orderId ∘ ActiveOrder.number := rfl
    rw [hid, ← List.map_map, hentered, Executor.enter_numbers, hlength]
    rfl
  refine ⟨hids, ?_, fun number hissued hmem => ?_, ⟨entered, ?_, ?_, rfl⟩, ?_⟩
  · rw [hids, List.nodup_cons, List.mem_singleton]
    exact ⟨fun heq => Nat.ne_of_lt (Nat.lt_succ_self _) (orderId_injective heq), List.nodup_singleton _⟩
  · have hlt := h.issued number hissued
    rw [hids, List.mem_cons, List.mem_singleton] at hmem
    rcases hmem with heq | heq
    · have := orderId_injective heq
      omega
    · have := orderId_injective heq
      omega
  · rw [hexecutor]
  · rw [hentered, Executor.enter_orders]
  · rw [hexecutor]

/-- **The guarantee of a submitted cycle.** However an engine of a configuration has come about, a cycle that it ends
with orders has found an opportunity with a profit that reaches the threshold; the orders hedge each other; their names
are new; the opportunity is remembered; and just these two orders are added to the active ones. -/
theorem determine_submitted (c : Config) (e e' : Engine) (he : Reachable c e) (clock : Nat → Instant) (o : Opportunity)
    (candidates : List Order) (ids : List String)
    (h : (determine clock).run e = (.ok (.submitted o candidates ids), e')) :
    ∃ settings m, c.validate = .ok settings ∧ 0 < o.profit ∧ settings.minProfitability ≤ o.profit ∧
      Hedges settings e o m candidates ∧ AddsPair e e' candidates ids ∧ e'.last = some o := by
  have hwired := he.wired
  obtain ⟨hfound, hworth, hcandidates, entered, hsubmit, rfl, hlast⟩ := determine_eq_submitted h
  obtain ⟨amounts, hamounts, m, a, ha, ho, hpos⟩ := makes_of_findOptimal hfound
  have hcheck : ∀ order ∈ candidates, order.check = .ok () := fun order horder =>
    (Executor.accepts_eq_ok.1 ((Executor.submit_eq_ok.1 hsubmit).1 order horder)).1
  have hlength : candidates.length = 2 := by
    obtain ⟨buy, sell, -, -, rfl⟩ := Proposal.candidates_eq_ok.1 hcandidates
    rfl
  exact ⟨e.settings, m, hwired.settings, hpos, hworth,
    hedges_of_candidates hwired hamounts ha ho hpos hcandidates hcheck, hwired.addsPair hlength hsubmit, hlast⟩

/-- The configuration of a sweep over the amounts 1, 1.5 and 2 on two connectors. -/
def threeAmountsConfig : Config :=
  { Config.default with
    connector2 := "kraken"
    tradingPair2 := "BTC-USDT"
    minOrderAmount := 1
    maxOrderAmount := 2
    minProfitability := 0
    sweepSteps := 3 }

/-- The engine of `threeAmountsConfig` before its first snapshot. -/
def unheldEngine : Engine :=
  start threeAmounts (.book ⟨threeAmounts.market1, none⟩) (.book ⟨threeAmounts.market2, none⟩)
    ((Executor.empty.fund threeAmounts.market1 10 1000000).fund threeAmounts.market2 10 1000000)

theorem build_threeAmountsConfig : build threeAmountsConfig = .ok unheldEngine := by
  have hvalidate : threeAmountsConfig.validate = .ok threeAmounts := by rfl
  unfold build
  rw [hvalidate]
  rfl

theorem unheldEngine_reachable : Reachable threeAmountsConfig unheldEngine := .start build_threeAmountsConfig

/-- The engine of `threeAmountsConfig` with the snapshots of `unsortedBooks`. -/
def crossingEngine : Engine :=
  start threeAmounts (.book ⟨threeAmounts.market1, some (sortedBooks .first)⟩)
    (.book ⟨threeAmounts.market2, some (sortedBooks .second)⟩)
    ((Executor.empty.fund threeAmounts.market1 10 1000000).fund threeAmounts.market2 10 1000000)

theorem crossingEngine_reachable : Reachable threeAmountsConfig crossingEngine := by
  have hsecond := (unheldEngine_reachable.step (.update (m := .first) rfl (unsortedBooks .first))).step
    (.update (m := .second) rfl (unsortedBooks .second))
  unfold BookSource.update at hsecond
  rw [unsortedBooks_normalized, unsortedBooks_normalized] at hsecond
  exact hsecond

/-- Whether a cycle ends with orders. -/
def submits : Outcome EngineError CycleOutcome → Bool
  | .ok (.submitted ..) => true
  | _ => false

theorem exists_of_submits {r : Outcome EngineError CycleOutcome} (h : submits r = true) :
    ∃ o candidates ids, r = .ok (.submitted o candidates ids) := by
  unfold submits at h
  split at h
  · next o candidates ids => exact ⟨o, candidates, ids, rfl⟩
  · cases h

/-- A cycle of `crossingEngine` ends with orders, so they hedge each other and their names are new. -/
theorem determine_submitted_crossingEngine :
    ∃ o candidates ids e', Reachable threeAmountsConfig crossingEngine ∧
      (determine (fun _ => 0)).run crossingEngine = (.ok (.submitted o candidates ids), e') ∧
      ∃ settings m, threeAmountsConfig.validate = .ok settings ∧ Hedges settings crossingEngine o m candidates ∧
        AddsPair crossingEngine e' candidates ids := by
  obtain ⟨o, candidates, ids, hresult⟩ :=
    exists_of_submits (by decide +kernel : submits ((determine (fun _ => 0)).run crossingEngine).1 = true)
  have hrun : (determine (fun _ => 0)).run crossingEngine
      = (.ok (.submitted o candidates ids), ((determine (fun _ => 0)).run crossingEngine).2) := Prod.ext hresult rfl
  obtain ⟨settings, m, hsettings, -, -, hhedges, hadds, -⟩ := determine_submitted threeAmountsConfig crossingEngine _
    crossingEngine_reachable (fun _ => 0) o candidates ids hrun
  exact ⟨o, candidates, ids, _, crossingEngine_reachable, hrun, settings, m, hsettings, hhedges, hadds⟩

end Engine

end TwoVenue
