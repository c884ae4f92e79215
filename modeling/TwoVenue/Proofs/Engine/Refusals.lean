import TwoVenue.Proofs.Engine.Restraint
import TwoVenue.Proofs.Trade.Commitments

/-!
# Why a batch is refused

A cycle hands a purchase and a sale to its executor, which checks the purchase and its payment, then the sale and its
payment. By then most of what could be wrong with them has been ruled out: the names by the settings, the amount and the
quotes by the checks of the legs. What is left are the two payments, and a sale whose price a buffer has made zero.

- `Executor.accepts_of_required`: an order without a flaw is refused for its payment only.
- `Executor.Judged`: all that can become of a purchase and a sale. `acceptsAll_judged`: **one of these ways it is**, and
  `Judged.unique`: no two of them.
- `Engine.Sends`: a cycle that reaches its executor. `Sends.paired`: **what is known of its two orders**.
- `Engine.Decides`: when such a cycle ends with which answer. `determine_decides`: **every such cycle keeps to it**, for
  every engine that comes from a configuration and every executor.
-/

namespace TwoVenue

open Decimal

/-- The refusal of an order that an account cannot pay for. -/
def Balances.shortage (b : Balances) (account : Account) (required : Decimal) : TradingError :=
  .insufficientFunds account.connector account.asset required (b.get account)

/-! ## A purchase and a sale -/

namespace Executor

variable {x : Executor} {o buy sell : Order} {notional : Decimal}

theorem accepts_of_flaw {flaw : OrderFlaw} (h : o.check = .error flaw) :
    x.accepts o = .error (.error (.invalidParams flaw)) := by
  unfold accepts
  rw [h]
  rfl

/-- An order without a flaw is refused if the account that it takes from does not hold enough. -/
theorem accepts_of_required {account : Account} {required : Decimal} (h : o.check = .ok ())
    (hrequired : Balances.required o = .ok (account, required)) :
    x.accepts o = if x.balances.get account < required then .error (.error (x.balances.shortage account required))
      else .ok () := by
  unfold accepts Balances.checkFunds
  rw [h, hrequired]
  show (if x.balances.get account < required then _ else _ : Outcome TradingError Unit) = _
  split <;> rfl

/-- All that can become of a purchase without a flaw and a sale that can only have one in its price. -/
inductive Judged (x : Executor) (buy sell : Order) (notional : Decimal) : Outcome TradingError Unit → Prop
  | unpaidPurchase (hshort : x.balances.get buy.quoteAccount < notional) :
      Judged x buy sell notional (.error (.error (x.balances.shortage buy.quoteAccount notional)))
  | worthlessSale (hpaid : notional ≤ x.balances.get buy.quoteAccount) (hprice : sell.price ≈ 0) :
      Judged x buy sell notional (.error (.error (.invalidParams .nonPositivePrice)))
  | unpaidSale (hpaid : notional ≤ x.balances.get buy.quoteAccount) (hprice : 0 < sell.price)
      (hshort : x.balances.get sell.baseAccount < sell.amount) :
      Judged x buy sell notional (.error (.error (x.balances.shortage sell.baseAccount sell.amount)))
  | accepted (hpaid : notional ≤ x.balances.get buy.quoteAccount) (hprice : 0 < sell.price)
      (hheld : sell.amount ≤ x.balances.get sell.baseAccount) : Judged x buy sell notional (.ok ())

/-- **A purchase and a sale end in one way only.** -/
theorem Judged.unique {r r' : Outcome TradingError Unit} (h : Judged x buy sell notional r)
    (h' : Judged x buy sell notional r') : r = r' := by
  cases h with
  | unpaidPurchase hshort =>
    cases h' with
    | unpaidPurchase => rfl
    | worthlessSale hpaid | unpaidSale hpaid | accepted hpaid => exact absurd hshort (Decimal.not_lt.2 hpaid)
  | worthlessSale hpaid hprice =>
    cases h' with
    | unpaidPurchase hshort => exact absurd hshort (Decimal.not_lt.2 hpaid)
    | worthlessSale => rfl
    | unpaidSale _ hpos | accepted _ hpos => exact absurd hpos (not_pos_of_equiv_zero hprice)
  | unpaidSale hpaid hpos hshort =>
    cases h' with
    | unpaidPurchase hshort => exact absurd hshort (Decimal.not_lt.2 hpaid)
    | worthlessSale _ hprice => exact absurd hpos (not_pos_of_equiv_zero hprice)
    | unpaidSale => rfl
    | accepted _ _ hheld => exact absurd hshort (Decimal.not_lt.2 hheld)
  | accepted hpaid hpos hheld =>
    cases h' with
    | unpaidPurchase hshort => exact absurd hshort (Decimal.not_lt.2 hpaid)
    | worthlessSale _ hprice => exact absurd hpos (not_pos_of_equiv_zero hprice)
    | unpaidSale _ _ hshort => exact absurd hshort (Decimal.not_lt.2 hheld)
    | accepted => rfl

/-- **A purchase and a sale end in one of these ways.** -/
theorem acceptsAll_judged (hbuy : buy.check = .ok ()) (hbuy_side : buy.side = .buy) (hnotional : buy.notional = .ok notional)
    (hconnector : sell.connector ≠ "") (hpair : sell.tradingPair ≠ "") (hamount : 0 < sell.amount)
    (hprice : 0 ≤ sell.price) (hsell_side : sell.side = .sell) :
    Judged x buy sell notional (x.acceptsAll [buy, sell]) := by
  have hpurchase := accepts_of_required (x := x) hbuy (Order.takes_eq_some.1 (Order.takes_of_buy hbuy_side hnotional))
  unfold acceptsAll
  rw [hpurchase]
  -- the purchase has to be paid for before anything is known of the sale
  by_cases hpaid : x.balances.get buy.quoteAccount < notional
  · rw [if_pos hpaid]
    exact .unpaidPurchase hpaid
  rw [if_neg hpaid]
  have hpaid := Decimal.not_lt.1 hpaid
  show Judged x buy sell notional (x.accepts sell >>= fun _ => x.acceptsAll [])
  by_cases hworthless : sell.price ≤ 0
  · have hflaw : sell.check = .error .nonPositivePrice := by
      unfold Order.check
      rw [if_neg hconnector, if_neg hpair, if_pos hworthless]
    rw [accepts_of_flaw hflaw]
    exact .worthlessSale hpaid (equiv_of_le_of_le hworthless hprice)
  · have hprice := Decimal.not_le.1 hworthless
    rw [accepts_of_required (Order.check_eq_ok.2 ⟨hconnector, hpair, hprice, hamount⟩)
      (Order.takes_eq_some.1 (Order.takes_of_sell hsell_side))]
    by_cases hheld : x.balances.get sell.baseAccount < sell.amount
    · rw [if_pos hheld]
      exact .unpaidSale hpaid hprice hheld
    · rw [if_neg hheld]
      exact .accepted hpaid hprice (Decimal.not_lt.1 hheld)

end Executor

/-- The venues of settings have names. -/
theorem Settings.venue_named (s : Settings) (m : Market) :
    (s.venue m).connector ≠ "" ∧ (s.venue m).tradingPair ≠ "" := by
  have hnamed : ∀ name ∈ [s.market1.connector, s.market1.tradingPair, s.market2.connector, s.market2.tradingPair],
      name ≠ "" := by
    rintro name hname rfl
    cases s.named "" hname
  cases m with
  | first => exact ⟨hnamed _ (by simp [venue]), hnamed _ (by simp [venue])⟩
  | second => exact ⟨hnamed _ (by simp [venue]), hnamed _ (by simp [venue])⟩

namespace Engine

variable {c : Config} {e : Engine} {o : Opportunity} {buy sell : Order}

/-! ## Cycles that reach their executor -/

/-- Whether a cycle hands a purchase and a sale to its executor: it finds an opportunity that is worth it, and both
orders have a price. -/
structure Sends (e : Engine) (o : Opportunity) (buy sell : Order) : Prop where
  found : (findOptimal e.settings e.quoters).outcome = .ok (some o)
  worth : e.settings.minProfitability ≤ o.profit
  orders : o.proposal.candidates e.settings = .ok [buy, sell]

/-- The answer of a cycle whose executor has judged its orders. -/
def answerOf (o : Opportunity) (buy sell : Order) (ids : List String) :
    Outcome TradingError Unit → Outcome EngineError CycleOutcome
  | .ok () => .ok (.submitted o [buy, sell] ids)
  | .error failure => .error (failure.map .trading)

/-- Such a cycle ends as the executor says. -/
theorem determine_of_sends (h : Sends e o buy sell) (clock : Nat → Instant) :
    ((determine clock).run e).1 =
      answerOf o buy sell ((Executor.enter clock e.executor.nextNumber [buy, sell]).map (·.id))
        (e.executor.acceptsAll [buy, sell]) := by
  have hevaluate : evaluate.run e = (.ok (some o), e.searched.published o) := by
    rw [evaluate_run, h.found]
  have hsettings : (e.searched.published o).settings = e.settings := rfl
  have hexecutor : (e.searched.published o).executor = e.executor := rfl
  rw [determine_run, cycle_run, hevaluate]
  dsimp only
  rw [hsettings, if_neg (Decimal.not_lt.2 h.worth), execute_run, hsettings, hexecutor, h.orders]
  dsimp only
  unfold Executor.submit
  cases e.executor.acceptsAll [buy, sell] with
  | ok u => rfl
  | error failure => cases failure <;> rfl

/-- What is known of the purchase and the sale of a cycle: they trade one positive amount on two named venues, the
purchase has a price, and the sale has the one that its buffer leaves of a quote. -/
structure Paired (s : Settings) (o : Opportunity) (m : Market) (buy sell : Order) : Prop where
  buy_eq : buy = .taker (s.venue m) .buy o.proposal.amount buy.price
  sell_eq : sell = .taker (s.venue m.other) .sell o.proposal.amount sell.price
  amount_pos : 0 < o.proposal.amount
  buy_price_pos : 0 < buy.price
  sell_price : ∃ quoted, 0 < quoted ∧ bufferedPrice quoted .sell (s.slippageBuffer sell.connector) = .ok sell.price

/-- **The orders of a cycle are such a pair.** -/
theorem Sends.paired (h : Sends e o buy sell) (hvenue : ∀ m, (e.quoters m).venue = e.settings.venue m) :
    ∃ m, Paired e.settings o m buy sell := by
  obtain ⟨amounts, -, m, a, -, ho, -⟩ := makes_of_findOptimal h.found
  have hmade := propose_eq_ok.1 ho.proposal
  obtain ⟨buyQuote, sellQuote, -, -, hfirst, hsecond⟩ := hmade.quotes
  obtain ⟨first, second, hbuy, hsell, horders⟩ := Proposal.candidates_eq_ok.1 h.orders
  cases horders
  obtain ⟨buyPrice, hbuyPrice, hbuyOrder⟩ := Leg.candidate_eq_ok.1 hbuy
  obtain ⟨sellPrice, hsellPrice, hsellOrder⟩ := Leg.candidate_eq_ok.1 hsell
  have hamount : o.proposal.amount = a := congrArg Leg.amount hfirst
  have hvalid := hmade.first_valid
  have hquoted := hmade.second_valid.price_pos
  -- a purchase is only made dearer, so its price stays positive; that of the sale may become zero
  have hworse := bufferedPrice_worse hvalid.price_pos (e.settings.slippageBuffer_nonneg _) hbuyPrice
  rw [hfirst] at hvalid hworse hbuyOrder
  rw [hsecond] at hquoted hsellPrice hsellOrder
  rw [hvenue] at hbuyOrder hsellOrder
  rw [hbuyOrder, hsellOrder]
  refine ⟨m, by rw [hamount]; rfl, by rw [hamount]; rfl, ?_, ?_, ?_⟩
  · rw [hamount]
    exact hvalid.amount_pos
  · exact lt_of_lt_of_le hvalid.price_pos hworse.le_of_buy
  · rw [hvenue] at hsellPrice
    exact ⟨sellQuote.price, hquoted, hsellPrice⟩

/-! ## The answers of such cycles -/

/-- When a cycle that hands a purchase and a sale to an executor ends with which answer. -/
structure Decides (x : Executor) (buy sell : Order) (notional : Decimal) (answer : Outcome EngineError CycleOutcome) :
    Prop where
  /-- An order is invalid just if the purchase is paid for and nothing is left of the price of the sale. -/
  invalid_iff : ∀ flaw, answer = .error (.error (.trading (.invalidParams flaw))) ↔
    notional ≤ x.balances.get buy.quoteAccount ∧ sell.price ≈ 0 ∧ flaw = .nonPositivePrice
  invalid_text : ∀ flaw, answer = .error (.error (.trading (.invalidParams flaw))) →
    (TradingError.invalidParams flaw).message = "invalid order parameters: price must be positive"
  /-- Funds are insufficient just if an order cannot be paid for, and the error is about the first one. -/
  unpaid_iff : ∀ connector asset required available,
    answer = .error (.error (.trading (.insufficientFunds connector asset required available))) ↔
      available < required ∧
        ((⟨connector, asset⟩ = buy.quoteAccount ∧ required = notional ∧ available = x.balances.get buy.quoteAccount) ∨
          (notional ≤ x.balances.get buy.quoteAccount ∧ 0 < sell.price ∧ ⟨connector, asset⟩ = sell.baseAccount ∧
            required = sell.amount ∧ available = x.balances.get sell.baseAccount))
  accepted_iff : (∃ o ids, answer = .ok (.submitted o [buy, sell] ids)) ↔
    notional ≤ x.balances.get buy.quoteAccount ∧ 0 < sell.price ∧ sell.amount ≤ x.balances.get sell.baseAccount

theorem decides_of_judged {x : Executor} {notional : Decimal} {r : Outcome TradingError Unit} {ids : List String}
    (h : x.Judged buy sell notional r) : Decides x buy sell notional (answerOf o buy sell ids r) := by
  have hinvalid : ∀ flaw, answerOf o buy sell ids r = .error (.error (.trading (.invalidParams flaw))) →
      notional ≤ x.balances.get buy.quoteAccount ∧ sell.price ≈ 0 ∧ flaw = .nonPositivePrice := by
    intro flaw hanswer
    cases h with
    | worthlessSale hpaid hprice =>
      cases hanswer
      exact ⟨hpaid, hprice, rfl⟩
    | _ => cases hanswer
  refine ⟨fun flaw => ⟨hinvalid flaw, ?_⟩, fun flaw hanswer => ?_, fun connector asset required available => ⟨?_, ?_⟩, ?_, ?_⟩
  · rintro ⟨hpaid, hprice, rfl⟩
    rw [h.unique (.worthlessSale hpaid hprice)]
    rfl
  · obtain ⟨-, -, rfl⟩ := hinvalid flaw hanswer
    rfl
  · intro hanswer
    cases h with
    | unpaidPurchase hshort =>
      cases hanswer
      exact ⟨hshort, Or.inl ⟨rfl, rfl, rfl⟩⟩
    | unpaidSale hpaid hpos hshort =>
      cases hanswer
      exact ⟨hshort, Or.inr ⟨hpaid, hpos, rfl, rfl, rfl⟩⟩
    | _ => cases hanswer
  · rintro ⟨hshort, ⟨haccount, rfl, rfl⟩ | ⟨hpaid, hpos, haccount, rfl, rfl⟩⟩
    · rw [h.unique (.unpaidPurchase hshort), Balances.shortage, ← haccount]
      rfl
    · rw [h.unique (.unpaidSale hpaid hpos hshort), Balances.shortage, ← haccount]
      rfl
  · rintro ⟨o', ids', hanswer⟩
    cases h with
    | accepted hpaid hpos hheld => exact ⟨hpaid, hpos, hheld⟩
    | _ => cases hanswer
  · rintro ⟨hpaid, hpos, hheld⟩
    rw [h.unique (.accepted hpaid hpos hheld)]
    exact ⟨o, ids, rfl⟩

/-- A sale whose buffer is the whole price is never accepted. -/
theorem Sends.not_submitted {m : Market} (h : Sends e o buy sell) (hpaired : Paired e.settings o m buy sell)
    (hbuffer : 1 ≤ e.settings.slippageBuffer sell.connector) (clock : Nat → Instant) (o' : Opportunity)
    (candidates : List Order) (ids : List String) : ((determine clock).run e).1 ≠ .ok (.submitted o' candidates ids) := by
  intro hsubmitted
  obtain ⟨hfound, -, hcandidates, entered, hsubmit, -⟩ :=
    determine_eq_submitted (Prod.ext hsubmitted rfl : (determine clock).run e = (_, ((determine clock).run e).2))
  cases h.found.symm.trans hfound
  cases h.orders.symm.trans hcandidates
  have hcheck := (Executor.accepts_eq_ok.1 ((Executor.submit_eq_ok.1 hsubmit).1 sell (by simp))).1
  have hpos : 0 < sell.price := (Order.check_eq_ok.1 hcheck).2.2.1
  obtain ⟨quoted, hquoted, hprice⟩ := hpaired.sell_price
  exact not_pos_of_equiv_zero (bufferedPrice_of_one_le hquoted hbuffer hprice) hpos

/-- **The guarantee of a refusal.** Take an engine that has come from a configuration, with any snapshots, and any
executor, and a cycle that hands a purchase and a sale to it. They are on the two venues of the settings and trade one
amount, and the purchase has no flaw. As long as it can be computed what the purchase costs: the batch is invalid if and
only if the purchase is paid for and the limit price of the sale is zero, and the text says so; funds are insufficient
just for the first order that cannot be paid for, and the error has its account, what that would have to hold and what it
holds; and with enough on both accounts, a price above zero gets both orders accepted. A buffer of one or more on the sale
never produces an order. -/
theorem determine_decides (c : Config) (e : Engine) (he : Reachable c e) (x : Executor) (clock : Nat → Instant)
    (o : Opportunity) (buy sell : Order) (h : Sends { e with executor := x } o buy sell) :
    ∃ m : Market, buy = .taker (e.settings.venue m) .buy o.proposal.amount buy.price ∧
      sell = .taker (e.settings.venue m.other) .sell o.proposal.amount sell.price ∧ buy.check = .ok () ∧
      (∀ notional, buy.notional = .ok notional →
        Decides x buy sell notional ((determine clock).run { e with executor := x }).1) ∧
      (1 ≤ e.settings.slippageBuffer sell.connector →
        (∀ o' candidates ids, ((determine clock).run { e with executor := x }).1 ≠ .ok (.submitted o' candidates ids)) ∧
          ((determine clock).run { e with executor := x }).2.executor = x) := by
  obtain ⟨m, hpaired⟩ := h.paired fun m => he.wired.quoters_venue m
  obtain ⟨hbuy_connector, hbuy_pair⟩ := e.settings.venue_named m
  obtain ⟨hsell_connector, hsell_pair⟩ := e.settings.venue_named m.other
  have hcheck : buy.check = .ok () := by
    refine Order.check_eq_ok.2 ?_
    rw [hpaired.buy_eq]
    exact ⟨hbuy_connector, hbuy_pair, hpaired.buy_price_pos, hpaired.amount_pos⟩
  refine ⟨m, hpaired.buy_eq, hpaired.sell_eq, hcheck, fun notional hnotional => ?_, fun hbuffer => ?_⟩
  · obtain ⟨quoted, -, hprice⟩ := hpaired.sell_price
    rw [determine_of_sends h clock]
    refine decides_of_judged (Executor.acceptsAll_judged hcheck ?_ hnotional ?_ ?_ ?_ (bufferedPrice_nonneg hprice) ?_)
    · rw [hpaired.buy_eq]
      rfl
    · rw [hpaired.sell_eq]
      exact hsell_connector
    · rw [hpaired.sell_eq]
      exact hsell_pair
    · rw [hpaired.sell_eq]
      exact hpaired.amount_pos
    · rw [hpaired.sell_eq]
      rfl
  · have hnever := h.not_submitted hpaired hbuffer clock
    exact ⟨hnever, (determine_untraded hnever).executor⟩

/-- What the search of `crossingEngine` finds. -/
def crossingOpportunity : Opportunity where
  proposal :=
    { first := ⟨threeAmounts.market1, .buy, 1, 100, 0.001⟩
      second := ⟨threeAmounts.market2, .sell, 1, 105, 0.002⟩
      sides_ne := nofun
      amounts_equiv := rfl
      venues_ne := by decide }
  profit := 0.0468531468531468531468531469

/-- The executor of `crossingEngine` with nothing to sell on the second venue. -/
def unstocked : Executor := crossingEngine.executor.fund threeAmounts.market2 0 1000000

/-- With `unstocked` the purchase of `crossingEngine` is paid for and the sale is not, and the error says so. -/
theorem determine_decides_unstocked :
    ∃ buy sell, Reachable threeAmountsConfig crossingEngine ∧
      Sends { crossingEngine with executor := unstocked } crossingOpportunity buy sell ∧
      buy.check = .ok () ∧ buy.notional = .ok 101.00 ∧
      ((determine fun _ => 0).run { crossingEngine with executor := unstocked }).1 =
        .error (.error (.trading (.insufficientFunds "kraken" "BTC" 1 0))) := by
  have hsends : Sends { crossingEngine with executor := unstocked } crossingOpportunity
      (.taker threeAmounts.market1 .buy 1 101.00) (.taker threeAmounts.market2 .sell 1 103.95) :=
    ⟨by decide +kernel, by decide +kernel, by decide +kernel⟩
  obtain ⟨m, -, -, hcheck, hdecides, -⟩ := determine_decides threeAmountsConfig crossingEngine crossingEngine_reachable
    unstocked (fun _ => 0) crossingOpportunity _ _ hsends
  have hnotional : (Order.taker threeAmounts.market1 .buy 1 101.00).notional = .ok 101.00 := by decide +kernel
  refine ⟨_, _, crossingEngine_reachable, hsends, hcheck, hnotional, ?_⟩
  exact ((hdecides _ hnotional).unpaid_iff "kraken" "BTC" 1 0).2 (by decide +kernel)

end Engine

end TwoVenue
