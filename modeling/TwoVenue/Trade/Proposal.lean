import TwoVenue.Market.Quote

/-!
# Proposals

- `Leg`: one of the two trades of an arbitrage, at its quoted price. `Leg.ofQuote` refuses a quote that cannot be used.
- `Proposal`: two legs on two venues, one that buys and one that sells the same amount. The type holds no others.
- `Proposal.profit`: what the sale brings for each unit that the purchase costs, less one.
-/

namespace TwoVenue

/-- A trade on one venue. -/
structure Leg where
  venue : Venue
  side : Side
  amount : Decimal
  /-- The quoted average price. -/
  price : Decimal
  fee : Decimal
deriving DecidableEq

namespace Leg

/-- Whether the leg buys. -/
def isBuy (l : Leg) : Bool := l.side.isBuy

/-- The leg of a quote: amount and price have to be positive, and the fee at least zero and less than one. -/
def ofQuote (venue : Venue) (side : Side) (amount : Decimal) (quote : Quote) : Except QuoteError Leg :=
  let invalid (flaw : QuoteFlaw) : Except QuoteError Leg := .error (.invalidQuote venue.connector flaw)
  if amount ≤ 0 then invalid (.nonPositiveAmount amount)
  else if quote.price ≤ 0 then invalid (.nonPositivePrice side quote.price)
  else if quote.fee < 0 ∨ 1 ≤ quote.fee then invalid (.feeOutOfRange quote.fee)
  else .ok ⟨venue, side, amount, quote.price, quote.fee⟩

end Leg

/-- Two legs that belong together. -/
structure Proposal where
  first : Leg
  second : Leg
  sides_ne : first.side ≠ second.side
  amounts_equiv : first.amount ≈ second.amount
  venues_ne : first.venue ≠ second.venue
deriving DecidableEq

namespace Proposal

/-- The proposal of two legs, if they belong together. -/
def pair? (first second : Leg) : Option Proposal :=
  if h : first.side ≠ second.side ∧ first.amount ≈ second.amount ∧ first.venue ≠ second.venue then
    some ⟨first, second, h.1, h.2.1, h.2.2⟩
  else none

/-- The amount that is traded, as the first leg has it. -/
def amount (p : Proposal) : Decimal := p.first.amount

/-- The leg that buys. -/
def buySide (p : Proposal) : Leg := if p.first.isBuy then p.first else p.second

/-- The leg that sells. -/
def sellSide (p : Proposal) : Leg := if p.first.isBuy then p.second else p.first

/-- The two legs in order. -/
def sides (p : Proposal) : List Leg := [p.first, p.second]

/-- The profit as a fraction of the outlay, with or without the fees of the venues. -/
def profit (p : Proposal) (withFees : Bool) : Except Fault Decimal := do
  let buyFee := if withFees then p.buySide.fee else 0
  let sellFee := if withFees then p.sellSide.fee else 0
  let paid ← Decimal.add 1 buyFee
  let outlay ← p.buySide.price.mul paid
  let kept ← Decimal.sub 1 sellFee
  let proceeds ← p.sellSide.price.mul kept
  let ratio ← proceeds.div outlay
  ratio.sub 1

end Proposal

/-- A proposal with its profit after fees. -/
structure Opportunity where
  proposal : Proposal
  profit : Decimal
deriving DecidableEq

/-- The text that reports of an opportunity show. -/
def Opportunity.summary (amount profit : Decimal) : Except Fault String := do
  let percent ← profit.mul 100
  let size ← amount.toFixed 6
  let share ← (percent.roundPlaces 2).toFixed 2
  return "Last Optimal Proposal: Size " ++ size ++ ", Profitability: " ++ share ++ "%"

end TwoVenue
