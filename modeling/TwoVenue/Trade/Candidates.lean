import TwoVenue.Settings.Basic
import TwoVenue.Trade.Order
import TwoVenue.Trade.Proposal

/-!
# Order candidates

A proposal becomes two orders at prices that are a little worse than the quotes, by the buffer of the venue.

- `bufferedPrice`: a buyer may pay more, a seller may receive less, but no price is negative.
- `Proposal.candidates`: one order per leg, in the order of the legs.
-/

namespace TwoVenue

/-- The limit price of an order that was quoted at a price. -/
def bufferedPrice (quoted : Decimal) (side : Side) (buffer : Decimal) : Except Fault Decimal := do
  let factor ← match side with
    | .buy => Decimal.add 1 buffer
    | .sell => Decimal.sub 1 buffer
  let price ← quoted.mul factor
  return price.max 0

/-- The order for a leg. -/
def Leg.candidate (s : Settings) (l : Leg) : Except Fault Order := do
  let price ← bufferedPrice l.price l.side (s.slippageBuffer l.venue.connector)
  return .taker l.venue l.side l.amount price

/-- The orders for the two legs. -/
def Proposal.candidates (s : Settings) (p : Proposal) : Except Fault (List Order) := do
  let first ← p.first.candidate s
  let second ← p.second.candidate s
  return [first, second]

end TwoVenue
