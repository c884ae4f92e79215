import TwoVenue.Decimal.Division
import TwoVenue.Decimal.Text
import TwoVenue.Failure
import TwoVenue.Market.Side
import TwoVenue.Market.Venue

/-!
# Quotes

- `Quote`: the average price per unit of base asset for an amount, and the fee rate on it.
- `TopOfBook`: the best prices, with their mid price.
- `QuoteError`: why a venue gives no quote, with a `QuoteFlaw` or an `Outage` as the reason. An error that only concerns the asked amount is `sampleLocal`.
-/

namespace TwoVenue

/-- The price at which an amount can be traded, and the fee rate. -/
structure Quote where
  price : Decimal
  fee : Decimal
deriving DecidableEq

/-- The best prices of a venue. -/
structure TopOfBook where
  /-- What a seller receives. -/
  bestBid : Option Decimal
  /-- What a buyer pays. -/
  bestAsk : Option Decimal

/-- Half of the sum of the two best prices, if there are both. -/
def TopOfBook.midPrice (t : TopOfBook) : Except Fault (Option Decimal) :=
  match t.bestBid, t.bestAsk with
  | some bid, some ask => do
    let total ← bid.add ask
    let half ← total.div 2
    return some half
  | _, _ => .ok none

/-- What is wrong with a quote or with the request for one. -/
inductive QuoteFlaw where
  | nonPositiveAmount (amount : Decimal)
  | nonPositivePrice (side : Side) (price : Decimal)
  /-- The fee rate is negative, or the fee would take everything. -/
  | feeOutOfRange (fee : Decimal)
  /-- The two legs of a trade are on the same venue. -/
  | pairedWithItself (venue : Venue)
deriving DecidableEq

/-- The text of a flaw. -/
def QuoteFlaw.message : QuoteFlaw → String
  | .nonPositiveAmount amount => "non-positive amount " ++ amount.toText
  | .nonPositivePrice side price => "non-positive " ++ side.text ++ " price " ++ price.toText
  | .feeOutOfRange fee => "fee " ++ fee.toText ++ " outside [0, 1)"
  | .pairedWithItself venue => "cannot pair " ++ venue.text ++ " with itself"

/-- Why a venue does not answer. -/
inductive Outage where
  /-- The venue does not trade this pair. -/
  | otherPair (pair : String)
  /-- There is no snapshot of its book. -/
  | noSnapshot
  /-- It has been told not to answer. -/
  | refused
deriving DecidableEq

/-- The text of an outage. -/
def Outage.message : Outage → String
  | .otherPair pair => pair ++ " is not quoted here"
  | .noSnapshot => "no order book snapshot"
  | .refused => "Mock connectivity failure"

/-- Why there is no quote. -/
inductive QuoteError where
  /-- The venue cannot fill the amount. -/
  | insufficientLiquidity (venue : String) (required available : Decimal)
  /-- The quote or the request breaks a rule. -/
  | invalidQuote (venue : String) (flaw : QuoteFlaw)
  /-- The venue cannot be reached. -/
  | unavailable (venue : String) (outage : Outage)
deriving DecidableEq

namespace QuoteError

/-- The text of an error. -/
def message : QuoteError → String
  | .insufficientLiquidity venue required available =>
    "insufficient liquidity on " ++ venue ++ ": need " ++ required.toText ++ ", available " ++ available.toText
  | .invalidQuote venue flaw => "invalid quote from " ++ venue ++ ": " ++ flaw.message
  | .unavailable venue outage => "quote provider " ++ venue ++ " unavailable: " ++ outage.message

/-- Whether another amount may do better. -/
def isSampleLocal : QuoteError → Bool
  | .unavailable .. => false
  | _ => true

end QuoteError

end TwoVenue
