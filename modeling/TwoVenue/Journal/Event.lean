import TwoVenue.Trade.Executor
import TwoVenue.Trade.Proposal

/-!
# Events

Whatever the engine does is an event in its journal. Log lines, counters and the number of calls are views of the
journal; the engine itself keeps none of them.
-/

namespace TwoVenue

/-- Something that happened. -/
inductive Event where
  /-- A market is asked for a quote. -/
  | quoteAsked (market : Market) (side : Side)
  /-- A book has given a quote. -/
  | quoteGiven (side : Side) (price : Decimal)
  /-- Both venues have given quotes for an amount. -/
  | sampleQuoted (amount buyPrice sellPrice : Decimal)
  /-- An amount makes no proposal. -/
  | sampleSkipped (amount : Decimal) (error : QuoteError)
  /-- A venue cannot be reached. -/
  | sweepAborted (amount : Decimal) (error : QuoteError)
  /-- The best amount of a direction makes a profit. -/
  | bestSize (amount profit : Decimal)
  /-- Both directions have been searched. -/
  | sweepsCompleted (first second : Option Decimal)
  /-- A cycle begins. -/
  | cycleStarted
  /-- A cycle ends because a venue cannot be reached. -/
  | cycleAborted (error : QuoteError)
  /-- A cycle has found nothing. -/
  | nothingFound
  /-- A cycle has found an opportunity. -/
  | opportunityDetected
  /-- An opportunity is not worth its orders. -/
  | belowThreshold (profit threshold : Decimal)
  /-- An opportunity is worth its orders. -/
  | opportunityTaken (amount : Decimal) (buy sell : Venue) (profit : Decimal)
  /-- The orders of an opportunity are refused. -/
  | submissionFailed (error : TradingError)
  /-- The orders of an opportunity are accepted. -/
  | opportunityExecuted
  /-- The time that a cycle took has been measured. -/
  | cycleTimed
  /-- An order is accepted. -/
  | orderSubmitted (number : Nat) (order : Order)
  /-- An order is filled. -/
  | orderFilled (number : Nat)
  /-- Nobody waits for the report of a filled order. -/
  | completionLost
  /-- The report of a filled order has been read. -/
  | completionRead (completion : Completion)
  /-- No more reports will come. -/
  | completionsClosed
  /-- A report has no prices of a market. -/
  | marketUnpriced (venue : Venue) (error : QuoteError)
  /-- The counters have been given their descriptions. -/
  | metricsDescribed
deriving DecidableEq

end TwoVenue
