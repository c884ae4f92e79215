import TwoVenue.Journal.Event

/-!
# Log lines

Some events are shown as log lines.

- `LogLine`: a severity, a message, and fields with their texts.
- `Event.logLine?`: the line of an event, if it has one.
- `logLines`: the lines of a stretch of the journal, from a severity on.
-/

namespace TwoVenue

/-- How important a log line is. -/
inductive Severity where
  | trace
  | debug
  | info
  | warn
  | error
deriving DecidableEq

namespace Severity

/-- The rank of a severity; more important ones have a higher rank. -/
def rank : Severity → Nat
  | .trace => 0
  | .debug => 1
  | .info => 2
  | .warn => 3
  | .error => 4

/-- The name of a severity. -/
def text : Severity → String
  | .trace => "TRACE"
  | .debug => "DEBUG"
  | .info => "INFO"
  | .warn => "WARN"
  | .error => "ERROR"

end Severity

/-- A line of the log. -/
structure LogLine where
  severity : Severity
  message : String
  fields : List (String × String)

/-- A profit that may be missing. -/
def optionText : Option Decimal → String
  | some d => "Some(" ++ d.toText ++ ")"
  | none => "None"

/-- The log line of an event. -/
def Event.logLine? : Event → Option LogLine
  | .quoteGiven side price =>
    some ⟨.debug, match side with | .buy => "Buy quote" | .sell => "Sell quote", [("price", price.toText)]⟩
  | .sampleQuoted amount buyPrice sellPrice =>
    some ⟨.trace, "Quoted sample",
      [("amount", amount.toText), ("buy_price", buyPrice.toText), ("sell_price", sellPrice.toText)]⟩
  | .sampleSkipped amount error =>
    some ⟨.debug, "Skipping sample", [("amount", amount.toText), ("error", error.message)]⟩
  | .sweepAborted amount error =>
    some ⟨.warn, "Quote provider failed, aborting sweep", [("amount", amount.toText), ("error", error.message)]⟩
  | .bestSize amount profit =>
    some ⟨.debug, "Best size for direction", [("amount", amount.toText), ("profit_pct", profit.toText)]⟩
  | .sweepsCompleted first second =>
    some ⟨.debug, "Directional sweeps complete",
      [("direction_1", optionText first), ("direction_2", optionText second)]⟩
  | .cycleAborted error => some ⟨.warn, "Cycle aborted", [("error", error.message)]⟩
  | .nothingFound => some ⟨.debug, "No arbitrage opportunity", []⟩
  | .belowThreshold profit threshold =>
    some ⟨.debug, "Best proposal below threshold",
      [("profit_pct", profit.toText), ("min_profitability", threshold.toText)]⟩
  | .opportunityTaken amount buy sell profit =>
    some ⟨.info, "Found arbitrage opportunity",
      [("amount", amount.toText), ("buy", buy.text), ("sell", sell.text), ("profit_pct", profit.toText)]⟩
  | .submissionFailed error => some ⟨.error, "Order submission failed", [("error", error.message)]⟩
  | .orderSubmitted number o =>
    some ⟨.info, "SIMULATED order submitted",
      [("order_id", orderId number), ("connector", o.connector), ("trading_pair", o.tradingPair),
       ("side", o.side.text), ("amount", o.amount.toText), ("price", o.price.toText)]⟩
  | .completionLost => some ⟨.debug, "Completion receiver dropped", []⟩
  | .completionRead c =>
    some ⟨.info, match c.side with | .buy => "Buy order completed" | .sell => "Sell order completed",
      [("order_id", c.id), ("connector", c.connector), ("amount", c.amount.toText), ("price", c.price.toText)]⟩
  | .completionsClosed => some ⟨.warn, "Order completion channel closed", []⟩
  | .marketUnpriced venue error =>
    some ⟨.debug, "No prices for report", [("venue", venue.text), ("error", error.message)]⟩
  | .metricsDescribed => some ⟨.debug, "Metrics initialized", []⟩
  | .quoteAsked .. | .cycleStarted | .opportunityDetected | .opportunityExecuted | .cycleTimed | .orderFilled _ =>
    none

/-- The log lines of some events that are at least so important. -/
def logLines (least : Severity) (events : List Event) : List LogLine :=
  (events.filterMap Event.logLine?).filter fun l => decide (least.rank ≤ l.severity.rank)

end TwoVenue
