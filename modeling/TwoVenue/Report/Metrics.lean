import TwoVenue.Journal.Event

/-!
# Counters

Counters are views of the journal, shown in the text format that monitoring systems read.

- `Metric`: the counters, with their names and descriptions.
- `Metric.counts`: which counter an event belongs to. Venues out of reach are counted one by one.
- `Metrics.lines`: the lines of all counters that have counted something. The measured times of the cycles are shown by
  their number only.
-/

namespace TwoVenue

/-- A counter. -/
inductive Metric where
  | cycleLatency
  | cycles
  | cyclesAborted
  | opportunitiesDetected
  | opportunitiesExecuted
  | samplesSkipped
  | quoteFailures
  | ordersSubmitted
  | ordersFilled
  | ordersFailed
deriving DecidableEq

namespace Metric

/-- All counters. -/
def all : List Metric :=
  [.cycleLatency, .cycles, .cyclesAborted, .opportunitiesDetected, .opportunitiesExecuted, .samplesSkipped,
   .quoteFailures, .ordersSubmitted, .ordersFilled, .ordersFailed]

/-- The name of a counter. -/
def name : Metric → String
  | .cycleLatency => "cycle_latency_ms"
  | .cycles => "cycles_total"
  | .cyclesAborted => "cycles_aborted_total"
  | .opportunitiesDetected => "opportunities_detected_total"
  | .opportunitiesExecuted => "opportunities_executed_total"
  | .samplesSkipped => "samples_skipped_total"
  | .quoteFailures => "quote_failures_total"
  | .ordersSubmitted => "orders_submitted_total"
  | .ordersFilled => "orders_filled_total"
  | .ordersFailed => "orders_failed_total"

/-- What a counter counts. -/
def description : Metric → String
  | .cycleLatency => "Decision cycle latency in milliseconds"
  | .cycles => "Total number of decision cycles run"
  | .cyclesAborted => "Total number of cycles aborted by a quote provider failure"
  | .opportunitiesDetected => "Total number of profitable proposals found"
  | .opportunitiesExecuted => "Total number of proposals submitted for execution"
  | .samplesSkipped => "Total number of sweep samples skipped because a venue could not fill them"
  | .quoteFailures => "Total number of quote provider connectivity failures"
  | .ordersSubmitted => "Total number of orders submitted"
  | .ordersFilled => "Total number of orders filled"
  | .ordersFailed => "Total number of order batches rejected by the executor"

/-- Whether the counter is a distribution of measured values. -/
def kind : Metric → String
  | .cycleLatency => "summary"
  | _ => "counter"

/-- The counter without labels that an event belongs to. -/
def counts : Event → Option Metric
  | .cycleTimed => some .cycleLatency
  | .cycleStarted => some .cycles
  | .cycleAborted _ => some .cyclesAborted
  | .opportunityDetected => some .opportunitiesDetected
  | .opportunityExecuted => some .opportunitiesExecuted
  | .sampleSkipped .. => some .samplesSkipped
  | .orderSubmitted .. => some .ordersSubmitted
  | .orderFilled _ => some .ordersFilled
  | .submissionFailed _ => some .ordersFailed
  | _ => none

/-- The venue that an event shows to be out of reach. -/
def failedVenue? : Event → Option String
  | .cycleAborted (.unavailable venue _) => some venue
  | _ => none

/-- How often a counter without labels has counted. -/
def total (m : Metric) (journal : List Event) : Nat :=
  journal.countP fun e => decide (counts e = some m)

/-- How often a venue was out of reach. -/
def failures (venue : String) (journal : List Event) : Nat :=
  journal.countP fun e => decide (failedVenue? e = some venue)

end Metric

namespace Metrics

/-- The characters of a label after `held`, which says whether a backslash waits for what follows it. A backslash may
already escape a quote or another backslash; one that does not is doubled. -/
def labelChars (held : Bool) : List Char → List Char
  | [] => if held then ['\\', '\\'] else []
  | '\n' :: rest => '\\' :: 'n' :: labelChars held rest
  | '"' :: rest => '\\' :: '"' :: labelChars false rest
  | '\\' :: rest => if held then '\\' :: '\\' :: labelChars false rest else labelChars true rest
  | c :: rest => if held then '\\' :: '\\' :: c :: labelChars false rest else c :: labelChars false rest

/-- The text of a label. -/
def labelText (s : String) : String := String.ofList (labelChars false s.toList)

/-- The venues that were out of reach, each once. -/
def failedVenues (journal : List Event) : List String := (journal.filterMap Metric.failedVenue?).eraseDups

/-- The lines with the values of a counter. -/
def valueLines (journal : List Event) (m : Metric) : List String :=
  match m with
  | .quoteFailures =>
    (failedVenues journal).map fun venue =>
      m.name ++ "\x7bvenue=\"" ++ labelText venue ++ "\"\x7d " ++ toString (Metric.failures venue journal)
  | _ =>
    let n := m.total journal
    let suffix := if m = .cycleLatency then "_count " else " "
    if n = 0 then [] else [m.name ++ suffix ++ toString n]

/-- Whether the descriptions of the counters are known. -/
def described (journal : List Event) : Bool := journal.contains .metricsDescribed

/-- The lines of a counter, if it has counted. -/
def linesOf (journal : List Event) (m : Metric) : List String :=
  match valueLines journal m with
  | [] => []
  | values =>
    (if described journal then ["# HELP " ++ m.name ++ " " ++ m.description] else []) ++
      ("# TYPE " ++ m.name ++ " " ++ m.kind) :: values

/-- All lines, in the order of their characters. -/
def lines (journal : List Event) : List String :=
  (Metric.all.flatMap (linesOf journal)).mergeSort fun a b => decide (a ≤ b)

end Metrics

end TwoVenue
