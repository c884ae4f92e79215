import TwoVenue.Journal.Log
import TwoVenue.Report.Endpoint

/-!
# Sessions in simulated time

A session runs an engine step by step. Time only moves when it is told to, and between two steps all orders are filled
whose delay has passed.

- `Session`: the engine, the time, the orders that wait to be filled, and the reports that nobody has read yet.
- `Session.settle`: fills what is due, in the order of submission.
- `Session.read`, `Session.close`, `Session.finish`: the reports of filled orders.
-/

namespace TwoVenue

/-- An engine in simulated time. -/
structure Session where
  engine : Engine
  /-- Milliseconds since the start. -/
  now : Nat
  /-- Milliseconds from the submission of an order until it is filled. -/
  delay : Nat
  /-- Orders that wait to be filled, by number, and when they are due. -/
  waiting : List (Nat × Nat)
  /-- Reports of filled orders that have not been read, the latest one first. -/
  inbox : List Completion
  /-- Whether anybody will read reports. -/
  listening : Bool
  published : Published

namespace Session

/-- A session with an engine that has just been started. -/
def start (engine : Engine) (delay : Nat) (recording : Bool) : Session :=
  { engine, now := 0, delay, waiting := [], inbox := [], listening := true
    published := ⟨false, none, .zero, recording⟩ }

/-- The session of a configuration: its executor starts with the balances of the configuration if it is funded. -/
def ofConfig (c : Config) (first second : Source) (funded recording : Bool) : Except ConfigError Session := do
  let settings ← c.validate
  let executor :=
    if funded then
      (Executor.empty.fund c.market1 c.simBaseBalance c.simQuoteBalance).fund
        c.market2 c.simBaseBalance c.simQuoteBalance
    else .empty
  return start (.start settings first second executor) c.simFillDelayMs.toNat recording

/-- The time as an instant. -/
def instant (s : Session) : Instant := (s.now : Int) * 1000000

/-- When the order of a number is accepted: later orders are accepted later, be it by a nanosecond. -/
def clock (s : Session) (number : Nat) : Instant := s.instant + number

/-- Orders that have been accepted since `before` wait to be filled. -/
def schedule (before : Nat) (s : Session) : Session :=
  let entered := s.engine.executor.active.filter fun a => decide (before ≤ a.number)
  { s with waiting := s.waiting ++ entered.map fun a => (a.number, s.now + s.delay) }

/-- Lets the engine act. -/
def act {ε α : Type} (s : Session) (action : Action ε α) : Outcome ε α × Session :=
  let (result, engine) := action.run s.engine
  (result, schedule s.engine.executor.nextNumber { s with engine })

/-- Notes the events of a computation. -/
def follow {ε α : Type} (s : Session) (x : Traced ε α) : Outcome ε α × Session :=
  (x.outcome, { s with engine := { s.engine with journal := s.engine.journal ++ x.events } })

/-- A quote for a pair on one side of a market. -/
def quote (s : Session) (m : Market) (pair : String) (side : Side) (amount : Decimal) :
    Outcome QuoteError Quote × Session :=
  let source := s.engine.source m
  let quoters : Quoters := fun _ => { source.quoter with quote := source.quote pair }
  s.follow (askQuote quoters m side amount)

/-- Notes an event. -/
def note (s : Session) (e : Event) : Session :=
  { s with engine := { s.engine with journal := s.engine.journal.push e } }

/-- Fills an order. -/
def fill (s : Session) (number : Nat) : Session :=
  match s.engine.fill s.listening number with
  | (none, engine) => { s with engine }
  | (some c, engine) => { s with engine, inbox := c :: s.inbox }

/-- Fills the orders that are due, in the order of submission. -/
def settle (s : Session) : Session :=
  -- all orders wait equally long, so the order of submission is also the order of due times
  let due := s.waiting.filter fun w => decide (w.2 ≤ s.now)
  due.foldl (fun s w => s.fill w.1) { s with waiting := s.waiting.filter fun w => !decide (w.2 ≤ s.now) }

/-- Lets time pass. -/
def advance (s : Session) (milliseconds : Nat) : Session := { s with now := s.now + milliseconds }

/-- The reports since the last reading, by the numbers of their orders. -/
def read (s : Session) : List Completion × Session :=
  (s.inbox.reverse.mergeSort fun a b => decide (a.number ≤ b.number), { s with inbox := [] })

/-- Nobody will read reports any more. -/
def close (s : Session) : Session := { s with listening := false, inbox := [] }

/-- All orders that wait are filled, and the reports that are left are read. The result is what is noted of that. -/
def finish (s : Session) : List Event :=
  let s := s.waiting.foldl (fun s w => s.fill w.1) s
  s.inbox.reverse.map .completionRead ++ [.completionsClosed]

/-- The state of the engine. -/
def report (s : Session) : Outcome QuoteError StatusReport × Session := s.follow (s.engine.report s.instant)

/-- Shows the state of the engine to those who ask. -/
def publish (s : Session) : Outcome QuoteError Unit × Session :=
  match s.report with
  | (.error e, s) => (.error e, s)
  | (.ok r, s) => (.ok (), { s with published := { s.published with report := some r, stats := s.engine.stats } })

/-- How many quotes a market has been asked for. -/
def calls (s : Session) (m : Market) : Nat :=
  s.engine.journal.toList.countP fun e =>
    match e with
    | .quoteAsked market _ => decide (market = m)
    | _ => false

end Session

end TwoVenue
