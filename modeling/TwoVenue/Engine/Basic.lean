import TwoVenue.Engine.BooksLoad
import TwoVenue.Report.Status
import TwoVenue.Search.Selection
import TwoVenue.Trade.Candidates

/-!
# The engine

The engine looks for opportunities in cycles, remembers the last one, and hands orders to its executor.

- `Engine`: settings, the sources of both markets, the executor, the last opportunity, statistics and the journal.
- `Action`: what an engine does. What it has changed before a failure stays changed.
- `Engine.evaluate`: a cycle without orders. `Engine.determine`: a cycle with orders.
- `Engine.report`: the state of the engine.
-/

namespace TwoVenue

/-- How many cycles there were, and how they ended. -/
structure Stats where
  cycles : Nat
  opportunitiesFound : Nat
  opportunitiesExecuted : Nat
  cyclesAborted : Nat
deriving DecidableEq

/-- Before the first cycle. -/
def Stats.zero : Stats := ⟨0, 0, 0, 0⟩

/-- An engine between two actions. -/
structure Engine where
  settings : Settings
  first : Source
  second : Source
  executor : Executor
  /-- The opportunity of the latest cycle that found one. -/
  last : Option Opportunity
  stats : Stats
  /-- All events so far. -/
  journal : Array Event

/-- How a cycle ends. -/
inductive CycleOutcome where
  /-- Neither direction makes a profit. -/
  | noOpportunity
  /-- The profit is too small. -/
  | belowThreshold (opportunity : Opportunity)
  /-- The orders are accepted. -/
  | submitted (opportunity : Opportunity) (candidates : List Order) (orderIds : List String)

/-- What an engine does. -/
abbrev Action (ε α : Type) := ExceptT (Failure ε) (StateM Engine) α

namespace Action

variable {ε ε' α : Type}

/-- Notes an event. -/
def note (e : Event) : Action ε Unit := modify fun s => { s with journal := s.journal.push e }

/-- Changes the statistics. -/
def count (f : Stats → Stats) : Action ε Unit := modify fun s => { s with stats := f s.stats }

/-- Takes over an outcome, its error seen as one of another kind. -/
def ofOutcome (f : ε → ε') : Outcome ε α → Action ε' α
  | .ok a => pure a
  | .error e => throw (e.map f)

/-- Notes all events of a computation and leaves its outcome to the caller. -/
def follow (x : Traced ε α) : Action ε' (Outcome ε α) := do
  modify fun s => { s with journal := s.journal ++ x.events }
  return x.outcome

instance : MonadLift (Except Fault) (ExceptT (Failure ε) (StateM Engine)) :=
  ⟨fun x => ofOutcome id (Outcome.ofArithmetic x)⟩

end Action

namespace Engine

/-- The source of a market. -/
def source (e : Engine) : Market → Source
  | .first => e.first
  | .second => e.second

/-- The engine with another source for a market. -/
def setSource (e : Engine) (m : Market) (s : Source) : Engine :=
  match m with
  | .first => { e with first := s }
  | .second => { e with second := s }

/-- Both markets, as a search sees them. -/
def quoters (e : Engine) : Quoters := fun m => (e.source m).quoter

/-- An engine before its first cycle. -/
def start (settings : Settings) (first second : Source) (executor : Executor) : Engine :=
  { settings, first, second, executor, last := none, stats := .zero, journal := #[] }

/-- The engine of a configuration: both venues are funded, and both sources are books without a snapshot. -/
def build (c : Config) : Except ConfigError Engine := do
  let settings ← c.validate
  let executor := (Executor.empty.fund c.market1 c.simBaseBalance c.simQuoteBalance).fund
    c.market2 c.simBaseBalance c.simQuoteBalance
  return start settings (.book ⟨c.market1, none⟩) (.book ⟨c.market2, none⟩) executor

/-- The engine with new snapshots in both sources. -/
def refreshFrom (e : Engine) (books : Books) : Engine :=
  { e with first := e.first.refresh books, second := e.second.refresh books }

/-- The engine with the snapshots of a file. A file that cannot be read changes nothing. -/
def refresh (e : Engine) (file : FileContents) : Except EngineError Engine := do
  let books ← Books.load file
  return e.refreshFrom books

/-! ## Cycles -/

/-- Ends a cycle that a quote error has stopped. -/
def abort (error : QuoteError) : Action EngineError (Option Opportunity) := do
  Action.note (.cycleAborted error)
  Action.count fun s => { s with cyclesAborted := s.cyclesAborted + 1 }
  throw (.error (.quote error))

/-- Remembers an opportunity. -/
def publish (o : Opportunity) : Action EngineError Unit := do
  Action.count fun s => { s with opportunitiesFound := s.opportunitiesFound + 1 }
  Action.note .opportunityDetected
  modify fun e => { e with last := some o }

/-- Looks for the best opportunity and remembers it, without orders. -/
def evaluate : Action EngineError (Option Opportunity) := do
  Action.count fun s => { s with cycles := s.cycles + 1 }
  Action.note .cycleStarted
  let e ← get
  match ← Action.follow (findOptimal e.settings e.quoters) with
  | .error (.fault f) => throw (.fault f)
  | .error (.error error) => abort error
  | .ok none =>
    Action.note .nothingFound
    return none
  | .ok (some o) =>
    publish o
    return some o

/-- Hands orders to the executor. -/
def submit (clock : Nat → Instant) (orders : List Order) : Action TradingError (List String) := do
  let e ← get
  let (entered, executor) ← Action.ofOutcome id (e.executor.submit clock orders)
  set { e with
    executor := executor
    journal := e.journal ++ entered.map fun (a : ActiveOrder) => Event.orderSubmitted a.number a.order }
  return entered.map (·.id)

/-- Hands the orders of an opportunity to the executor. -/
def execute (clock : Nat → Instant) (o : Opportunity) : Action EngineError CycleOutcome := do
  Action.note (.opportunityTaken o.proposal.amount o.proposal.buySide.venue o.proposal.sellSide.venue o.profit)
  let e ← get
  let candidates ← o.proposal.candidates e.settings
  -- the error of a refused batch is caught here, and has to be noted before the cycle ends with it
  let (result, after) := (submit clock candidates).run.run e
  set after
  match result with
  | .error (.fault f) => throw (.fault f)
  | .error (.error error) =>
    Action.note (.submissionFailed error)
    throw (.error (.trading error))
  | .ok orderIds =>
    Action.count fun s => { s with opportunitiesExecuted := s.opportunitiesExecuted + 1 }
    Action.note .opportunityExecuted
    return .submitted o candidates orderIds

/-- A cycle: the best opportunity is executed if its profit reaches the threshold. -/
def cycle (clock : Nat → Instant) : Action EngineError CycleOutcome := do
  match ← evaluate with
  | none => return .noOpportunity
  | some o =>
    let threshold := (← get).settings.minProfitability
    if o.profit < threshold then
      Action.note (.belowThreshold o.profit threshold)
      return .belowThreshold o
    execute clock o

/-- A cycle, of which the time is measured however it ends. -/
def determine (clock : Nat → Instant) : Action EngineError CycleOutcome := fun e =>
  let (result, e) := (cycle clock).run e
  (result, { e with journal := e.journal.push .cycleTimed })

/-! ## Fills -/

/-- Fills an active order, and reports it if somebody waits for the report. -/
def fill (e : Engine) (listening : Bool) (number : Nat) : Option Completion × Engine :=
  match e.executor.fill number with
  | (none, _) => (none, e)
  | (some (.error _), executor) => (none, { e with executor })
  | (some (.ok completion), executor) =>
    let journal := e.journal.push (.orderFilled number)
    if listening then (some completion, { e with executor, journal })
    else (none, { e with executor, journal := journal.push .completionLost })

/-! ## Reports -/

/-- The prices of a market. A market that cannot be asked has none. -/
def snapshotOf (s : Source) : Traced QuoteError MarketSnapshot := do
  match ← (Traced.ofOutcome (s.topOfBook s.venue.tradingPair)).attempt with
  | .ok top =>
    let mid ← top.midPrice
    return ⟨s.venue, top.bestBid, top.bestAsk, mid⟩
  | .error error =>
    Traced.emit (.marketUnpriced s.venue error)
    return .unpriced s.venue

/-- The prices of both markets. -/
def snapshots (e : Engine) : Traced QuoteError (List MarketSnapshot) := do
  let first ← snapshotOf e.first
  let second ← snapshotOf e.second
  return [first, second]

/-- The state of the engine at a time. -/
def report (now : Instant) (e : Engine) : Traced QuoteError StatusReport := do
  let markets ← e.snapshots
  let lastProposal ← match e.last with
    | none => pure none
    | some o => do
      let text ← (Opportunity.summary o.proposal.amount o.profit : Except Fault String)
      pure (some text)
  return {
    markets
    balances := e.executor.balances.entries
    activeOrders := e.executor.listing.map fun a => (a.id, a.order, a.submittedAt)
    lastProposal
    generatedAt := now }

end Engine

end TwoVenue
