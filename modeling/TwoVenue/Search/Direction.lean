import TwoVenue.Journal.Traced
import TwoVenue.Market.Source
import TwoVenue.Search.Sweep
import TwoVenue.Settings.Basic

/-!
# Searching a direction

A direction buys on one market and sells on the other.

- `propose`: the proposal for an amount: both quotes, then the checks of both legs.
- `bestOf`: the best opportunity among amounts. Amounts that make no proposal are skipped, and of equal profits the
  first one stays. A venue that cannot be reached ends the search.
- `bestForDirection`: the best one of the sweep, if it makes a profit.
-/

namespace TwoVenue

/-- The two venues of a search. -/
abbrev Quoters := Market → Quoter

/-- A quote for an amount on one side of a market. -/
def askQuote (quoters : Quoters) (market : Market) (side : Side) (amount : Decimal) : Traced QuoteError Quote := do
  Traced.emit (.quoteAsked market side)
  let quote ← Traced.ofOutcome ((quoters market).quote side amount)
  if (quoters market).announces then
    Traced.emit (.quoteGiven side quote.price)
  return quote

/-- The legs of two quotes as a proposal. -/
def pairQuotes (buyVenue sellVenue : Venue) (amount : Decimal) (buyQuote sellQuote : Quote) :
    Except QuoteError Proposal := do
  let first ← Leg.ofQuote buyVenue .buy amount buyQuote
  let second ← Leg.ofQuote sellVenue .sell amount sellQuote
  match Proposal.pair? first second with
  | some p => return p
  | none => throw (.invalidQuote buyVenue.connector (.pairedWithItself buyVenue))

/-- The proposal to buy an amount on one market and to sell it on another. -/
def propose (quoters : Quoters) (buy sell : Market) (amount : Decimal) : Traced QuoteError Proposal := do
  let buyQuote ← askQuote quoters buy .buy amount
  let sellQuote ← askQuote quoters sell .sell amount
  Traced.emit (.sampleQuoted amount buyQuote.price sellQuote.price)
  Traced.ofOutcome (Outcome.ofCheck
    (pairQuotes (quoters buy).venue (quoters sell).venue amount buyQuote sellQuote))

/-- The better of the best opportunity so far and a later one, which has to be better to win. -/
def keepBetter (best : Option Opportunity) (later : Opportunity) : Opportunity :=
  match best with
  | none => later
  | some best => if best.profit < later.profit then later else best

/-- The best opportunity among some amounts and an earlier one. -/
def bestOf (quoters : Quoters) (buy sell : Market) (best : Option Opportunity) :
    List Decimal → Traced QuoteError (Option Opportunity)
  | [] => pure best
  | amount :: rest => do
    match ← (propose quoters buy sell amount).attempt with
    | .error e =>
      -- another amount may do better, unless the venue is out of reach
      if e.isSampleLocal then
        Traced.emit (.sampleSkipped amount e)
        bestOf quoters buy sell best rest
      else
        Traced.emit (.sweepAborted amount e)
        Traced.refuse e
    | .ok p =>
      let profit ← p.profit true
      bestOf quoters buy sell (some (keepBetter best ⟨p, profit⟩)) rest

/-- The best opportunity of a direction, if it makes a profit. -/
def bestForDirection (s : Settings) (quoters : Quoters) (buy sell : Market) :
    Traced QuoteError (Option Opportunity) := do
  let amounts ← sweepAmounts s.minOrderAmount s.maxOrderAmount s.sweepSteps.toNat
  match ← bestOf quoters buy sell none amounts with
  | none => return none
  | some best =>
    if 0 < best.profit then
      Traced.emit (.bestSize best.proposal.amount best.profit)
      return some best
    return none

end TwoVenue
