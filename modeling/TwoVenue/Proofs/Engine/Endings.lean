import TwoVenue.Proofs.Engine.Action

/-!
# How cycles end

A cycle can end at its search, at the threshold, at the price of a candidate and at the check of the batch. Whatever
holds of all cycles is proved along these ends.

- `EvaluateEnds`: all ends of a cycle without orders. `evaluate_ends` is its inversion lemma.
- `CycleEnds`: all ends of what a cycle does after its search. `cycle_ends` is its inversion lemma.
-/

namespace TwoVenue

namespace Engine

/-- What a search has noted when it is over. -/
def searchEvents (e : Engine) : List Event := .cycleStarted :: (findOptimal e.settings e.quoters).events

/-- The engine with one event more. -/
def noted (e : Engine) (event : Event) : Engine := { e with journal := e.journal.push event }

/-- The engine after a cycle is stopped by a quote error. -/
def aborted (e : Engine) (error : QuoteError) : Engine :=
  { noted e (.cycleAborted error) with stats := { e.stats with cyclesAborted := e.stats.cyclesAborted + 1 } }

/-- All ways in which a cycle without orders can end: what its search has found, what it answers, what it notes after the
search, and the engine that it leaves. -/
inductive EvaluateEnds (e : Engine) : Outcome QuoteError (Option Opportunity) →
    Outcome EngineError (Option Opportunity) → List Event → Engine → Prop
  | broken (f : Fault) : EvaluateEnds e (.error (.fault f)) (.error (.fault f)) [] e.searched
  | aborted (error : QuoteError) : EvaluateEnds e (.error (.error error)) (.error (.error (.quote error)))
      [.cycleAborted error] (e.searched.aborted error)
  | nothing : EvaluateEnds e (.ok none) (.ok none) [.nothingFound] (e.searched.noted .nothingFound)
  | found (o : Opportunity) : EvaluateEnds e (.ok (some o)) (.ok (some o)) [.opportunityDetected] (e.searched.published o)

/-- **A cycle without orders ends in one of these ways.** -/
theorem evaluate_ends (e : Engine) : ∃ events, EvaluateEnds e (findOptimal e.settings e.quoters).outcome
    (evaluate.run e).1 events (evaluate.run e).2 := by
  rw [evaluate_run]
  cases (findOptimal e.settings e.quoters).outcome with
  | error failure =>
    cases failure with
    | fault f => exact ⟨_, .broken f⟩
    | error error => exact ⟨_, .aborted error⟩
  | ok r =>
    cases r with
    | none => exact ⟨_, .nothing⟩
    | some o => exact ⟨_, .found o⟩

/-- The event of an opportunity that is worth its orders. -/
def takenEvent (o : Opportunity) : Event :=
  .opportunityTaken o.proposal.amount o.proposal.buySide.venue o.proposal.sellSide.venue o.profit

/-- All ways in which a cycle can end once its search has answered: what the cycle answers, what it notes after the
search, and the engine that it leaves. -/
inductive CycleEnds (clock : Nat → Instant) (e : Engine) : Outcome EngineError (Option Opportunity) →
    Outcome EngineError CycleOutcome → List Event → Engine → Prop
  | stopped (failure : Failure EngineError) : CycleEnds clock e (.error failure) (.error failure) [] e
  | nothing : CycleEnds clock e (.ok none) (.ok .noOpportunity) [] e
  | low (o : Opportunity) (hlow : o.profit < e.settings.minProfitability) :
      CycleEnds clock e (.ok (some o)) (.ok (.belowThreshold o))
        [.belowThreshold o.profit e.settings.minProfitability]
        (e.noted (.belowThreshold o.profit e.settings.minProfitability))
  | broken (o : Opportunity) (f : Fault) (hworth : ¬ o.profit < e.settings.minProfitability) :
      CycleEnds clock e (.ok (some o)) (.error (.fault f)) [takenEvent o] (e.taken o)
  | refused (o : Opportunity) {orders : List Order} (error : TradingError)
      (hworth : ¬ o.profit < e.settings.minProfitability) (horders : o.proposal.candidates e.settings = .ok orders)
      (hsubmit : e.executor.submit clock orders = .error (.error error)) :
      CycleEnds clock e (.ok (some o)) (.error (.error (.trading error))) [takenEvent o, .submissionFailed error]
        ((e.taken o).noted (.submissionFailed error))
  | submitted (o : Opportunity) {orders : List Order} {entered : List ActiveOrder} {x : Executor}
      (hworth : ¬ o.profit < e.settings.minProfitability) (horders : o.proposal.candidates e.settings = .ok orders)
      (hsubmit : e.executor.submit clock orders = .ok (entered, x)) :
      CycleEnds clock e (.ok (some o)) (.ok (.submitted o orders (entered.map (·.id))))
        (takenEvent o :: entered.map (fun a => Event.orderSubmitted a.number a.order) ++ [.opportunityExecuted])
        ((e.taken o).executed entered x)

/-- **A cycle ends in one of these ways.** -/
theorem cycle_ends (clock : Nat → Instant) (e : Engine) :
    ∃ events, CycleEnds clock (evaluate.run e).2 (evaluate.run e).1 ((cycle clock).run e).1 events
      ((cycle clock).run e).2 := by
  rw [cycle_run]
  rcases evaluate.run e with ⟨failure | r, e'⟩
  · exact ⟨_, .stopped failure⟩
  cases r with
  | none => exact ⟨_, .nothing⟩
  | some o =>
    dsimp only
    by_cases hlow : o.profit < e'.settings.minProfitability
    · rw [if_pos hlow]
      exact ⟨_, .low o hlow⟩
    · rw [if_neg hlow, execute_run]
      cases horders : o.proposal.candidates e'.settings with
      | error f => exact ⟨_, .broken o f hlow⟩
      | ok orders =>
        dsimp only
        cases hsubmit : e'.executor.submit clock orders with
        | error failure =>
          cases failure with
          | fault f => exact ⟨_, .broken o f hlow⟩
          | error error => exact ⟨_, .refused o error hlow horders hsubmit⟩
        | ok r => exact ⟨_, .submitted o hlow horders hsubmit⟩

end Engine

end TwoVenue
