import TwoVenue.Engine.Session
import TwoVenue.Proofs.Engine.Endings
import TwoVenue.Proofs.Engine.Submission
import TwoVenue.Proofs.Report.Totals

/-!
# Nothing is traded unless a cycle says so

A cycle can end at every amount of its search, at the threshold, at the price of a candidate and at the check of every
order, and arithmetic can fail at each of these places. Only the acceptance of a whole batch changes anything that
belongs to orders.

- `Event.OfOrders`: the events of orders. `Engine.Untraded`: no such event, and the same executor.
- `CycleEnds.untraded`, `determine_untraded`: **a cycle that does not end with accepted orders has traded nothing**.
- `Session.Untraded`: the same for a session, with the orders that wait and the reports that nobody has read.
- `Session.Enters`: what an accepted batch adds. `Session.act_submit`: **a batch is accepted as a whole or changes
  nothing**.
- `Session.nothing_traded`: all that together.
-/

namespace TwoVenue

/-- The events of orders: their acceptance, their fills and the reports of these. -/
def Event.OfOrders : Event → Prop
  | .orderSubmitted .. | .orderFilled _ | .completionLost | .completionRead _ | .completionsClosed => True
  | _ => False

/-- A search has nothing to do with orders. -/
theorem Event.OfSearch.not_ofOrders {event : Event} (h : event.OfSearch) : ¬ event.OfOrders := by
  intro horders
  cases event <;> first | exact False.elim h | exact False.elim horders

namespace Engine

open TwoVenue.Action

variable {e e' e'' : Engine} {clock : Nat → Instant}

/-! ## Engines -/

/-- What holds from an engine to a later one if nothing was traded in between. -/
structure Untraded (e e' : Engine) : Prop where
  executor : e'.executor = e.executor
  journal : ∃ events, e'.journal.toList = e.journal.toList ++ events ∧ ∀ event ∈ events, ¬ event.OfOrders

theorem Untraded.refl (e : Engine) : Untraded e e :=
  ⟨rfl, [], (List.append_nil _).symm, fun _ hevent => absurd hevent List.not_mem_nil⟩

theorem Untraded.trans (h : Untraded e e') (h' : Untraded e' e'') : Untraded e e'' := by
  obtain ⟨events, hevents, hall⟩ := h.journal
  obtain ⟨events', hevents', hall'⟩ := h'.journal
  refine ⟨h'.executor.trans h.executor, events ++ events', ?_, ?_⟩
  · rw [hevents', hevents, List.append_assoc]
  · intro event hevent
    rcases List.mem_append.1 hevent with hevent | hevent
    · exact hall event hevent
    · exact hall' event hevent

/-- Notes, statistics and the last opportunity have nothing to do with orders. -/
theorem untraded_note {event : Event} (h : ¬ event.OfOrders) (e : Engine) (stats : Stats) (last : Option Opportunity) :
    Untraded e { e with journal := e.journal.push event, stats := stats, last := last } := by
  refine ⟨rfl, [event], Array.toList_push .., ?_⟩
  intro event' hevent'
  rw [List.mem_singleton.1 hevent']
  exact h

theorem untraded_searched (e : Engine) : Untraded e e.searched := by
  refine ⟨rfl, .cycleStarted :: (findOptimal e.settings e.quoters).events, ?_, ?_⟩
  · show (e.journal.push .cycleStarted ++ (findOptimal e.settings e.quoters).events).toList = _
    simp
  · intro event hevent
    rcases List.mem_cons.1 hevent with rfl | hevent
    · exact not_false
    · exact (findOptimal_ofSearch _ _ event hevent).not_ofOrders

/-- Counters of orders stay. -/
theorem Untraded.total (h : Untraded e e') {m : Metric} (hm : m = .ordersSubmitted ∨ m = .ordersFilled) :
    m.total e'.journal.toList = m.total e.journal.toList := by
  obtain ⟨events, hevents, hall⟩ := h.journal
  have hnone : m.total events = 0 := by
    refine Metric.total_eq_zero fun event hevent hcounts => hall event hevent ?_
    cases event <;> first | exact trivial | (rcases hm with rfl | rfl <;> cases hcounts)
  rw [hevents, Metric.total_append, hnone, Nat.add_zero]

theorem EvaluateEnds.untraded {search r} {events : List Event} (h : EvaluateEnds e search r events e') :
    Untraded e e' := by
  have hsearched := untraded_searched e
  cases h with
  | broken f => exact hsearched
  | aborted error => exact hsearched.trans (untraded_note (by rintro ⟨⟩) _ _ _)
  | nothing => exact hsearched.trans (untraded_note (by rintro ⟨⟩) _ _ _)
  | found o => exact hsearched.trans (untraded_note (by rintro ⟨⟩) _ _ _)

/-- **Orders that are not accepted leave no trace**, wherever their way to the executor ends. -/
theorem CycleEnds.untraded {r a} {events : List Event} (h : CycleEnds clock e r a events e')
    (ha : ∀ o candidates ids, a ≠ .ok (.submitted o candidates ids)) : Untraded e e' := by
  have htaken : ∀ o, Untraded e (e.taken o) := fun o => untraded_note (by rintro ⟨⟩) _ _ _
  cases h with
  | stopped failure => exact .refl e
  | nothing => exact .refl e
  | low o hlow => exact untraded_note (by rintro ⟨⟩) _ _ _
  | broken o f hworth => exact htaken o
  | refused o error hworth horders hsubmit => exact (htaken o).trans (untraded_note (by rintro ⟨⟩) _ _ _)
  | submitted o hworth horders hsubmit => exact absurd rfl (ha o _ _)

/-- **A cycle without orders has traded nothing.** -/
theorem evaluate_untraded (e : Engine) : Untraded e (evaluate.run e).2 := by
  obtain ⟨events, hends⟩ := evaluate_ends e
  exact hends.untraded

/-- **A cycle that does not end with accepted orders has traded nothing.** -/
theorem determine_untraded
    (h : ∀ o candidates ids, ((determine clock).run e).1 ≠ .ok (.submitted o candidates ids)) :
    Untraded e ((determine clock).run e).2 := by
  obtain ⟨events, hends⟩ := cycle_ends clock e
  rw [determine_run] at h ⊢
  exact ((evaluate_untraded e).trans (hends.untraded h)).trans (untraded_note (by rintro ⟨⟩) _ _ _)

end Engine

/-! ## Sessions -/

namespace Session

open TwoVenue.Engine

variable {c : Config} {s : Session}

/-- What holds from a session to a later one if nothing was traded in between. -/
structure Untraded (s s' : Session) : Prop where
  active : s'.engine.executor.active = s.engine.executor.active
  balances : s'.engine.executor.balances = s.engine.executor.balances
  nextNumber : s'.engine.executor.nextNumber = s.engine.executor.nextNumber
  /-- No fill is due that was not due before. -/
  waiting : s'.waiting = s.waiting
  inbox : s'.inbox = s.inbox
  submitted : Metric.total .ordersSubmitted s'.engine.journal.toList = Metric.total .ordersSubmitted s.engine.journal.toList
  filled : Metric.total .ordersFilled s'.engine.journal.toList = Metric.total .ordersFilled s.engine.journal.toList

/-- While no number is given out, no order starts to wait. -/
theorem schedule_of_executor_eq (hs : s.engine.executor.Orderly) {e' : Engine} (h : e'.executor = s.engine.executor) :
    schedule s.engine.executor.nextNumber { s with engine := e' } = { s with engine := e' } := by
  unfold schedule
  have hnone : (e'.executor.active.filter fun a => decide (s.engine.executor.nextNumber ≤ a.number)) = [] := by
    refine List.filter_eq_nil_iff.2 fun a ha => ?_
    rw [h] at ha
    have hnumber := hs.numbered a ha
    simpa using hnumber
  rw [hnone]
  simp

/-- What is not traded in an engine is not traded in its session. -/
theorem untraded_act {ε α : Type} {action : Action ε α} (hs : s.engine.executor.Orderly)
    (h : Engine.Untraded s.engine (action.run s.engine).2) : Untraded s (s.act action).2 := by
  have hact : (s.act action).2 = { s with engine := (action.run s.engine).2 } := schedule_of_executor_eq hs h.executor
  rw [hact]
  exact
    { active := congrArg Executor.active h.executor
      balances := congrArg Executor.balances h.executor
      nextNumber := congrArg Executor.nextNumber h.executor
      waiting := rfl
      inbox := rfl
      submitted := h.total (Or.inl rfl)
      filled := h.total (Or.inr rfl) }

/-- What an accepted batch adds to a session. -/
structure Enters (s : Session) (orders : List Order) (ids : List String) (s' : Session) : Prop where
  /-- One name for each order, in order. -/
  ids_eq : ids = (List.range' s.engine.executor.nextNumber orders.length).map orderId
  ids_nodup : ids.Nodup
  /-- No order that was ever accepted has one of the names. -/
  fresh : ∀ number, Issued s.engine.journal number → orderId number ∉ ids
  active : ∃ added, s'.engine.executor.active = s.engine.executor.active ++ added ∧ added.map (·.order) = orders ∧
    added.map (·.id) = ids
  balances : s'.engine.executor.balances = s.engine.executor.balances
  nextNumber : s'.engine.executor.nextNumber = s.engine.executor.nextNumber + orders.length
  inbox : s'.inbox = s.inbox
  submitted : Metric.total .ordersSubmitted s'.engine.journal.toList =
    Metric.total .ordersSubmitted s.engine.journal.toList + orders.length

/-- **A batch of any length is accepted as a whole or changes nothing.** -/
theorem act_submit (hs : Wired c s.engine) (clock : Nat → Instant) (orders : List Order) :
    (∃ ids s', s.act (submit clock orders) = (.ok ids, s') ∧ Enters s orders ids s') ∨
      ∃ failure, s.act (submit clock orders) = (.error failure, s) := by
  unfold act
  rw [submit_run]
  cases hsubmit : s.engine.executor.submit clock orders with
  | error failure =>
    refine Or.inr ⟨failure, ?_⟩
    dsimp only
    rw [schedule_of_executor_eq hs.orderly rfl]
  | ok r =>
    obtain ⟨entered, x'⟩ := r
    obtain ⟨-, hentered, rfl⟩ := Executor.submit_eq_ok.1 hsubmit
    have hids : entered.map (·.id) = (List.range' s.engine.executor.nextNumber orders.length).map orderId := by
      rw [hentered, Executor.enter_ids]
    refine Or.inl ⟨entered.map (·.id), _, rfl, ?_⟩
    refine ⟨hids, ?_, fun number hissued hmem => ?_, ⟨entered, rfl, ?_, rfl⟩, rfl, rfl, rfl, ?_⟩
    · rw [hids]
      exact (List.nodup_range').map fun m n heq => orderId_injective heq
    · -- names are given out in the order of numbers, so a name of before has a smaller number
      rw [hids] at hmem
      obtain ⟨number', hnumber', heq⟩ := List.mem_map.1 hmem
      have hlt := hs.issued number hissued
      rw [orderId_injective heq] at hnumber'
      have hge := (List.mem_range'_1.1 hnumber').1
      omega
    · rw [hentered, Executor.enter_orders]
    · show Metric.total .ordersSubmitted (s.engine.accepted entered _).journal.toList = _
      rw [accepted_journal, Metric.total_append, Metric.total_orderSubmitted, if_pos rfl, hentered,
        Executor.enter_length]

/-- **Nothing is traded unless the cycle says so.** In every session of an engine that comes from a configuration, a
cycle without orders trades nothing, and neither does a cycle that ends in any other way than with accepted orders; a
batch is accepted as a whole or changes nothing. -/
theorem nothing_traded (c : Config) (s : Session) (hs : Reachable c s.engine) (clock : Nat → Instant) :
    Untraded s (s.act evaluate).2 ∧
      ((∀ o candidates ids, (s.act (determine clock)).1 ≠ .ok (.submitted o candidates ids)) →
        Untraded s (s.act (determine clock)).2) ∧
      ∀ orders, (∃ ids s', s.act (submit clock orders) = (.ok ids, s') ∧ Enters s orders ids s') ∨
        ∃ failure, s.act (submit clock orders) = (.error failure, s) := by
  have hwired := hs.wired
  refine ⟨?_, fun hresult => ?_, act_submit hwired clock⟩
  · exact untraded_act hwired.orderly (evaluate_untraded s.engine)
  · exact untraded_act hwired.orderly (determine_untraded hresult)

/-- The error with which a cycle has refused its orders. -/
def refusal? : Outcome EngineError CycleOutcome → Option TradingError
  | .error (.error (.trading error)) => some error
  | _ => none

/-- A session with the books of `crossingEngine` in which the second venue has nothing to sell. -/
def nothingToSell : Session :=
  start { crossingEngine with executor := crossingEngine.executor.fund threeAmounts.market2 0 1000000 } 0 true

/-- In `nothingToSell` the purchase of a cycle can be paid for and the sale cannot, so neither of them is made. -/
theorem nothing_traded_nothingToSell :
    refusal? (nothingToSell.act (determine fun _ => 0)).1 = some (.insufficientFunds "kraken" "BTC" 1 0) ∧
      Untraded nothingToSell (nothingToSell.act (determine fun _ => 0)).2 := by
  have hrefusal : refusal? (nothingToSell.act (determine fun _ => 0)).1
      = some (.insufficientFunds "kraken" "BTC" 1 0) := by decide +kernel
  have hreachable : Reachable threeAmountsConfig nothingToSell.engine :=
    crossingEngine_reachable.step (.fund _ threeAmounts.market2 0 1000000)
  refine ⟨hrefusal, (nothing_traded threeAmountsConfig nothingToSell hreachable fun _ => 0).2.1 ?_⟩
  intro o candidates ids hresult
  rw [hresult] at hrefusal
  cases hrefusal

end Session

end TwoVenue
