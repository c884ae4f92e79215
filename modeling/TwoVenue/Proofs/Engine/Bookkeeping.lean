import TwoVenue.Proofs.Engine.Restraint

/-!
# The books of an engine

The statistics, the counters and the last opportunity are written at different places of a cycle, and a cycle can break
off between them. Over a whole run they still say what the calls have answered.

- `Call`: a call of an engine, with its `Answer` and the opportunity that its search has chosen, the `winner?`.
- `Engine.Logs`: events that the statistics follow. `Call.Advances`: what one call adds to the books. `Call.advances`:
  **the step of a call**.
- `Answer.Fits`: a call has an opportunity, or it is stopped by a quote error, or it is vain. `Call.fits`: that is what
  its answer shows.
- `Turn`, `Engine.calls`: a run. Between its calls anything happens to the sources and to the executor.
- `Kept`: the invariant of a run. `Kept.run` is the run lemma.
- `Accounted`: what the books say about the calls of a run. `accounted_run`: **they do so after every run**.
-/

namespace TwoVenue

open Engine

/-! ## Calls -/

/-- A call of an engine, with the engine as the call finds it. -/
inductive Call where
  | evaluate (engine : Engine)
  | determine (clock : Nat → Instant) (engine : Engine)

/-- What a call answers. -/
inductive Answer where
  | evaluated (result : Outcome EngineError (Option Opportunity))
  | determined (result : Outcome EngineError CycleOutcome)

namespace Answer

/-- The failure of a call. -/
def failure? : Answer → Option (Failure EngineError)
  | .evaluated (.error failure) => some failure
  | .determined (.error failure) => some failure
  | _ => none

/-- The opportunity that a call returns. -/
def opportunity? : Answer → Option Opportunity
  | .evaluated (.ok r) => r
  | .determined (.ok (.belowThreshold o)) => some o
  | .determined (.ok (.submitted o _ _)) => some o
  | _ => none

/-- Whether a call returns that there is no opportunity. -/
def isNothing : Answer → Bool
  | .evaluated (.ok none) => true
  | .determined (.ok .noOpportunity) => true
  | _ => false

/-- Whether a call returns accepted orders. -/
def isSubmitted : Answer → Bool
  | .determined (.ok (.submitted ..)) => true
  | _ => false

/-- Whether a call was ended by arithmetic without a result. -/
def isFault (a : Answer) : Bool :=
  match a.failure? with
  | some (.fault _) => true
  | _ => false

/-- Whether a call returns the error of a quote. -/
def isQuoteError (a : Answer) : Bool :=
  match a.failure? with
  | some (.error (.quote _)) => true
  | _ => false

/-- Whether a call returns the error of refused orders. -/
def isTradingError (a : Answer) : Bool :=
  match a.failure? with
  | some (.error (.trading _)) => true
  | _ => false

/-- The venue that a call returns to be out of reach. -/
def unavailable? (a : Answer) : Option String :=
  match a.failure? with
  | some (.error (.quote (.unavailable venue _))) => some venue
  | _ => none

end Answer

namespace Call

/-- The engine as the call finds it. -/
def engine : Call → Engine
  | .evaluate e => e
  | .determine _ e => e

/-- What the call answers. -/
def answer : Call → Answer
  | .evaluate e => .evaluated (Engine.evaluate.run e).1
  | .determine clock e => .determined ((Engine.determine clock).run e).1

/-- The engine as the call leaves it. -/
def after : Call → Engine
  | .evaluate e => (Engine.evaluate.run e).2
  | .determine clock e => ((Engine.determine clock).run e).2

/-- Whether the call may send orders. -/
def isDetermine : Call → Bool
  | .evaluate _ => false
  | .determine .. => true

/-- How the search of the call ends. -/
def search (c : Call) : Outcome QuoteError (Option Opportunity) :=
  (findOptimal c.engine.settings c.engine.quoters).outcome

/-- The opportunity that the search of the call has chosen. -/
def winner? (c : Call) : Option Opportunity := c.search.toOption.join

end Call

/-! ## What a call adds -/

/-- The counters of cycles. Amounts that a search skips and orders have counters of their own. -/
def Metric.OfCycles : Metric → Prop
  | .samplesSkipped | .ordersSubmitted | .ordersFilled => False
  | _ => True

/-- Whether a call counts, once, with a counter of cycles. -/
def Call.counts (c : Call) : Metric → Bool
  | .cycleLatency => c.isDetermine
  | .cycles => true
  | .cyclesAborted => c.answer.isQuoteError
  | .opportunitiesDetected => c.winner?.isSome
  | .opportunitiesExecuted => c.answer.isSubmitted
  | .ordersFailed => c.answer.isTradingError
  | .samplesSkipped | .quoteFailures | .ordersSubmitted | .ordersFilled => false

/-- Statistics with what some events say. -/
def Stats.plus (s : Stats) (events : List Event) : Stats where
  cycles := s.cycles + Metric.total .cycles events
  opportunitiesFound := s.opportunitiesFound + Metric.total .opportunitiesDetected events
  opportunitiesExecuted := s.opportunitiesExecuted + Metric.total .opportunitiesExecuted events
  cyclesAborted := s.cyclesAborted + Metric.total .cyclesAborted events

theorem Stats.plus_plus (s : Stats) (events events' : List Event) :
    (s.plus events).plus events' = s.plus (events ++ events') := by
  simp [Stats.plus, Nat.add_assoc]

namespace Engine

variable {e e' e'' : Engine} {events events' : List Event} {clock : Nat → Instant}

/-- Whether an engine has gone on to a later one with these events, each of them entered into the statistics. -/
structure Logs (e : Engine) (events : List Event) (e' : Engine) : Prop where
  journal : e'.journal.toList = e.journal.toList ++ events
  stats : e'.stats = e.stats.plus events

theorem Logs.trans (h : Logs e events e') (h' : Logs e' events' e'') : Logs e (events ++ events') e'' where
  journal := by rw [h'.journal, h.journal, List.append_assoc]
  stats := by rw [h'.stats, h.stats, Stats.plus_plus]

theorem total_searchEvents {m : Metric} (hm : m ≠ .samplesSkipped) (e : Engine) :
    m.total (searchEvents e) = if m = .cycles then 1 else 0 := by
  simp [searchEvents, Metric.total_search _ _ hm, Metric.counts, eq_comm]

theorem failures_searchEvents (venue : String) (e : Engine) : Metric.failures venue (searchEvents e) = 0 := by
  simp [searchEvents, Metric.failures_search, Metric.failedVenue?]

theorem logs_searched (e : Engine) : Logs e (searchEvents e) e.searched := by
  refine ⟨by simp [searched, searchEvents], ?_⟩
  simp [searched, Stats.plus, total_searchEvents]

/-- An event that the statistics have nothing to do with. -/
theorem logs_noted {event : Event} (e : Engine) (h : ∀ s : Stats, s.plus [event] = s) : Logs e [event] (noted e event) :=
  ⟨Array.toList_push .., (h e.stats).symm⟩

theorem logs_aborted (e : Engine) (error : QuoteError) : Logs e [.cycleAborted error] (aborted e error) :=
  ⟨Array.toList_push .., rfl⟩

theorem logs_published (e : Engine) (o : Opportunity) : Logs e [.opportunityDetected] (e.published o) :=
  ⟨Array.toList_push .., rfl⟩

/-! ### What every end adds -/

theorem EvaluateEnds.logs {e e' : Engine} {search r} {events : List Event} (h : EvaluateEnds e search r events e') :
    Logs e (searchEvents e ++ events) e' := by
  have hsearched := logs_searched e
  cases h with
  | broken f => rwa [List.append_nil]
  | aborted error => exact hsearched.trans (logs_aborted _ error)
  | nothing => exact hsearched.trans (logs_noted _ fun _ => rfl)
  | found o => exact hsearched.trans (logs_published _ o)

theorem EvaluateEnds.last {e e' : Engine} {search r} {events : List Event} (h : EvaluateEnds e search r events e') :
    e'.last = search.toOption.join.or e.last := by
  cases h <;> rfl

theorem CycleEnds.logs {e e' : Engine} {r a} {events : List Event} (h : CycleEnds clock e r a events e') :
    Logs e events e' := by
  have htaken : ∀ o, Logs e [takenEvent o] (e.taken o) := fun o => logs_noted e fun _ => rfl
  cases h with
  | stopped failure => exact ⟨(List.append_nil _).symm, rfl⟩
  | nothing => exact ⟨(List.append_nil _).symm, rfl⟩
  | low o hlow => exact logs_noted e fun _ => rfl
  | broken o f hworth => exact htaken o
  | refused o error hworth horders hsubmit => exact (htaken o).trans (logs_noted _ fun _ => rfl)
  | @submitted o orders entered x hworth horders hsubmit =>
    have hexecuted : Logs (e.taken o) (entered.map (fun a => Event.orderSubmitted a.number a.order) ++
        [.opportunityExecuted]) ((e.taken o).executed entered x) := by
      refine ⟨?_, ?_⟩
      · simp [executed, accepted_journal]
      · simp [executed, Stats.plus, Metric.total_orderSubmitted, Metric.counts]
    exact (htaken o).trans hexecuted

theorem CycleEnds.last {e e' : Engine} {r a} {events : List Event} (h : CycleEnds clock e r a events e') :
    e'.last = e.last := by
  cases h <;> rfl

end Engine

namespace Call

variable {e : Engine} {clock : Nat → Instant}

/-- What a call adds to the books: events, each of them entered into the statistics, and its opportunity. -/
structure Advances (c : Call) (events : List Event) : Prop where
  logs : Logs c.engine events c.after
  last : c.after.last = c.winner?.or c.engine.last
  total : ∀ m : Metric, m.OfCycles → m.total events = if c.counts m then 1 else 0
  failures : ∀ venue, Metric.failures venue events = if c.answer.unavailable? = some venue then 1 else 0

theorem determine_answer (clock : Nat → Instant) (e : Engine) :
    (Call.determine clock e).answer = .determined ((cycle clock).run e).1 := rfl

/-- How a call counts that answers `r` after its search. -/
theorem evaluate_counts {search r} {events : List Event} {e' : Engine} (h : EvaluateEnds e search r events e')
    (hsearch : (Call.evaluate e).search = search) (hr : (Call.evaluate e).answer = .evaluated r) {m : Metric}
    (hm : m.OfCycles) :
    (if (Call.evaluate e).counts m then 1 else 0) = (if m = .cycles then 1 else 0) + m.total events := by
  have hwinner : (Call.evaluate e).winner? = search.toOption.join := by rw [← hsearch]; rfl
  cases h <;> cases m <;> simp only [counts, hr, hwinner] <;> rfl

/-- Only a call that is stopped by a venue out of reach counts that venue. -/
theorem evaluate_failures {search r} {events : List Event} {e' : Engine} (h : EvaluateEnds e search r events e')
    (venue : String) :
    Metric.failures venue events = if (Answer.evaluated r).unavailable? = some venue then 1 else 0 := by
  cases h with
  | aborted error => cases error <;> simp [Metric.failedVenue?, Answer.unavailable?, Answer.failure?]
  | _ => rfl

/-- **What a cycle without orders adds.** -/
theorem evaluate_advances (e : Engine) : ∃ events, (Call.evaluate e).Advances events := by
  obtain ⟨events, hends⟩ := evaluate_ends e
  refine ⟨searchEvents e ++ events, hends.logs, hends.last, fun m hm => ?_, fun venue => ?_⟩
  · have hsamples : m ≠ .samplesSkipped := by
      rintro rfl
      exact hm
    rw [Metric.total_append, total_searchEvents hsamples, evaluate_counts hends rfl rfl hm]
  · rw [Metric.failures_append, failures_searchEvents, Nat.zero_add, evaluate_failures hends]
    rfl

/-- A cycle with orders counts what its search counts, what it does with the opportunity, and its time. -/
theorem determine_counts {r a} {events : List Event} {found e' : Engine} (h : CycleEnds clock found r a events e')
    (hr : (Call.evaluate e).answer = .evaluated r) (ha : (Call.determine clock e).answer = .determined a) {m : Metric}
    (hm : m.OfCycles) :
    (if (Call.determine clock e).counts m then 1 else 0)
      = (if (Call.evaluate e).counts m then 1 else 0) + m.total (events ++ [.cycleTimed]) := by
  have hwinner : (Call.determine clock e).winner? = (Call.evaluate e).winner? := rfl
  cases h with
  | @submitted o orders entered x hworth horders hsubmit =>
    rw [Metric.total_append, Metric.total_append, Metric.total_cons, Metric.total_orderSubmitted]
    cases m with
    | ordersSubmitted => cases hm
    | _ =>
      simp only [counts, hr, ha, hwinner]
      rfl
  | _ => cases m <;> simp only [counts, hr, ha, hwinner] <;> rfl

/-- A cycle with orders is stopped by a venue out of reach exactly if its search is. -/
theorem determine_failures {r a} {events : List Event} {found e' : Engine} (h : CycleEnds clock found r a events e')
    (venue : String) :
    (if (Answer.determined a).unavailable? = some venue then 1 else 0)
      = (if (Answer.evaluated r).unavailable? = some venue then 1 else 0) + Metric.failures venue events := by
  cases h with
  | @submitted o orders entered x hworth horders hsubmit =>
    rw [Metric.failures_append, Metric.failures_cons, Metric.failures_orderSubmitted]
    rfl
  | _ => rfl

/-- **What a cycle with orders adds.** -/
theorem determine_advances (clock : Nat → Instant) (e : Engine) : ∃ events, (Call.determine clock e).Advances events := by
  obtain ⟨searched, hsearched⟩ := evaluate_advances e
  obtain ⟨events, hends⟩ := cycle_ends clock e
  have htimed : Logs ((cycle clock).run e).2 [.cycleTimed] (Call.determine clock e).after := logs_noted _ fun _ => rfl
  refine ⟨searched ++ (events ++ [.cycleTimed]), hsearched.logs.trans (hends.logs.trans htimed), ?_, fun m hm => ?_,
    fun venue => ?_⟩
  · exact hends.last.trans hsearched.last
  · rw [Metric.total_append, hsearched.total m hm, determine_counts hends rfl rfl hm]
  · rw [Metric.failures_append, Metric.failures_append, hsearched.failures, determine_answer, determine_failures hends]
    rfl

/-- **What a call adds.** -/
theorem advances (c : Call) : ∃ events, c.Advances events := by
  cases c with
  | evaluate e => exact evaluate_advances e
  | determine clock e => exact determine_advances clock e

end Call

/-! ### Three kinds of calls -/

/-- Whether a call returns that there is no opportunity, or was ended by arithmetic before it had one. -/
def Answer.isVain (winner? : Option Opportunity) (a : Answer) : Bool := a.isNothing || (a.isFault && winner?.isNone)

/-- What an answer says about the search before it. -/
structure Answer.Fits (winner? : Option Opportunity) (a : Answer) : Prop where
  /-- A call has an opportunity, or it is stopped by a quote error, or it is vain. -/
  one : (if winner?.isSome then 1 else 0) + (if a.isQuoteError then 1 else 0) + (if a.isVain winner? then 1 else 0) = 1
  submitted : a.isSubmitted = true → winner?.isSome = true
  /-- What a call returns is what its search has chosen. -/
  shown : ∀ o, a.opportunity? = some o → winner? = some o

theorem Engine.EvaluateEnds.fits {e e' : Engine} {search r} {events : List Event}
    (h : EvaluateEnds e search r events e') : (Answer.evaluated r).Fits search.toOption.join := by
  cases h with
  | found o => exact ⟨rfl, fun _ => rfl, fun _ ho => ho⟩
  | _ => exact ⟨rfl, (fun h => nomatch h), fun _ ho => nomatch ho⟩

/-- What a cycle does with an opportunity does not hide where it comes from. -/
theorem Engine.CycleEnds.fits {clock : Nat → Instant} {e e' : Engine} {r a winner?} {events : List Event}
    (h : CycleEnds clock e r a events e') (hr : (Answer.evaluated r).Fits winner?) : (Answer.determined a).Fits winner? := by
  cases h with
  | stopped failure => exact ⟨hr.one, (fun h => nomatch h), fun _ ho => nomatch ho⟩
  | nothing => exact ⟨hr.one, (fun h => nomatch h), fun _ ho => nomatch ho⟩
  | low o hlow =>
    rw [hr.shown o rfl]
    exact ⟨rfl, (fun h => nomatch h), fun _ ho => ho⟩
  | broken o f hworth =>
    rw [hr.shown o rfl]
    exact ⟨rfl, (fun h => nomatch h), fun _ ho => nomatch ho⟩
  | refused o error hworth horders hsubmit =>
    rw [hr.shown o rfl]
    exact ⟨rfl, (fun h => nomatch h), fun _ ho => nomatch ho⟩
  | @submitted o orders entered x hworth horders hsubmit =>
    rw [hr.shown o rfl]
    exact ⟨rfl, fun _ => rfl, fun _ ho => ho⟩

/-- **The answer of a call fits its search.** -/
theorem Call.fits (c : Call) : c.answer.Fits c.winner? := by
  have hevaluate : ∀ e, (Call.evaluate e).answer.Fits (Call.evaluate e).winner? := by
    intro e
    obtain ⟨events, hends⟩ := evaluate_ends e
    exact hends.fits
  cases c with
  | evaluate e => exact hevaluate e
  | determine clock e =>
    obtain ⟨events, hends⟩ := cycle_ends clock e
    exact hends.fits (hevaluate e)

/-- So every call is counted once. -/
theorem countP_calls (calls : List Call) :
    calls.countP (·.winner?.isSome) + calls.countP (·.answer.isQuoteError)
      + calls.countP (fun c => c.answer.isVain c.winner?) = calls.length := by
  induction calls with
  | nil => rfl
  | cons c rest ih =>
    have hone := c.fits.one
    simp only [List.countP_cons, List.length_cons]
    omega

theorem countP_submitted_le (calls : List Call) :
    calls.countP (·.answer.isSubmitted) ≤ calls.countP (·.winner?.isSome) :=
  List.countP_mono_left fun c _ => c.fits.submitted

/-! ## Runs -/

/-- Something that happens in a run of an engine: a call, or a change of what the engine works with. -/
inductive Turn where
  | evaluate
  | determine (clock : Nat → Instant)
  /-- A market gets another source; so snapshots come, change and go. -/
  | setSource (m : Market) (s : Source)
  | submit (clock : Nat → Instant) (orders : List Order)
  | fill (listening : Bool) (number : Nat)
  | fund (venue : Venue) (base quote : Decimal)

namespace Engine

/-- What holds from an engine to a later one if there was no cycle in between. -/
structure Idles (e e' : Engine) : Prop where
  logs : ∃ events, Logs e events e' ∧ ∀ event ∈ events, event.OfOrders
  last : e'.last = e.last

theorem Idles.refl {e e' : Engine} (hjournal : e'.journal = e.journal) (hstats : e'.stats = e.stats)
    (hlast : e'.last = e.last) : Idles e e' :=
  ⟨⟨[], ⟨by rw [hjournal, List.append_nil], hstats⟩, fun _ hevent => absurd hevent List.not_mem_nil⟩, hlast⟩

theorem submit_idles (clock : Nat → Instant) (orders : List Order) (e : Engine) :
    Idles e ((Engine.submit clock orders).run e).2 := by
  rw [submit_run]
  cases e.executor.submit clock orders with
  | error failure => exact .refl rfl rfl rfl
  | ok entered =>
    refine ⟨⟨entered.1.map fun a => Event.orderSubmitted a.number a.order, ⟨accepted_journal .., ?_⟩,
      fun event hevent => ?_⟩, rfl⟩
    · simp [accepted, Stats.plus, Metric.total_orderSubmitted]
    · obtain ⟨a, -, rfl⟩ := List.mem_map.1 hevent
      trivial

theorem fill_idles (e : Engine) (listening : Bool) (number : Nat) : Idles e (e.fill listening number).2 := by
  unfold Engine.fill
  split
  · exact .refl rfl rfl rfl
  · exact .refl rfl rfl rfl
  · cases listening with
    | true => exact ⟨⟨[.orderFilled number], ⟨Array.toList_push .., rfl⟩, by simp [Event.OfOrders]⟩, rfl⟩
    | false =>
      exact ⟨⟨[.orderFilled number, .completionLost], ⟨by simp, rfl⟩, by simp [Event.OfOrders]⟩, rfl⟩

end Engine

namespace Turn

/-- The call of a turn, if it is one. -/
def call? (e : Engine) : Turn → Option Call
  | .evaluate => some (.evaluate e)
  | .determine clock => some (.determine clock e)
  | _ => none

/-- The engine after a turn. -/
def after (e : Engine) : Turn → Engine
  | .evaluate => (Engine.evaluate.run e).2
  | .determine clock => ((Engine.determine clock).run e).2
  | .setSource m s => e.setSource m s
  | .submit clock orders => ((Engine.submit clock orders).run e).2
  | .fill listening number => (e.fill listening number).2
  | .fund venue base quote => { e with executor := e.executor.fund venue base quote }

/-- **A turn that is no call leaves the books of cycles alone.** -/
theorem idles {e : Engine} {turn : Turn} (h : turn.call? e = none) : Idles e (turn.after e) := by
  cases turn with
  | evaluate => cases h
  | determine clock => cases h
  | setSource m s => cases m <;> exact .refl rfl rfl rfl
  | submit clock orders => exact submit_idles clock orders e
  | fill listening number => exact fill_idles e listening number
  | fund venue base quote => exact .refl rfl rfl rfl

theorem after_of_call {e : Engine} {turn : Turn} {c : Call} (h : turn.call? e = some c) :
    c.engine = e ∧ turn.after e = c.after := by
  cases turn <;> cases h <;> exact ⟨rfl, rfl⟩

/-- Only the opportunity of a call takes the place of the last one. -/
theorem last_after (e : Engine) (turn : Turn) :
    (turn.after e).last = ((turn.call? e).bind Call.winner?).or e.last := by
  cases hcall : turn.call? e with
  | none => exact (idles hcall).last
  | some c =>
    obtain ⟨hengine, hafter⟩ := after_of_call hcall
    obtain ⟨events, hadvances⟩ := c.advances
    rw [hafter, hadvances.last, hengine]
    rfl

end Turn

namespace Engine

/-- The engine after a run. -/
def afterAll (e : Engine) (turns : List Turn) : Engine := turns.foldl Turn.after e

/-- The calls of a run. -/
def calls (e : Engine) : List Turn → List Call
  | [] => []
  | turn :: rest => (turn.call? e).toList ++ calls (turn.after e) rest

theorem afterAll_concat (e : Engine) (turns : List Turn) (turn : Turn) :
    e.afterAll (turns ++ [turn]) = turn.after (e.afterAll turns) := by
  unfold afterAll
  rw [List.foldl_append]
  rfl

theorem calls_concat (e : Engine) (turns : List Turn) (turn : Turn) :
    e.calls (turns ++ [turn]) = e.calls turns ++ (turn.call? (e.afterAll turns)).toList := by
  induction turns generalizing e with
  | nil => simp [calls, afterAll]
  | cons first rest ih =>
    show (first.call? e).toList ++ (first.after e).calls (rest ++ [turn]) = _
    rw [ih, ← List.append_assoc]
    rfl

end Engine

/-! ## The books of a run -/

/-- What is kept along a run: the statistics are what the journal says, and both are what the calls say. -/
structure Kept (calls : List Call) (e : Engine) : Prop where
  stats : e.stats = Stats.zero.plus e.journal.toList
  total : ∀ m : Metric, m.OfCycles → m.total e.journal.toList = calls.countP (·.counts m)
  failures : ∀ venue, Metric.failures venue e.journal.toList =
    calls.countP fun c => decide (c.answer.unavailable? = some venue)
  last : e.last = (calls.filterMap Call.winner?).getLast?

namespace Kept

variable {calls : List Call} {e e' : Engine}

theorem start (settings : Settings) (first second : Source) (executor : Executor) :
    Kept [] (Engine.start settings first second executor) :=
  ⟨rfl, fun _ _ => rfl, fun _ => rfl, rfl⟩

/-- Statistics and journal go on together. -/
theorem stats_of_logs (h : Kept calls e) {events : List Event} (hlogs : Logs e events e') :
    e'.stats = Stats.zero.plus e'.journal.toList := by
  rw [hlogs.stats, h.stats, Stats.plus_plus, hlogs.journal]

/-- **The step of a call.** -/
theorem call {c : Call} (h : Kept calls c.engine) : Kept (calls ++ [c]) c.after := by
  obtain ⟨events, hadvances⟩ := c.advances
  refine ⟨h.stats_of_logs hadvances.logs, fun m hm => ?_, fun venue => ?_, ?_⟩
  · rw [hadvances.logs.journal, Metric.total_append, h.total m hm, hadvances.total m hm, List.countP_append,
      List.countP_singleton]
  · rw [hadvances.logs.journal, Metric.failures_append, h.failures, hadvances.failures, List.countP_append,
      List.countP_singleton]
    simp
  · rw [hadvances.last, h.last, List.filterMap_append, List.getLast?_append]
    cases hwinner : c.winner? with
    | none => simp [hwinner]
    | some o => simp [hwinner]

/-- The step of anything else. -/
theorem idles (h : Kept calls e) (hidles : Idles e e') : Kept calls e' := by
  obtain ⟨events, hlogs, horders⟩ := hidles.logs
  refine ⟨h.stats_of_logs hlogs, fun m hm => ?_, fun venue => ?_, hidles.last.trans h.last⟩
  · have hnone : m.total events = 0 := by
      refine Metric.total_eq_zero fun event hevent hcounts => ?_
      have horder := horders event hevent
      cases event <;> first | exact horder | (cases hcounts <;> exact hm)
    rw [hlogs.journal, Metric.total_append, hnone, h.total m hm, Nat.add_zero]
  · have hnone : Metric.failures venue events = 0 := by
      refine Metric.failures_eq_zero venue fun event hevent => ?_
      have horder := horders event hevent
      cases event <;> first | exact False.elim horder | rfl
    rw [hlogs.journal, Metric.failures_append, hnone, h.failures, Nat.add_zero]

/-- **The run.** -/
theorem run {e : Engine} (h : Kept [] e) (turns : List Turn) : Kept (e.calls turns) (e.afterAll turns) := by
  induction turns using List.reverseRecOn with
  | nil => exact h
  | append_singleton turns turn ih =>
    rw [afterAll_concat, calls_concat]
    cases hcall : turn.call? (e.afterAll turns) with
    | none =>
      rw [Option.toList_none, List.append_nil]
      exact ih.idles (Turn.idles hcall)
    | some c =>
      obtain ⟨hengine, hafter⟩ := Turn.after_of_call hcall
      rw [hafter]
      exact (hengine ▸ ih).call

end Kept

/-- What the books of an engine say about the calls that it has had. -/
structure Accounted (calls : List Call) (e : Engine) : Prop where
  cycles : e.stats.cycles = calls.length
  found : e.stats.opportunitiesFound = calls.countP (·.winner?.isSome)
  executed : e.stats.opportunitiesExecuted = calls.countP (·.answer.isSubmitted)
  aborted : e.stats.cyclesAborted = calls.countP (·.answer.isQuoteError)
  executed_le : e.stats.opportunitiesExecuted ≤ e.stats.opportunitiesFound
  ended_le : e.stats.opportunitiesFound + e.stats.cyclesAborted ≤ e.stats.cycles
  vain : e.stats.cycles - e.stats.opportunitiesFound - e.stats.cyclesAborted =
    calls.countP fun c => c.answer.isVain c.winner?
  /-- What a call has returned is what its search had chosen. -/
  shown : ∀ c ∈ calls, ∀ o, c.answer.opportunity? = some o → c.winner? = some o
  /-- The last opportunity is the one of the latest call that had one. -/
  last : e.last = (calls.filterMap Call.winner?).getLast?
  last_eq_none : e.last = none ↔ e.stats.opportunitiesFound = 0
  /-- No turn that follows clears the last opportunity, -/
  never_cleared : ∀ turn : Turn, e.last ≠ none → (turn.after e).last ≠ none
  /-- and only a call that has an opportunity alters it. -/
  altered : ∀ turn : Turn, (turn.call? e).bind Call.winner? = none → (turn.after e).last = e.last
  cyclesTotal : Metric.total .cycles e.journal.toList = e.stats.cycles
  foundTotal : Metric.total .opportunitiesDetected e.journal.toList = e.stats.opportunitiesFound
  executedTotal : Metric.total .opportunitiesExecuted e.journal.toList = e.stats.opportunitiesExecuted
  abortedTotal : Metric.total .cyclesAborted e.journal.toList = e.stats.cyclesAborted
  failedTotal : Metric.total .ordersFailed e.journal.toList = calls.countP (·.answer.isTradingError)
  timedTotal : Metric.total .cycleLatency e.journal.toList = calls.countP (·.isDetermine)
  failures : ∀ venue, Metric.failures venue e.journal.toList =
    calls.countP fun c => decide (c.answer.unavailable? = some venue)

/-- What is kept accounts for the calls. -/
theorem Kept.accounted {calls : List Call} {e : Engine} (h : Kept calls e) : Accounted calls e := by
  have hsize := countP_calls calls
  have hle := countP_submitted_le calls
  have hcycles : Metric.total .cycles e.journal.toList = calls.length := by
    rw [h.total .cycles trivial]
    exact List.countP_eq_length.2 fun _ _ => rfl
  have hfound : Metric.total .opportunitiesDetected e.journal.toList = calls.countP (·.winner?.isSome) :=
    h.total .opportunitiesDetected trivial
  have hexecuted : Metric.total .opportunitiesExecuted e.journal.toList = calls.countP (·.answer.isSubmitted) :=
    h.total .opportunitiesExecuted trivial
  have haborted : Metric.total .cyclesAborted e.journal.toList = calls.countP (·.answer.isQuoteError) :=
    h.total .cyclesAborted trivial
  have hstats : e.stats = ⟨Metric.total .cycles e.journal.toList, Metric.total .opportunitiesDetected e.journal.toList,
      Metric.total .opportunitiesExecuted e.journal.toList, Metric.total .cyclesAborted e.journal.toList⟩ := by
    rw [h.stats]
    simp [Stats.plus, Stats.zero]
  have hlast : e.last = none ↔ calls.countP (·.winner?.isSome) = 0 := by
    rw [h.last, List.getLast?_eq_none_iff, List.filterMap_eq_nil_iff, List.countP_eq_zero]
    simp
  constructor
  case cycles => rw [hstats, hcycles]
  case found => rw [hstats, hfound]
  case executed => rw [hstats, hexecuted]
  case aborted => rw [hstats, haborted]
  case executed_le => rwa [hstats, hexecuted, hfound]
  case ended_le =>
    rw [hstats, hcycles, hfound, haborted]
    dsimp only
    omega
  case vain =>
    rw [hstats, hcycles, hfound, haborted]
    dsimp only
    omega
  case shown => exact fun c _ => c.fits.shown
  case last => exact h.last
  case last_eq_none => rw [hlast, hstats, hfound]
  case never_cleared =>
    intro turn hlast hnone
    rw [turn.last_after, Option.or_eq_none_iff] at hnone
    exact hlast hnone.2
  case altered =>
    intro turn hturn
    rw [turn.last_after, hturn, Option.none_or]
  case cyclesTotal => rw [hstats]
  case foundTotal => rw [hstats]
  case executedTotal => rw [hstats]
  case abortedTotal => rw [hstats]
  case failedTotal => exact h.total .ordersFailed trivial
  case timedTotal => exact h.total .cycleLatency trivial
  case failures => exact h.failures

/-- **The books of an engine account for its calls**, after every run of an engine that has just been started: whatever
its calls have answered, arithmetic that has failed included, and whatever has happened between them. -/
theorem accounted_run (settings : Settings) (first second : Source) (executor : Executor) (turns : List Turn) :
    Accounted ((start settings first second executor).calls turns)
      ((start settings first second executor).afterAll turns) :=
  ((Kept.start settings first second executor).run turns).accounted

/-- An opportunity is only looked at, the next one is executed, and then a venue is lost. -/
example :
    (crossingEngine.afterAll [.evaluate, .determine fun _ => 0, .setSource .first (.book ⟨threeAmounts.market1, none⟩),
      .evaluate]).stats = ⟨3, 2, 1, 1⟩ := by
  decide +kernel

end TwoVenue
