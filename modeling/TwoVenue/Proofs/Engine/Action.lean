import TwoVenue.Engine.Basic
import TwoVenue.Proofs.Search.Events

/-!
# What actions of the engine do

An action is a function of the engine. These are the equations of all actions: what they answer, and what they leave
behind.

- `Action.bind_run`: actions in sequence.
- `Engine.searched`: the engine after the search of a cycle. `evaluate_run`: a cycle without orders.
- `execute_run`, `cycle_run`: a cycle with orders.
- `Engine.Quiet`, `Engine.Accepts`: **all that an action changes**. Settings and sources stay, and the executor does
  too, unless a batch is accepted.
-/

namespace TwoVenue

namespace Action

variable {ε ε' α β : Type}

theorem bind_run (x : Action ε α) (f : α → Action ε β) (e : Engine) :
    (x >>= f).run e =
      match x.run e with
      | (.ok a, e') => (f a).run e'
      | (.error error, e') => (.error error, e') := by
  show ExceptT.bindCont f (x.run e).1 (x.run e).2 = _
  cases x.run e with
  | mk r e' => cases r <;> rfl

theorem bind_run_of_ok {x : Action ε α} {f : α → Action ε β} {e e' : Engine} {a : α} (h : x.run e = (.ok a, e')) :
    (x >>= f).run e = (f a).run e' := by
  rw [bind_run, h]

theorem get_run (e : Engine) : (get : Action ε Engine).run e = (.ok e, e) := rfl

theorem note_run (event : Event) (e : Engine) :
    (note event : Action ε Unit).run e = (.ok (), { e with journal := e.journal.push event }) := rfl

theorem count_run (f : Stats → Stats) (e : Engine) :
    (count f : Action ε Unit).run e = (.ok (), { e with stats := f e.stats }) := rfl

theorem follow_run (x : Traced ε α) (e : Engine) :
    (follow x : Action ε' (Outcome ε α)).run e = (.ok x.outcome, { e with journal := e.journal ++ x.events }) := rfl

end Action

namespace Engine

open TwoVenue.Action

/-- The engine after the search of a cycle. -/
def searched (e : Engine) : Engine :=
  { e with
    stats := { e.stats with cycles := e.stats.cycles + 1 }
    journal := e.journal.push .cycleStarted ++ (findOptimal e.settings e.quoters).events }

/-- The engine after it has remembered an opportunity. -/
def published (e : Engine) (o : Opportunity) : Engine :=
  { e with
    stats := { e.stats with opportunitiesFound := e.stats.opportunitiesFound + 1 }
    journal := e.journal.push .opportunityDetected
    last := some o }

/-- A cycle without orders. -/
theorem evaluate_run (e : Engine) :
    evaluate.run e =
      match (findOptimal e.settings e.quoters).outcome with
      | .error (.fault f) => (.error (.fault f), e.searched)
      | .error (.error error) => (abort error).run e.searched
      | .ok none => (.ok none, { e.searched with journal := e.searched.journal.push .nothingFound })
      | .ok (some o) => (.ok (some o), e.searched.published o) := by
  unfold evaluate
  rw [bind_run_of_ok (count_run _ e), bind_run_of_ok (note_run _ _), bind_run_of_ok (get_run _)]
  refine (bind_run_of_ok (follow_run (findOptimal e.settings e.quoters) _)).trans ?_
  cases (findOptimal e.settings e.quoters).outcome with
  | error failure =>
    cases failure with
    | fault f => rfl
    | error error => rfl
  | ok r =>
    cases r with
    | none => rfl
    | some o => rfl

/-- The engine after a batch is accepted. -/
def accepted (e : Engine) (entered : List ActiveOrder) (executor : Executor) : Engine :=
  { e with
    executor
    journal := e.journal ++ entered.map fun (a : ActiveOrder) => Event.orderSubmitted a.number a.order }

theorem accepted_journal (e : Engine) (entered : List ActiveOrder) (executor : Executor) :
    (e.accepted entered executor).journal.toList =
      e.journal.toList ++ entered.map fun a => Event.orderSubmitted a.number a.order := by
  simp [accepted]

/-- A batch is accepted, or nothing changes. -/
theorem submit_run (clock : Nat → Instant) (orders : List Order) (e : Engine) :
    (submit clock orders).run e =
      match e.executor.submit clock orders with
      | .ok (entered, executor) => (.ok (entered.map (·.id)), e.accepted entered executor)
      | .error failure => (.error failure, e) := by
  unfold submit
  rw [bind_run_of_ok (get_run e)]
  cases h : e.executor.submit clock orders with
  | error failure =>
    cases failure with
    | fault f => rfl
    | error error => rfl
  | ok r => rfl

/-- The engine that is about to send the orders of an opportunity. -/
def taken (e : Engine) (o : Opportunity) : Engine :=
  { e with journal :=
      e.journal.push (.opportunityTaken o.proposal.amount o.proposal.buySide.venue o.proposal.sellSide.venue o.profit) }

/-- The engine after the orders of an opportunity are accepted. -/
def executed (e : Engine) (entered : List ActiveOrder) (executor : Executor) : Engine :=
  { e.accepted entered executor with
    stats := { e.stats with opportunitiesExecuted := e.stats.opportunitiesExecuted + 1 }
    journal := (e.accepted entered executor).journal.push .opportunityExecuted }

/-- The orders of an opportunity are accepted, or the cycle ends with a failure. -/
theorem execute_run (clock : Nat → Instant) (o : Opportunity) (e : Engine) :
    (execute clock o).run e =
      match o.proposal.candidates e.settings with
      | .error f => (.error (.fault f), e.taken o)
      | .ok candidates =>
        match e.executor.submit clock candidates with
        | .error (.fault f) => (.error (.fault f), e.taken o)
        | .error (.error error) =>
          (.error (.error (.trading error)),
            { e.taken o with journal := (e.taken o).journal.push (.submissionFailed error) })
        | .ok (entered, executor) =>
          (.ok (.submitted o candidates (entered.map (·.id))), (e.taken o).executed entered executor) := by
  unfold execute
  rw [bind_run_of_ok (note_run _ e), bind_run_of_ok (get_run _)]
  cases o.proposal.candidates e.settings with
  | error f => rfl
  | ok candidates =>
    refine (bind_run_of_ok (?_ : _ = (Except.ok candidates, e.taken o))).trans ?_
    · rfl
    have hrun : StateT.run (ExceptT.run (submit clock candidates)) (e.taken o) = _ :=
      submit_run clock candidates (e.taken o)
    have hexecutor : (e.taken o).executor = e.executor := rfl
    rw [hexecutor] at hrun
    unfold taken at hrun
    rw [hrun]
    dsimp only
    cases e.executor.submit clock candidates with
    | error failure =>
      cases failure with
      | fault f => rfl
      | error error => rfl
    | ok r => rfl

/-- A cycle searches, compares and executes. -/
theorem cycle_run (clock : Nat → Instant) (e : Engine) :
    (cycle clock).run e =
      match evaluate.run e with
      | (.error failure, e') => (.error failure, e')
      | (.ok none, e') => (.ok .noOpportunity, e')
      | (.ok (some o), e') =>
        if o.profit < e'.settings.minProfitability then
          (.ok (.belowThreshold o),
            { e' with journal := e'.journal.push (.belowThreshold o.profit e'.settings.minProfitability) })
        else (execute clock o).run e' := by
  unfold cycle
  rw [bind_run]
  rcases evaluate.run e with ⟨failure | o, e'⟩
  · rfl
  · cases o with
    | none => rfl
    | some o =>
      dsimp only
      rw [bind_run_of_ok (get_run e')]
      by_cases h : o.profit < e'.settings.minProfitability
      · rw [if_pos h, if_pos h]
        rfl
      · rw [if_neg h, if_neg h]

theorem determine_run (clock : Nat → Instant) (e : Engine) :
    (determine clock).run e =
      (((cycle clock).run e).1,
        { ((cycle clock).run e).2 with journal := ((cycle clock).run e).2.journal.push .cycleTimed }) := rfl

/-! ## What actions change -/

/-- Whether a journal has the acceptance of an order of this number. -/
def Issued (journal : Array Event) (number : Nat) : Prop := ∃ order, Event.orderSubmitted number order ∈ journal

section Issued

variable {journal : Array Event} {number : Nat}

theorem issued_push {event : Event} (h : ∀ number order, event ≠ .orderSubmitted number order) :
    Issued (journal.push event) number ↔ Issued journal number := by
  unfold Issued
  refine exists_congr fun order => ?_
  rw [Array.mem_push]
  exact or_iff_left (Ne.symm (h number order))

theorem issued_append {events : List Event} :
    Issued (journal ++ events) number ↔
      Issued journal number ∨ ∃ order, Event.orderSubmitted number order ∈ events := by
  unfold Issued
  rw [← exists_or]
  refine exists_congr fun order => ?_
  rw [← Array.mem_toList_iff, Array.toList_appendList, List.mem_append, Array.mem_toList_iff]

/-- A search issues no number. -/
theorem issued_append_search {s : Settings} {q : Quoters} :
    Issued (journal ++ (findOptimal s q).events) number ↔ Issued journal number := by
  rw [issued_append]
  refine or_iff_left ?_
  rintro ⟨order, horder⟩
  exact findOptimal_ofSearch s q _ horder

end Issued

variable {e e' e'' : Engine} {clock : Nat → Instant} {orders : List Order} {entered : List ActiveOrder}

/-- What all actions leave as it is, and the executor as well. -/
structure Quiet (e e' : Engine) : Prop where
  settings : e'.settings = e.settings
  source : ∀ m, e'.source m = e.source m
  executor : e'.executor = e.executor
  issued : ∀ number, Issued e'.journal number ↔ Issued e.journal number

/-- What changes when a batch is accepted. -/
structure Accepts (e : Engine) (clock : Nat → Instant) (orders : List Order) (entered : List ActiveOrder)
    (e' : Engine) : Prop where
  settings : e'.settings = e.settings
  source : ∀ m, e'.source m = e.source m
  submit : e.executor.submit clock orders = .ok (entered, e'.executor)
  issued : ∀ number, Issued e'.journal number ↔ Issued e.journal number ∨ ∃ a ∈ entered, a.number = number

theorem Quiet.refl (e : Engine) : Quiet e e := ⟨rfl, fun _ => rfl, rfl, fun _ => Iff.rfl⟩

theorem Quiet.trans (h : Quiet e e') (h' : Quiet e' e'') : Quiet e e'' where
  settings := h'.settings.trans h.settings
  source m := (h'.source m).trans (h.source m)
  executor := h'.executor.trans h.executor
  issued number := (h'.issued number).trans (h.issued number)

theorem Quiet.accepts (h : Quiet e e') (h' : Accepts e' clock orders entered e'') : Accepts e clock orders entered e'' where
  settings := h'.settings.trans h.settings
  source m := (h'.source m).trans (h.source m)
  submit := by
    rw [← h.executor]
    exact h'.submit
  issued number := by rw [h'.issued, h.issued]

theorem Accepts.quiet (h : Accepts e clock orders entered e') (h' : Quiet e' e'') : Accepts e clock orders entered e'' where
  settings := h'.settings.trans h.settings
  source m := (h'.source m).trans (h.source m)
  submit := by
    rw [h'.executor]
    exact h.submit
  issued number := by rw [h'.issued, h.issued]

/-- Notes, statistics and the last opportunity are all that is changed quietly. -/
theorem quiet_note {event : Event} (h : ∀ number order, event ≠ .orderSubmitted number order) (e : Engine)
    (stats : Stats) (last : Option Opportunity) :
    Quiet e { e with journal := e.journal.push event, stats := stats, last := last } where
  settings := rfl
  source m := by cases m <;> rfl
  executor := rfl
  issued _ := issued_push h

theorem quiet_searched (e : Engine) : Quiet e e.searched where
  settings := rfl
  source m := by cases m <;> rfl
  executor := rfl
  issued number := by
    unfold searched
    dsimp only
    rw [issued_append_search, issued_push (by rintro _ _ ⟨⟩)]

theorem evaluate_quiet (e : Engine) : Quiet e (evaluate.run e).2 := by
  rw [evaluate_run]
  refine (quiet_searched e).trans ?_
  cases (findOptimal e.settings e.quoters).outcome with
  | error failure =>
    cases failure with
    | fault f => exact .refl _
    | error error => exact quiet_note (by rintro _ _ ⟨⟩) _ _ _
  | ok r =>
    cases r with
    | none => exact quiet_note (by rintro _ _ ⟨⟩) _ _ _
    | some o => exact quiet_note (by rintro _ _ ⟨⟩) _ _ _

theorem accepts_accepted {executor : Executor} (h : e.executor.submit clock orders = .ok (entered, executor)) :
    Accepts e clock orders entered (e.accepted entered executor) where
  settings := rfl
  source m := by cases m <;> rfl
  submit := h
  issued number := by
    unfold accepted
    dsimp only
    rw [issued_append]
    refine or_congr Iff.rfl ?_
    constructor
    · rintro ⟨order, horder⟩
      obtain ⟨a, ha, hevent⟩ := List.mem_map.1 horder
      cases hevent
      exact ⟨a, ha, rfl⟩
    · rintro ⟨a, ha, rfl⟩
      exact ⟨a.order, List.mem_map_of_mem ha⟩

theorem submit_acts (clock : Nat → Instant) (orders : List Order) (e : Engine) :
    Quiet e ((submit clock orders).run e).2 ∨
      ∃ entered, Accepts e clock orders entered ((submit clock orders).run e).2 := by
  rw [submit_run]
  cases h : e.executor.submit clock orders with
  | error failure => exact Or.inl (.refl e)
  | ok r => exact Or.inr ⟨r.1, accepts_accepted h⟩

theorem execute_acts (clock : Nat → Instant) (o : Opportunity) (e : Engine) :
    Quiet e ((execute clock o).run e).2 ∨
      ∃ orders entered, Accepts e clock orders entered ((execute clock o).run e).2 := by
  have htaken : Quiet e (e.taken o) := quiet_note (by rintro _ _ ⟨⟩) _ _ _
  rw [execute_run]
  cases o.proposal.candidates e.settings with
  | error f => exact Or.inl htaken
  | ok candidates =>
    dsimp only
    cases h : e.executor.submit clock candidates with
    | error failure =>
      cases failure with
      | fault f => exact Or.inl htaken
      | error error => exact Or.inl (htaken.trans (quiet_note (by rintro _ _ ⟨⟩) _ _ _))
    | ok r =>
      refine Or.inr ⟨candidates, r.1, ?_⟩
      exact (htaken.accepts (accepts_accepted h)).quiet (quiet_note (by rintro _ _ ⟨⟩) _ _ _)

theorem determine_acts (clock : Nat → Instant) (e : Engine) :
    Quiet e ((determine clock).run e).2 ∨
      ∃ orders entered, Accepts e clock orders entered ((determine clock).run e).2 := by
  have htimed : ∀ e : Engine, Quiet e { e with journal := e.journal.push .cycleTimed } :=
    fun e => quiet_note (by rintro _ _ ⟨⟩) _ _ _
  have hevaluate := evaluate_quiet e
  rw [determine_run, cycle_run]
  rcases hrun : evaluate.run e with ⟨failure | r, e'⟩
  · rw [hrun] at hevaluate
    exact Or.inl (hevaluate.trans (htimed e'))
  · rw [hrun] at hevaluate
    cases r with
    | none => exact Or.inl (hevaluate.trans (htimed e'))
    | some o =>
      dsimp only
      split
      · exact Or.inl ((hevaluate.trans (quiet_note (by rintro _ _ ⟨⟩) _ _ _)).trans (htimed _))
      · rcases execute_acts clock o e' with hquiet | ⟨orders, entered, haccepts⟩
        · exact Or.inl ((hevaluate.trans hquiet).trans (htimed _))
        · exact Or.inr ⟨orders, entered, (hevaluate.accepts haccepts).quiet (htimed _)⟩

/-! ## A submitted cycle -/

/-- What has happened in a cycle that ends with accepted orders. -/
theorem determine_eq_submitted {o : Opportunity} {candidates : List Order} {ids : List String}
    (h : (determine clock).run e = (.ok (.submitted o candidates ids), e')) :
    (findOptimal e.settings e.quoters).outcome = .ok (some o) ∧ e.settings.minProfitability ≤ o.profit ∧
      o.proposal.candidates e.settings = .ok candidates ∧
      ∃ entered, e.executor.submit clock candidates = .ok (entered, e'.executor) ∧ ids = entered.map (·.id) ∧
        e'.last = some o := by
  rw [determine_run, cycle_run, evaluate_run] at h
  cases hfound : (findOptimal e.settings e.quoters).outcome with
  | error failure =>
    rw [hfound] at h
    cases failure with
    | fault f => cases h
    | error error => cases h
  | ok r =>
    rw [hfound] at h
    cases r with
    | none => cases h
    | some found =>
      dsimp only at h
      have hsettings : (e.searched.published found).settings = e.settings := rfl
      have hexecutor : (e.searched.published found).executor = e.executor := rfl
      rw [hsettings] at h
      split at h
      · cases h
      next hworth =>
      rw [execute_run, hsettings, hexecutor] at h
      cases hcandidates : found.proposal.candidates e.settings with
      | error f =>
        rw [hcandidates] at h
        cases h
      | ok orders =>
        rw [hcandidates] at h
        dsimp only at h
        cases hsubmit : e.executor.submit clock orders with
        | error failure =>
          rw [hsubmit] at h
          cases failure with
          | fault f => cases h
          | error error => cases h
        | ok r =>
          rw [hsubmit] at h
          cases h
          exact ⟨rfl, Decimal.not_lt.1 hworth, hcandidates, r.1, hsubmit, rfl, rfl⟩

end Engine

end TwoVenue
