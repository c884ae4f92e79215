import TwoVenue.Proofs.Engine.Action
import TwoVenue.Proofs.Report.Totals
import TwoVenue.Proofs.Search.Optimum
import TwoVenue.Proofs.Trade.Booking

/-!
# The life of an order

An order is accepted and gets a name, is active for a while, and is completed once. Batches are accepted and refused,
and orders completed, in any order; what is known of the orders is spread over the executor, the journal, the answers
and the reports.

- `Desk`: an engine whose executor is used, with the answers and the reports that have come of that.
- `Desk.Tracked`: the invariant. **Active and completed orders together are the accepted ones, each of them once**;
  reports, balances and counters follow the completed ones. `Tracked.submit` and `Tracked.complete` are the step lemmas,
  `Tracked.run` is the run lemma.
- `Desk.LifeCycle`: what that says about names. `lifeCycle_run`: **every order goes through this life**.
-/

namespace TwoVenue

open Executor

/-- An engine whose executor is used, and what has come of that. -/
structure Desk where
  engine : Engine
  /-- The orders of the accepted batches, in the order of acceptance. -/
  accepted : List Order
  /-- The names with which their acceptance was answered. -/
  ids : List String
  /-- The reports of completed orders, in the order of completion. -/
  reports : List Completion

/-- The number of the order that an event completes. -/
def Event.filled? : Event → Option Nat
  | .orderFilled number => some number
  | _ => none

namespace Desk

/-- A desk with an engine that has just been started and an executor that holds balances. -/
def start (settings : Settings) (first second : Source) (balances : Balances) : Desk :=
  ⟨.start settings first second { Executor.empty with balances }, [], [], []⟩

/-- The desk after a step. -/
def step (d : Desk) : Step → Desk
  | .submit clock orders =>
    match (Engine.submit clock orders).run d.engine with
    | (.ok ids, engine) => { d with engine, accepted := d.accepted ++ orders, ids := d.ids ++ ids }
    | (.error _, engine) => { d with engine }
  | .complete number =>
    let (report, engine) := d.engine.fill true number
    { d with engine, reports := d.reports ++ report.toList }

/-- The desk after a history. -/
def run (d : Desk) (history : List Step) : Desk := history.foldl step d

theorem run_concat (d : Desk) (past : List Step) (s : Step) : d.run (past ++ [s]) = (d.run past).step s := by
  unfold run
  rw [List.foldl_append]
  rfl

/-- The numbers of the completed orders, in the order of completion. -/
def completed (d : Desk) : List Nat := d.engine.journal.toList.filterMap Event.filled?

/-- The names of the active orders. -/
def activeIds (d : Desk) : List String := d.engine.executor.active.map (·.id)

/-- The names of the completed orders. -/
def completedIds (d : Desk) : List String := d.completed.map orderId

end Desk

/-! ## Numbered orders -/

/-- An active order and its number. -/
def ActiveOrder.entry (a : ActiveOrder) : Order × Nat := (a.order, a.number)

/-- Accepted orders are numbered in order. -/
theorem Executor.enter_entries (clock : Nat → Instant) (orders : List Order) :
    ∀ number, (enter clock number orders).map ActiveOrder.entry = orders.zipIdx number := by
  induction orders with
  | nil => exact fun _ => rfl
  | cons o rest ih =>
    intro number
    unfold enter
    rw [List.map_cons, ih, List.zipIdx_cons]
    rfl

/-- The acceptance of orders completes none. -/
theorem filterMap_filled_orderSubmitted (entered : List ActiveOrder) :
    (entered.map fun a => Event.orderSubmitted a.number a.order).filterMap Event.filled? = [] := by
  rw [List.filterMap_eq_nil_iff]
  intro event hevent
  obtain ⟨a, -, rfl⟩ := List.mem_map.1 hevent
  rfl

/-- The counter of filled orders counts the completed ones. -/
theorem Metric.total_ordersFilled (events : List Event) :
    Metric.total .ordersFilled events = (events.filterMap Event.filled?).length := by
  rw [List.length_filterMap_eq_countP]
  unfold total
  congr 1
  funext event
  cases event <;> rfl

namespace Desk

/-! ## What is kept -/

/-- What is kept while orders come and go; `done` are the completed ones, in the order of completion. -/
structure Tracked (b₀ : Balances) (done : List (Order × Nat)) (d : Desk) : Prop where
  next : d.engine.executor.nextNumber = 1 + d.accepted.length
  ids : d.ids = (List.range' 1 d.accepted.length).map orderId
  /-- Every accepted order is among the active or among the completed ones, once. -/
  orders : (d.engine.executor.active.map ActiveOrder.entry ++ done).Perm (d.accepted.zipIdx 1)
  completed : d.completed = done.map (·.2)
  reports : d.reports = done.map fun p => .ofOrder p.2 p.1
  /-- The balances have been changed once for each completed order. -/
  booked : b₀.bookAll (done.map (·.1)) = .ok d.engine.executor.balances
  submitted : Metric.total .ordersSubmitted d.engine.journal.toList = d.accepted.length

namespace Tracked

variable {b₀ : Balances} {done : List (Order × Nat)} {d : Desk}

theorem start (settings : Settings) (first second : Source) (b₀ : Balances) :
    Tracked b₀ [] (Desk.start settings first second b₀) :=
  ⟨rfl, rfl, .refl _, rfl, rfl, rfl, rfl⟩

/-- The numbers of active and completed orders are all different. -/
theorem numbers (h : Tracked b₀ done d) :
    (d.engine.executor.active.map (·.number) ++ done.map (·.2)).Perm (List.range' 1 d.accepted.length) := by
  have hperm := h.orders.map Prod.snd
  rw [List.map_append, List.map_map, List.zipIdx_map_snd] at hperm
  exact hperm

/-- **The step of a batch.** A refused batch changes nothing, an accepted one gets the next names. -/
theorem submit (h : Tracked b₀ done d) (clock : Nat → Instant) (orders : List Order) :
    Tracked b₀ done (d.step (.submit clock orders)) := by
  unfold Desk.step
  dsimp only
  rw [Engine.submit_run]
  cases hsubmit : d.engine.executor.submit clock orders with
  | error failure => exact ⟨h.next, h.ids, h.orders, h.completed, h.reports, h.booked, h.submitted⟩
  | ok r =>
    obtain ⟨entered, x⟩ := r
    obtain ⟨-, hentered, rfl⟩ := submit_eq_ok.1 hsubmit
    have hlength : entered.length = orders.length := by rw [hentered, enter_length]
    have hnames : entered.map (·.id) = (List.range' (1 + d.accepted.length) orders.length).map orderId := by
      rw [hentered, enter_ids, h.next]
    have hentries : entered.map ActiveOrder.entry = orders.zipIdx (1 + d.accepted.length) := by
      rw [hentered, enter_entries, h.next]
    refine ⟨?_, ?_, ?_, ?_, h.reports, h.booked, ?_⟩
    · show d.engine.executor.nextNumber + orders.length = 1 + (d.accepted ++ orders).length
      rw [h.next, List.length_append, Nat.add_assoc]
    · show d.ids ++ entered.map (·.id) = _
      rw [h.ids, hnames, ← List.map_append, List.range'_append_1, List.length_append]
    · show ((d.engine.executor.active ++ entered).map ActiveOrder.entry ++ done).Perm ((d.accepted ++ orders).zipIdx 1)
      rw [List.map_append, List.zipIdx_append, hentries, List.append_assoc]
      refine (List.Perm.append_left _ List.perm_append_comm).trans ?_
      rw [← List.append_assoc]
      exact h.orders.append_right _
    · refine (congrArg (List.filterMap Event.filled?) (Engine.accepted_journal ..)).trans ?_
      rw [List.filterMap_append, filterMap_filled_orderSubmitted, List.append_nil]
      exact h.completed
    · rw [Engine.accepted_journal, Metric.total_append, Metric.total_orderSubmitted, h.submitted, if_pos rfl, hlength,
        List.length_append]

/-- **The step of a completion** that does not break off: one more order is completed, or nothing happens. -/
theorem complete (h : Tracked b₀ done d) {number : Nat}
    (hfill : ∀ fault, (d.engine.executor.fill number).1 ≠ some (.error fault)) :
    ∃ done', Tracked b₀ done' (d.step (.complete number)) := by
  have hcompletes := fill_completes d.engine.executor number
  unfold Desk.step
  dsimp only
  unfold Engine.fill
  rcases hrun : d.engine.executor.fill number with ⟨result, x⟩
  rw [hrun] at hfill hcompletes
  cases hcompletes with
  | absent =>
    refine ⟨done, h.next, h.ids, h.orders, h.completed, ?_, h.booked, h.submitted⟩
    exact (List.append_nil _).trans h.reports
  | broken balances hactive hnumber hbook => exact absurd rfl (hfill _)
  | @booked before after a balances hactive hnumber hbook =>
    subst hnumber
    have hnodup : (d.engine.executor.active.map (·.number)).Nodup :=
      (List.nodup_append.1 (h.numbers.nodup_iff.2 List.nodup_range')).1
    have hjournal : (d.engine.journal.push (.orderFilled a.number)).toList
        = d.engine.journal.toList ++ [.orderFilled a.number] := Array.toList_push ..
    have hbooked := Balances.bookAll_concat h.booked a.order
    refine ⟨done ++ [a.entry], h.next, h.ids, ?_, ?_, ?_, ?_, ?_⟩
    · -- the completed order goes from the first list to the second
      show ((d.engine.executor.active.filter (·.number != a.number)).map ActiveOrder.entry ++ (done ++ [a.entry])).Perm _
      refine List.Perm.trans ?_ h.orders
      rw [filter_of_nodup hactive hnodup, hactive, ← List.append_assoc, List.map_append, List.map_append, List.map_cons]
      exact (List.perm_append_singleton ..).trans (List.perm_middle.symm.append_right done)
    · show ((d.engine.journal.push (.orderFilled a.number)).toList).filterMap Event.filled? = _
      rw [hjournal, List.filterMap_append, List.map_append, ← h.completed]
      rfl
    · show d.reports ++ [.ofOrder a.number a.order] = _
      rw [h.reports, List.map_append]
      rfl
    · rw [List.map_append]
      exact hbooked.trans hbook
    · show Metric.total .ordersSubmitted (d.engine.journal.push (.orderFilled a.number)).toList = _
      rw [hjournal, Metric.total_append, h.submitted]
      rfl

/-- **The run of a history** in which no booking breaks off. -/
theorem run (h : Tracked b₀ [] d) {history : List Step}
    (hfills : ∀ past number, past ++ [.complete number] <+: history →
      ∀ fault, ((d.run past).engine.executor.fill number).1 ≠ some (.error fault)) :
    ∀ past, past <+: history → ∃ done, Tracked b₀ done (d.run past) := by
  intro past
  induction past using List.reverseRecOn with
  | nil => exact fun _ => ⟨[], h⟩
  | append_singleton past s ih =>
    intro hpast
    obtain ⟨done, hdone⟩ := ih ((List.prefix_append _ _).trans hpast)
    rw [run_concat]
    cases s with
    | submit clock orders => exact ⟨done, hdone.submit clock orders⟩
    | complete number => exact hdone.complete (hfills past number hpast)

end Tracked

/-! ## What follows for names -/

/-- What is true of all names that were given to orders. -/
structure LifeCycle (b₀ : Balances) (d : Desk) : Prop where
  /-- The names are counted up from one, without a gap. -/
  issued : d.ids = (List.range' 1 d.accepted.length).map orderId
  issued_nodup : d.ids.Nodup
  /-- Nothing but a given name is active or completed, and nothing is so twice. -/
  partition : (d.activeIds ++ d.completedIds).Perm d.ids
  /-- Every order is active or completed, and not both. -/
  status : ∀ id ∈ d.ids, (id ∈ d.activeIds ∧ id ∉ d.completedIds) ∨ (id ∉ d.activeIds ∧ id ∈ d.completedIds)
  /-- An active order is the one that got its name. -/
  pending : ∀ a ∈ d.engine.executor.active, ∃ i, a.id = orderId (i + 1) ∧ d.accepted[i]? = some a.order
  /-- A completed order has one report, and that shows the order that got the name. -/
  reported : ∀ id ∈ d.completedIds, ∃ i o, id = orderId (i + 1) ∧ d.accepted[i]? = some o ∧
    d.reports.filter (fun r => decide (r.id = id)) = [.ofOrder (i + 1) o]
  /-- There are no other reports. -/
  reports : d.reports.map (·.id) = d.completedIds
  /-- The balances come from one booking for each report, of the order that it shows. -/
  booked : ∃ done : List (Order × Nat), d.reports = done.map (fun p => .ofOrder p.2 p.1) ∧ done ⊆ d.accepted.zipIdx 1 ∧
    b₀.bookAll (done.map (·.1)) = .ok d.engine.executor.balances
  submitted : Metric.total .ordersSubmitted d.engine.journal.toList = d.ids.length
  filled : Metric.total .ordersFilled d.engine.journal.toList = d.completedIds.length
  /-- A refused batch changes nothing, so it takes no name. -/
  refused : ∀ clock orders failure, ((Engine.submit clock orders).run d.engine).1 = .error failure →
    d.step (.submit clock orders) = d

section

variable {b₀ : Balances} {done : List (Order × Nat)} {d : Desk}

theorem step_of_refused {clock : Nat → Instant} {orders : List Order} {failure : Failure TradingError}
    (h : ((Engine.submit clock orders).run d.engine).1 = .error failure) : d.step (.submit clock orders) = d := by
  unfold step
  dsimp only
  rw [Engine.submit_run] at h ⊢
  cases hsubmit : d.engine.executor.submit clock orders with
  | error failure => rfl
  | ok r =>
    rw [hsubmit] at h
    cases h

/-- The place of a numbered order. -/
theorem exists_of_mem_zipIdx {orders : List Order} {p : Order × Nat} (h : p ∈ orders.zipIdx 1) :
    ∃ i, p.2 = i + 1 ∧ orders[i]? = some p.1 := by
  obtain ⟨hge, hget⟩ := List.mem_zipIdx_iff_le_and_getElem?_sub.1 h
  exact ⟨p.2 - 1, by omega, hget⟩

theorem Tracked.lifeCycle (h : Tracked b₀ done d) : LifeCycle b₀ d := by
  have hnodup : d.ids.Nodup := by
    rw [h.ids]
    exact (List.nodup_range').map fun m n heq => orderId_injective heq
  have hcompleted : d.completedIds = done.map fun p => orderId p.2 := by
    unfold completedIds
    rw [h.completed, List.map_map]
    rfl
  have hreports : d.reports.map (·.id) = d.completedIds := by
    rw [hcompleted, h.reports, List.map_map]
    rfl
  have hpartition : (d.activeIds ++ d.completedIds).Perm d.ids := by
    -- names are numbers written out, so what holds of the numbers holds of the names
    have hperm := h.numbers.map orderId
    rw [List.map_append, List.map_map, ← h.completed, ← h.ids] at hperm
    exact hperm
  obtain ⟨-, hcompletedNodup, hdisjoint⟩ := List.nodup_append.1 (hpartition.nodup_iff.2 hnodup)
  constructor
  case issued => exact h.ids
  case issued_nodup => exact hnodup
  case partition => exact hpartition
  case status =>
    intro id hid
    rcases List.mem_append.1 (hpartition.mem_iff.2 hid) with hactive | hdone
    · exact Or.inl ⟨hactive, fun hdone => hdisjoint id hactive id hdone rfl⟩
    · exact Or.inr ⟨fun hactive => hdisjoint id hactive id hdone rfl, hdone⟩
  case pending =>
    intro a ha
    have hmem := h.orders.subset (List.mem_append_left done (List.mem_map_of_mem (f := ActiveOrder.entry) ha))
    obtain ⟨i, hi, hget⟩ := exists_of_mem_zipIdx hmem
    exact ⟨i, congrArg orderId hi, hget⟩
  case reported =>
    intro id hid
    rw [hcompleted] at hid
    obtain ⟨p, hp, rfl⟩ := List.mem_map.1 hid
    obtain ⟨i, hi, hget⟩ := exists_of_mem_zipIdx (h.orders.subset (List.mem_append_right _ hp))
    have hmem : Completion.ofOrder p.2 p.1 ∈ d.reports := by
      rw [h.reports]
      exact List.mem_map_of_mem hp
    refine ⟨i, p.1, congrArg orderId hi, hget, ?_⟩
    have hid : orderId p.2 = (Completion.ofOrder p.2 p.1).id := rfl
    rw [← hi, hid]
    exact filter_eq_singleton_of_nodup_map (f := Completion.id) (hreports ▸ hcompletedNodup) hmem
  case reports => exact hreports
  case booked => exact ⟨done, h.reports, fun p hp => h.orders.subset (List.mem_append_right _ hp), h.booked⟩
  case submitted => rw [h.submitted, h.ids, List.length_map, List.length_range']
  case filled =>
    rw [Metric.total_ordersFilled]
    exact (List.length_map _).symm
  case refused => exact fun clock orders failure => step_of_refused

/-- **The life of an order.** After every history of an executor in which no booking breaks off, whatever its batches
are and in whatever order the orders are completed. -/
theorem lifeCycle_run (settings : Settings) (first second : Source) (b₀ : Balances) (history : List Step)
    (hfills : ∀ past number, past ++ [.complete number] <+: history →
      ∀ fault, (((start settings first second b₀).run past).engine.executor.fill number).1 ≠ some (.error fault)) :
    LifeCycle b₀ ((start settings first second b₀).run history) := by
  obtain ⟨done, hdone⟩ := (Tracked.start settings first second b₀).run hfills history (List.prefix_refl _)
  exact hdone.lifeCycle

end

/-- A history with two accepted batches, a batch that cannot be paid for, and completions out of order, one of them of a
number that no order has. -/
def outOfOrder : List Step :=
  [.submit (fun _ => 0) [.taker ⟨"binance", "BTC-USDT"⟩ .buy 1 600, .taker ⟨"binance", "BTC-USDT"⟩ .sell 2 650],
    .complete 2,
    .submit (fun _ => 1) [.taker ⟨"binance", "BTC-USDT"⟩ .buy 1 600, .taker ⟨"binance", "BTC-USDT"⟩ .buy 5 600],
    .submit (fun _ => 2) [.taker ⟨"binance", "BTC-USDT"⟩ .buy 2 600], .complete 1, .complete 7]

/-- A desk with 10 units of the base asset and 1000 units of the quote asset. -/
def oneVenueDesk : Desk :=
  start threeAmounts (.book ⟨threeAmounts.market1, none⟩) (.book ⟨threeAmounts.market2, none⟩)
    (Balances.empty.fund ⟨"binance", "BTC-USDT"⟩ 10 1000)

/-- After `outOfOrder` one of three orders is active and two are completed, in the order of their completion. -/
theorem lifeCycle_run_outOfOrder :
    (∀ past number, past ++ [.complete number] <+: outOfOrder →
        ∀ fault, ((oneVenueDesk.run past).engine.executor.fill number).1 ≠ some (.error fault)) ∧
      LifeCycle (Balances.empty.fund ⟨"binance", "BTC-USDT"⟩ 10 1000) (oneVenueDesk.run outOfOrder) ∧
      (oneVenueDesk.run outOfOrder).activeIds = ["dry-3"] ∧
      (oneVenueDesk.run outOfOrder).completedIds = ["dry-2", "dry-1"] := by
  have hfills : ∀ past number, past ++ [.complete number] <+: outOfOrder →
      ∀ fault, ((oneVenueDesk.run past).engine.executor.fill number).1 ≠ some (.error fault) := by
    rintro past number ⟨rest, heq⟩ fault
    have hpast : past = outOfOrder.take past.length := by simp [← heq]
    have hstep : outOfOrder[past.length]? = some (.complete number) := by simp [← heq]
    have hlt : past.length < 6 := (List.getElem?_eq_some_iff.1 hstep).1
    rw [hpast]
    generalize past.length = i at hstep hlt
    interval_cases i <;> cases hstep <;> cases fault <;> decide +kernel
  exact ⟨hfills, lifeCycle_run _ _ _ _ outOfOrder hfills, by decide +kernel, by decide +kernel⟩

end Desk

end TwoVenue
