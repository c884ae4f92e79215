import TwoVenue.Proofs.Search.Events
import TwoVenue.Report.Metrics

/-!
# Counters of a growing journal

A counter of a longer journal is the counter of the shorter one and what the new events add to it.

- `Metric.total_append`, `Metric.total_cons`: the counters without labels. `Metric.failures_append`,
  `Metric.failures_cons`: those of the venues.
- `Metric.total_orderSubmitted`: accepted orders are counted one by one.
- `Metric.total_search`, `Metric.failures_search`: **a search only counts the amounts that it skips**.
-/

namespace TwoVenue

namespace Metric

variable (m : Metric) (venue : String)

@[simp] theorem total_nil : total m [] = 0 := rfl

@[simp] theorem failures_nil : failures venue [] = 0 := rfl

@[simp] theorem total_append (before after : List Event) :
    total m (before ++ after) = total m before + total m after := List.countP_append ..

@[simp] theorem failures_append (before after : List Event) :
    failures venue (before ++ after) = failures venue before + failures venue after := List.countP_append ..

@[simp] theorem total_cons (event : Event) (after : List Event) :
    total m (event :: after) = (if counts event = some m then 1 else 0) + total m after := by
  unfold total
  rw [List.countP_cons, Nat.add_comm]
  simp

@[simp] theorem failures_cons (event : Event) (after : List Event) :
    failures venue (event :: after) = (if failedVenue? event = some venue then 1 else 0) + failures venue after := by
  unfold failures
  rw [List.countP_cons, Nat.add_comm]
  simp

/-- Events of other counters add nothing. -/
theorem total_eq_zero {m : Metric} {events : List Event} (h : ∀ event ∈ events, counts event ≠ some m) :
    total m events = 0 := by
  refine List.countP_eq_zero.2 fun event hevent hcounts => ?_
  exact h event hevent (of_decide_eq_true hcounts)

/-- Events without a venue out of reach add nothing. -/
theorem failures_eq_zero {events : List Event} (h : ∀ event ∈ events, failedVenue? event = none) :
    failures venue events = 0 := by
  refine List.countP_eq_zero.2 fun event hevent hfailed => ?_
  rw [h event hevent] at hfailed
  cases of_decide_eq_true hfailed

/-- Accepted orders are counted one by one, by their own counter. -/
theorem total_orderSubmitted (entered : List ActiveOrder) :
    total m (entered.map fun a => Event.orderSubmitted a.number a.order) =
      if m = .ordersSubmitted then entered.length else 0 := by
  induction entered with
  | nil => simp
  | cons a rest ih =>
    rw [List.map_cons, total_cons, ih, List.length_cons]
    by_cases hm : m = .ordersSubmitted
    · simp [hm, counts, Nat.add_comm]
    · have hcounts : counts (.orderSubmitted a.number a.order) ≠ some m := fun h => hm (Option.some.inj h).symm
      simp [hm, hcounts]

theorem failures_orderSubmitted (entered : List ActiveOrder) :
    failures venue (entered.map fun a => Event.orderSubmitted a.number a.order) = 0 := by
  refine failures_eq_zero venue fun event hevent => ?_
  obtain ⟨a, -, rfl⟩ := List.mem_map.1 hevent
  rfl

/-- The events of a search belong to one counter only. -/
theorem counts_of_search {event : Event} (h : event.OfSearch) {m : Metric} (hm : m ≠ .samplesSkipped) :
    counts event ≠ some m := by
  intro hcounts
  cases event with
  | sampleSkipped amount error => exact hm (Option.some.inj hcounts).symm
  | _ => first | exact False.elim h | cases hcounts

theorem failedVenue?_of_search {event : Event} (h : event.OfSearch) : failedVenue? event = none := by
  cases event with
  | cycleAborted error => cases h
  | _ => rfl

section Search

variable (s : Settings) (q : Quoters)

/-- **A search only counts the amounts that it skips.** -/
theorem total_search {m : Metric} (hm : m ≠ .samplesSkipped) : total m (findOptimal s q).events = 0 :=
  total_eq_zero fun event hevent => counts_of_search (findOptimal_ofSearch s q event hevent) hm

/-- A search does not count venues out of reach. -/
theorem failures_search : failures venue (findOptimal s q).events = 0 :=
  failures_eq_zero venue fun event hevent => failedVenue?_of_search (findOptimal_ofSearch s q event hevent)

end Search

end Metric

end TwoVenue
