import TwoVenue.Proofs.Decimal.Value
import TwoVenue.Proofs.Sequence
import TwoVenue.Proofs.Trade.Names

/-!
# Histories of an executor

- `Executor.Step`, `Executor.run`: batches are submitted and orders completed, in any order.
- `Executor.submit_eq_ok`, `Executor.fill_of_find`: all that a step can do. `Executor.fill_answer_of_find`: what a
  completion answers.
- `Executor.Orderly`: what holds of every executor that has only gone through such steps. `Orderly.step` is the step
  lemma and `Orderly.run` the run lemma.
-/

namespace TwoVenue

/-! ## Orders that pass the check -/

/-- What the check of an order guarantees. -/
theorem Order.check_eq_ok {o : Order} :
    o.check = .ok () ↔ o.connector ≠ "" ∧ o.tradingPair ≠ "" ∧ 0 < o.price ∧ 0 < o.amount := by
  unfold Order.check
  constructor
  · intro h
    split at h
    · cases h
    split at h
    · cases h
    split at h
    · cases h
    split at h
    · cases h
    next hconnector hpair hprice hamount =>
    exact ⟨hconnector, hpair, Decimal.not_le.1 hprice, Decimal.not_le.1 hamount⟩
  · rintro ⟨hconnector, hpair, hprice, hamount⟩
    rw [if_neg hconnector, if_neg hpair, if_neg (Decimal.not_le.2 hprice), if_neg (Decimal.not_le.2 hamount)]

theorem Balances.checkFunds_eq_ok {b : Balances} {o : Order} :
    b.checkFunds o = .ok () ↔ ∃ account amount, Balances.required o = .ok (account, amount) ∧ amount ≤ b.get account := by
  unfold Balances.checkFunds
  constructor
  · intro h
    obtain ⟨⟨account, amount⟩, hrequired, h⟩ := Outcome.bind_eq_ok.1 h
    refine ⟨account, amount, Outcome.ofArithmetic_eq_ok.1 hrequired, ?_⟩
    dsimp only at h
    split at h
    · cases h
    · next hfunds => exact Decimal.not_lt.1 hfunds
  · rintro ⟨account, amount, hrequired, hfunds⟩
    refine Outcome.bind_eq_ok.2 ⟨(account, amount), Outcome.ofArithmetic_eq_ok.2 hrequired, ?_⟩
    dsimp only
    rw [if_neg (Decimal.not_lt.2 hfunds)]
    rfl

namespace Executor

variable {x x' : Executor} {clock : Nat → Instant} {number : Nat} {orders : List Order} {entered : List ActiveOrder}

/-! ## Submitting -/

theorem accepts_eq_ok {o : Order} :
    x.accepts o = .ok () ↔ o.check = .ok () ∧ x.balances.checkFunds o = .ok () := by
  unfold accepts
  cases h : o.check with
  | error flaw => exact ⟨fun h' => (nomatch h'), fun h' => (nomatch h'.1)⟩
  | ok u => exact ⟨fun h' => ⟨rfl, h'⟩, fun h' => h'.2⟩

/-- A batch passes if all of its orders do, each on its own. -/
theorem acceptsAll_eq_ok : x.acceptsAll orders = .ok () ↔ ∀ o ∈ orders, x.accepts o = .ok () := by
  induction orders with
  | nil => exact ⟨fun _ _ ho => absurd ho List.not_mem_nil, fun _ => rfl⟩
  | cons o rest ih =>
    unfold acceptsAll
    rw [Outcome.bind_eq_ok, List.forall_mem_cons]
    constructor
    · rintro ⟨⟨⟩, ho, hrest⟩
      exact ⟨ho, ih.1 hrest⟩
    · rintro ⟨ho, hrest⟩
      exact ⟨(), ho, ih.2 hrest⟩

/-- All that the submission of a batch can do. -/
theorem submit_eq_ok :
    x.submit clock orders = .ok (entered, x') ↔ (∀ o ∈ orders, x.accepts o = .ok ()) ∧
      entered = enter clock x.nextNumber orders ∧
      x' = { x with active := x.active ++ entered, nextNumber := x.nextNumber + orders.length } := by
  unfold submit
  rw [Outcome.bind_eq_ok, ← acceptsAll_eq_ok]
  constructor
  · rintro ⟨⟨⟩, haccepts, h⟩
    cases h
    exact ⟨haccepts, rfl, rfl⟩
  · rintro ⟨haccepts, rfl, rfl⟩
    exact ⟨(), haccepts, rfl⟩

theorem enter_orders (clock : Nat → Instant) (orders : List Order) :
    ∀ number, (enter clock number orders).map (·.order) = orders := by
  induction orders with
  | nil => exact fun _ => rfl
  | cons o rest ih =>
    intro number
    unfold enter
    rw [List.map_cons, ih]

theorem enter_numbers (clock : Nat → Instant) (orders : List Order) :
    ∀ number, (enter clock number orders).map (·.number) = List.range' number orders.length := by
  induction orders with
  | nil => exact fun _ => rfl
  | cons o rest ih =>
    intro number
    unfold enter
    rw [List.map_cons, ih, List.length_cons, List.range'_succ]

/-- The names of a batch are those of the numbers from the next one on. -/
theorem enter_ids (clock : Nat → Instant) (number : Nat) (orders : List Order) :
    (enter clock number orders).map (·.id) = (List.range' number orders.length).map orderId := by
  have hid : (ActiveOrder.id : ActiveOrder → String) = orderId ∘ ActiveOrder.number := rfl
  rw [hid, ← List.map_map, enter_numbers]

theorem enter_length (clock : Nat → Instant) (number : Nat) (orders : List Order) :
    (enter clock number orders).length = orders.length := by
  rw [← List.length_map (·.order), enter_orders]

theorem mem_enter {a : ActiveOrder} (h : a ∈ enter clock number orders) :
    a.order ∈ orders ∧ number ≤ a.number ∧ a.number < number + orders.length := by
  have horder : a.order ∈ (enter clock number orders).map (·.order) := List.mem_map_of_mem h
  have hnumber : a.number ∈ (enter clock number orders).map (·.number) := List.mem_map_of_mem h
  rw [enter_orders] at horder
  rw [enter_numbers] at hnumber
  exact ⟨horder, List.mem_range'_1.1 hnumber⟩

/-! ## Completing -/

theorem fill_of_not_found (h : x.active.find? (·.number == number) = none) : x.fill number = (none, x) := by
  unfold fill
  rw [h]

/-- A completed order leaves the active ones and is booked, as far as its booking goes. -/
theorem fill_of_find {a : ActiveOrder} (h : x.active.find? (·.number == number) = some a) :
    (x.fill number).2 = { x with
      active := x.active.filter (·.number != number)
      balances := (x.balances.applyFill a.order.connector a.order.tradingPair a.order.side a.order.amount
        a.order.price).2 } := by
  unfold fill
  rw [h]
  dsimp only
  split
  · next hbooked => rw [hbooked]
  · next hbooked => rw [hbooked]

/-- A completion answers what its booking has come to. -/
theorem fill_answer_of_find {a : ActiveOrder} (h : x.active.find? (·.number == number) = some a) :
    (x.fill number).1 = some ((x.balances.applyFill a.order.connector a.order.tradingPair a.order.side a.order.amount
      a.order.price).1.map fun _ => .ofOrder number a.order) := by
  unfold fill
  rw [h]
  dsimp only
  split
  · next hbooked =>
    rw [hbooked]
    rfl
  · next hbooked =>
    rw [hbooked]
    rfl

/-! ## Steps and runs -/

/-- Something that happens to an executor. -/
inductive Step where
  /-- A batch is submitted; `clock` tells when the order of a number is accepted. -/
  | submit (clock : Nat → Instant) (orders : List Order)
  /-- The order of a number is completed. -/
  | complete (number : Nat)

/-- The executor after a step. A refused batch changes nothing. -/
def step (x : Executor) : Step → Executor
  | .submit clock orders =>
    match x.submit clock orders with
    | .ok (_, x') => x'
    | .error _ => x
  | .complete number => (x.fill number).2

/-- The executor after a history. -/
def run (x : Executor) (history : List Step) : Executor := history.foldl step x

theorem run_concat (x : Executor) (past : List Step) (s : Step) : x.run (past ++ [s]) = (x.run past).step s := by
  unfold run
  rw [List.foldl_append]
  rfl

/-- What holds of an executor that has only gone through steps. -/
structure Orderly (x : Executor) : Prop where
  checked : ∀ a ∈ x.active, a.order.check = .ok ()
  numbered : ∀ a ∈ x.active, a.number < x.nextNumber

theorem orderly_of_not_active (h : x.active = []) : Orderly x := by
  constructor <;> rw [h] <;> exact fun a ha => absurd ha List.not_mem_nil

theorem Orderly.submit (hx : Orderly x) (h : x.submit clock orders = .ok (entered, x')) : Orderly x' := by
  obtain ⟨haccepts, rfl, rfl⟩ := submit_eq_ok.1 h
  constructor
  · intro a ha
    rcases List.mem_append.1 ha with ha | ha
    · exact hx.checked a ha
    · exact (accepts_eq_ok.1 (haccepts _ (mem_enter ha).1)).1
  · intro a ha
    rcases List.mem_append.1 ha with ha | ha
    · exact Nat.lt_of_lt_of_le (hx.numbered a ha) (Nat.le_add_right _ _)
    · exact (mem_enter ha).2.2

theorem Orderly.fill (hx : Orderly x) (number : Nat) : Orderly (x.fill number).2 := by
  cases h : x.active.find? (·.number == number) with
  | none =>
    rw [fill_of_not_found h]
    exact hx
  | some a =>
    rw [fill_of_find h]
    exact ⟨fun a ha => hx.checked a (List.mem_filter.1 ha).1, fun a ha => hx.numbered a (List.mem_filter.1 ha).1⟩

/-- **The step of a history.** -/
theorem Orderly.step (hx : Orderly x) (s : Step) : Orderly (x.step s) := by
  cases s with
  | submit clock orders =>
    unfold Executor.step
    dsimp only
    split
    · next h => exact hx.submit h
    · exact hx
  | complete number => exact hx.fill number

/-- **The run of a history.** -/
theorem Orderly.run (hx : Orderly x) (history : List Step) : Orderly (x.run history) := by
  induction history using List.reverseRecOn with
  | nil => exact hx
  | append_singleton past s ih =>
    rw [run_concat]
    exact ih.step s

end Executor

end TwoVenue
