import TwoVenue.Proofs.Trade.Booking

/-!
# Completions that break off

A completion removes its order from the active ones, then computes what the order is worth, then changes the base account
and then the quote account. Each of the last three can overflow, and what was done before that stays done.

- `Balances.BreaksOff`: where a booking stops, and the balances it leaves. `applyFill_breaksOff` is the inversion lemma.
- `Executor.fill_eq_ok`, `Executor.fill_eq_error`: the two ends of a completion.
- `Executor.Gone`: an order that no history brings back. `Gone.step` is the step lemma and `Gone.run` the run lemma.
- `Executor.AllOrNothing`: what a completion promises. `fill_allOrNothing_iff`: **it is kept exactly by the completions
  that do not fail**, and what the others leave behind.
- `Executor.brimming_torn`: a sale whose base asset is taken, whose proceeds have no room, and that is gone.
-/

namespace TwoVenue

namespace Balances

/-- A booking that breaks off, its fault, and the balances it leaves: the base account is changed before the quote
account overflows. -/
inductive BreaksOff (b : Balances) (o : Order) : Fault → Balances → Prop
  | notional {fault : Fault} (hnotional : o.notional = .error fault) : BreaksOff b o fault b
  | base {n : Decimal} {fault : Fault} (hnotional : o.notional = .ok n)
      (hbase : b.adjust o.baseAccount (deltas o.side o.amount n).1 = .error fault) : BreaksOff b o fault b
  | quote {n : Decimal} {b₁ : Balances} {fault : Fault} (hnotional : o.notional = .ok n)
      (hbase : b.adjust o.baseAccount (deltas o.side o.amount n).1 = .ok b₁)
      (hquote : b₁.adjust o.quoteAccount (deltas o.side o.amount n).2 = .error fault) : BreaksOff b o fault b₁

/-- **A booking breaks off in one of these ways.** -/
theorem applyFill_breaksOff {b b' : Balances} {o : Order} {fault : Fault}
    (h : b.applyFill o.connector o.tradingPair o.side o.amount o.price = (.error fault, b')) : BreaksOff b o fault b' := by
  unfold applyFill at h
  dsimp only at h
  cases hn : o.amount.mul o.price with
  | error fault' =>
    rw [hn] at h
    cases h
    exact .notional hn
  | ok n =>
    rw [hn] at h
    dsimp only at h
    cases hbase : b.adjust ⟨o.connector, (splitPair o.tradingPair).1⟩ (deltas o.side o.amount n).1 with
    | error fault' =>
      rw [hbase] at h
      cases h
      exact .base hn hbase
    | ok b₁ =>
      rw [hbase] at h
      dsimp only at h
      cases hquote : b₁.adjust ⟨o.connector, (splitPair o.tradingPair).2⟩ (deltas o.side o.amount n).2 with
      | error fault' =>
        rw [hquote] at h
        cases h
        exact .quote hn hbase hquote
      | ok b₂ =>
        rw [hquote] at h
        cases h

end Balances

namespace Executor

variable {x : Executor} {number : Nat} {a : ActiveOrder}

/-! ## The two ends of a completion -/

/-- A completion that does not fail has booked its order. -/
theorem fill_eq_ok {c : Completion} (hactive : x.active.find? (·.number == number) = some a)
    (h : (x.fill number).1 = some (.ok c)) :
    c = .ofOrder number a.order ∧ x.balances.book a.order = .ok (x.fill number).2.balances := by
  rw [fill_answer_of_find hactive] at h
  rw [fill_of_find hactive, Balances.book]
  rcases hbooked : x.balances.applyFill a.order.connector a.order.tradingPair a.order.side a.order.amount a.order.price
    with ⟨fault | _, balances⟩
  · rw [hbooked] at h
    cases h
  · rw [hbooked] at h
    cases h
    exact ⟨rfl, rfl⟩

/-- A completion that fails leaves what its booking has left. -/
theorem fill_eq_error {fault : Fault} (hactive : x.active.find? (·.number == number) = some a)
    (h : (x.fill number).1 = some (.error fault)) :
    x.balances.BreaksOff a.order fault (x.fill number).2.balances := by
  rw [fill_answer_of_find hactive] at h
  rw [fill_of_find hactive]
  rcases hbooked : x.balances.applyFill a.order.connector a.order.tradingPair a.order.side a.order.amount a.order.price
    with ⟨fault' | _, balances⟩
  · rw [hbooked] at h
    cases h
    exact Balances.applyFill_breaksOff hbooked
  · rw [hbooked] at h
    cases h

/-- The completion of an active order fails or does not. -/
theorem fill_ends (hactive : x.active.find? (·.number == number) = some a) :
    (∃ c, (x.fill number).1 = some (.ok c)) ∨ ∃ fault, (x.fill number).1 = some (.error fault) := by
  rw [fill_answer_of_find hactive]
  rcases x.balances.applyFill a.order.connector a.order.tradingPair a.order.side a.order.amount a.order.price
    with ⟨fault | _, balances⟩
  · exact Or.inr ⟨fault, rfl⟩
  · exact Or.inl ⟨_, rfl⟩

/-! ## Orders that are gone -/

/-- An order that has been accepted and is not active. -/
structure Gone (x : Executor) (number : Nat) : Prop where
  accepted : number < x.nextNumber
  absent : ∀ a ∈ x.active, a.number ≠ number

theorem absent_of_fill (x : Executor) (number : Nat) : ∀ a ∈ (x.fill number).2.active, a.number ≠ number := by
  cases h : x.active.find? (·.number == number) with
  | none =>
    rw [fill_of_not_found h]
    intro a ha heq
    exact List.find?_eq_none.1 h a ha (by simp [heq])
  | some a =>
    rw [fill_of_find h]
    intro b hb
    simpa using (List.mem_filter.1 hb).2

/-- **The step of an order that is gone**: new orders have other numbers. -/
theorem Gone.step (h : Gone x number) (s : Step) : Gone (x.step s) number := by
  cases s with
  | submit clock orders =>
    unfold Executor.step
    dsimp only
    split
    · next hsubmit =>
      obtain ⟨-, rfl, rfl⟩ := submit_eq_ok.1 hsubmit
      refine ⟨Nat.lt_of_lt_of_le h.accepted (Nat.le_add_right _ _), fun a ha => ?_⟩
      rcases List.mem_append.1 ha with ha | ha
      · exact h.absent a ha
      · have hnew := (mem_enter ha).2.1
        have hold := h.accepted
        omega
    · exact h
  | complete other =>
    unfold Executor.step
    dsimp only
    cases hfind : x.active.find? (·.number == other) with
    | none =>
      rw [fill_of_not_found hfind]
      exact h
    | some a =>
      rw [fill_of_find hfind]
      exact ⟨h.accepted, fun b hb => h.absent b (List.mem_filter.1 hb).1⟩

/-- **The run of an order that is gone**: no history brings it back. -/
theorem Gone.run (h : Gone x number) (history : List Step) : Gone (x.run history) number := by
  induction history using List.reverseRecOn with
  | nil => exact h
  | append_singleton past s ih =>
    rw [run_concat]
    exact ih.step s

/-! ## All or nothing -/

/-- What the completion of an active order promises: if it fails, then all balances are as before and the order is still
active; if it does not, then both accounts of the order have been changed. -/
structure AllOrNothing (x : Executor) (number : Nat) (a : ActiveOrder) : Prop where
  failed : ∀ fault, (x.fill number).1 = some (.error fault) →
    (∀ account, (x.fill number).2.balances.get account = x.balances.get account) ∧ a ∈ (x.fill number).2.active
  booked : ∀ c, (x.fill number).1 = some (.ok c) → x.balances.book a.order = .ok (x.fill number).2.balances

/-- **A completion keeps its promise exactly if it does not fail.** Then both accounts of the order have been changed. One
that fails leaves the balances as they were, unless the quote account was what overflowed: then the base account has been
changed. The order is no longer active, it is not completed, and no history makes it active again. -/
theorem fill_allOrNothing_iff (x : Executor) (number : Nat) (a : ActiveOrder)
    (hactive : x.active.find? (·.number == number) = some a) :
    (x.AllOrNothing number a ↔ ∃ c, (x.fill number).1 = some (.ok c)) ∧
      (∀ c, (x.fill number).1 = some (.ok c) → c = .ofOrder number a.order ∧
        ∃ n b₁, a.order.notional = .ok n ∧
          x.balances.adjust a.order.baseAccount (Balances.deltas a.order.side a.order.amount n).1 = .ok b₁ ∧
          b₁.adjust a.order.quoteAccount (Balances.deltas a.order.side a.order.amount n).2
            = .ok (x.fill number).2.balances) ∧
      ∀ fault, (x.fill number).1 = some (.error fault) →
        x.balances.BreaksOff a.order fault (x.fill number).2.balances ∧
          (∀ b ∈ (x.fill number).2.active, b.number ≠ number) ∧
          (x.Orderly → ∀ history, ∀ b ∈ ((x.fill number).2.run history).active, b.number ≠ number) := by
  have hnumber : a.number = number := by simpa using List.find?_some hactive
  refine ⟨⟨fun h => ?_, ?_⟩, fun c hc => ?_, fun fault hfault => ⟨fill_eq_error hactive hfault, absent_of_fill x number,
    fun horderly history => ?_⟩⟩
  · rcases fill_ends hactive with hc | ⟨fault, hfault⟩
    · exact hc
    · -- a completion that fails would have to leave its order where it was
      exact absurd hnumber (absent_of_fill x number a (h.failed fault hfault).2)
  · rintro ⟨c, hc⟩
    refine ⟨fun fault hfault => ?_, fun c' hc' => (fill_eq_ok hactive hc').2⟩
    cases hc.symm.trans hfault
  · obtain ⟨hcompletion, hbook⟩ := fill_eq_ok hactive hc
    exact ⟨hcompletion, Balances.book_eq_ok.1 hbook⟩
  · have hgone : Gone (x.fill number).2 number := by
      refine ⟨?_, absent_of_fill x number⟩
      rw [fill_of_find hactive, ← hnumber]
      exact horderly.numbered a (List.mem_of_find?_eq_some hactive)
    exact (hgone.run history).absent

/-- A sale of 1 BTC for 100 USDT. -/
def cheapSale : Order := .taker ⟨"binance", "BTC-USDT"⟩ .sell 1 100

/-- An account of USDT that has no room for anything more. -/
def crammed : Executor := empty.fund ⟨"binance", "BTC-USDT"⟩ 10 79228162514264337593543950335

/-- `crammed` with `cheapSale` accepted. -/
def brimming : Executor := crammed.run [.submit (fun _ => 0) [cheapSale]]

theorem brimming_active : brimming.active = [⟨1, cheapSale, 0⟩] := by
  have haccepts : crammed.accepts cheapSale = .ok () := by decide +kernel
  have hsubmit : crammed.submit (fun _ => 0) [cheapSale]
      = .ok ([⟨1, cheapSale, 0⟩], { crammed with active := [⟨1, cheapSale, 0⟩], nextNumber := 2 }) :=
    submit_eq_ok.2 ⟨List.forall_mem_singleton.2 haccepts, rfl, rfl⟩
  show (crammed.step (.submit (fun _ => 0) [cheapSale])).active = _
  unfold step
  dsimp only
  rw [hsubmit]

/-- **A completion can fail half way**: the base asset is taken, the quote asset does not come, and the order is neither
active nor completed. -/
theorem brimming_torn :
    brimming.active = [⟨1, cheapSale, 0⟩] ∧ (brimming.fill 1).1 = some (.error .additionOverflow) ∧
      (brimming.fill 1).2.active = [] ∧
      brimming.balances.get ⟨"binance", "BTC"⟩ = 10 ∧ (brimming.fill 1).2.balances.get ⟨"binance", "BTC"⟩ = 9 ∧
      ¬ brimming.AllOrNothing 1 ⟨1, cheapSale, 0⟩ := by
  have hfails : (brimming.fill 1).1 = some (.error .additionOverflow) := by decide +kernel
  have hgone := absent_of_fill brimming 1
  refine ⟨brimming_active, hfails, by decide +kernel, by decide +kernel, by decide +kernel, fun h => ?_⟩
  exact hgone _ (h.failed _ hfails).2 rfl

/-- The completion of `brimming` breaks off at the quote account, and its order never comes back. -/
theorem fill_allOrNothing_iff_brimming :
    brimming.active.find? (·.number == 1) = some ⟨1, cheapSale, 0⟩ ∧
      (brimming.fill 1).1 = some (.error .additionOverflow) ∧
      brimming.balances.BreaksOff cheapSale .additionOverflow (brimming.fill 1).2.balances ∧
      ∀ history, ∀ b ∈ ((brimming.fill 1).2.run history).active, b.number ≠ 1 := by
  have hfind : brimming.active.find? (·.number == 1) = some ⟨1, cheapSale, 0⟩ := by
    rw [brimming_active]
    rfl
  have hfails : (brimming.fill 1).1 = some (.error .additionOverflow) := by decide +kernel
  have horderly : brimming.Orderly := (orderly_of_not_active (x := crammed) rfl).run _
  obtain ⟨-, -, hfailed⟩ := fill_allOrNothing_iff brimming 1 _ hfind
  obtain ⟨hbreaks, -, hgone⟩ := hfailed _ hfails
  exact ⟨hfind, hfails, hbreaks, hgone horderly⟩

end Executor

end TwoVenue
