import TwoVenue.Proofs.Trade.Accounts
import TwoVenue.Proofs.Trade.History

/-!
# Booking orders

A completion takes its order from the active ones and books it.

- `Balances.book`: the booking of an order, complete or not at all. `book_eq_ok`: its two adjustments.
- `Balances.bookAll`: orders booked one after the other.
- `Executor.Completes`: **all that a completion can do**. `fill_completes` is the inversion lemma.
-/

namespace TwoVenue

/-- Around an element of a list without repetitions there is no other with its key. -/
theorem ne_of_nodup_map_middle {α κ : Type} {f : α → κ} {before after : List α} {a b : α}
    (h : ((before ++ a :: after).map f).Nodup) (hb : b ∈ before ++ after) : f b ≠ f a := by
  rw [List.map_append, List.map_cons, List.nodup_middle, List.nodup_cons, ← List.map_append] at h
  intro heq
  exact h.1 (heq ▸ List.mem_map_of_mem hb)

/-- In a list without repetitions a key is found once. -/
theorem filter_eq_singleton_of_nodup_map {α κ : Type} [DecidableEq κ] {f : α → κ} {l : List α} {a : α}
    (h : (l.map f).Nodup) (ha : a ∈ l) : l.filter (fun b => decide (f b = f a)) = [a] := by
  obtain ⟨before, after, rfl⟩ := List.append_of_mem ha
  have hgone : ∀ b ∈ before ++ after, ¬ decide (f b = f a) = true := fun b hb =>
    fun heq => ne_of_nodup_map_middle h hb (of_decide_eq_true heq)
  rw [List.filter_append, List.filter_cons, if_pos (decide_eq_true rfl),
    List.filter_eq_nil_iff.2 fun b hb => hgone b (List.mem_append_left _ hb),
    List.filter_eq_nil_iff.2 fun b hb => hgone b (List.mem_append_right _ hb)]
  rfl

namespace Balances

variable {b b' : Balances} {o : Order}

/-- The balances after the booking of an order, if nothing breaks it off. -/
def book (b : Balances) (o : Order) : Except Fault Balances :=
  match b.applyFill o.connector o.tradingPair o.side o.amount o.price with
  | (.ok (), b') => .ok b'
  | (.error fault, _) => .error fault

/-- A complete booking is two adjustments. -/
theorem book_eq_ok :
    b.book o = .ok b' ↔ ∃ n b₁, o.notional = .ok n ∧
      b.adjust o.baseAccount (deltas o.side o.amount n).1 = .ok b₁ ∧
      b₁.adjust o.quoteAccount (deltas o.side o.amount n).2 = .ok b' := by
  unfold book applyFill Order.notional Order.baseAccount Order.quoteAccount
  dsimp only
  cases hn : o.amount.mul o.price with
  | error fault => simp
  | ok n =>
    cases hbase : b.adjust ⟨o.connector, (splitPair o.tradingPair).1⟩ (deltas o.side o.amount n).1 with
    | error fault => simp [hbase]
    | ok b₁ =>
      cases hquote : b₁.adjust ⟨o.connector, (splitPair o.tradingPair).2⟩ (deltas o.side o.amount n).2 with
      | error fault => simp [hbase, hquote]
      | ok b₂ => simp [hbase, hquote]

/-- The balances after some orders are booked, the first one first. -/
def bookAll (b : Balances) (orders : List Order) : Except Fault Balances := orders.foldlM book b

theorem bookAll_concat {before : List Order} (h : b.bookAll before = .ok b') (o : Order) :
    b.bookAll (before ++ [o]) = b'.book o := by
  unfold bookAll at h ⊢
  rw [List.foldlM_append, h]
  show (b'.book o >>= fun b => pure b) = b'.book o
  exact bind_pure _

end Balances

namespace Executor

variable {x : Executor} {number : Nat}

/-- All that the completion of an order can do: the order is not active; or it leaves the active ones, and its booking
breaks off or is complete. -/
inductive Completes (x : Executor) (number : Nat) : Option (Except Fault Completion) → Executor → Prop
  | absent (h : ∀ a ∈ x.active, a.number ≠ number) : Completes x number none x
  | broken {before after : List ActiveOrder} {a : ActiveOrder} (balances : Balances) {fault : Fault}
      (hactive : x.active = before ++ a :: after) (hnumber : a.number = number)
      (hbook : x.balances.book a.order = .error fault) : Completes x number (some (.error fault))
        { x with active := x.active.filter (·.number != number), balances }
  | booked {before after : List ActiveOrder} {a : ActiveOrder} {balances : Balances}
      (hactive : x.active = before ++ a :: after) (hnumber : a.number = number)
      (hbook : x.balances.book a.order = .ok balances) : Completes x number (some (.ok (.ofOrder number a.order)))
        { x with active := x.active.filter (·.number != number), balances }

/-- **A completion does one of these things.** -/
theorem fill_completes (x : Executor) (number : Nat) : Completes x number (x.fill number).1 (x.fill number).2 := by
  cases hfind : x.active.find? (·.number == number) with
  | none =>
    rw [fill_of_not_found hfind]
    refine .absent fun a ha hnumber => ?_
    have hne := List.find?_eq_none.1 hfind a ha
    simp [hnumber] at hne
  | some a =>
    obtain ⟨hnumber, before, after, hactive, -⟩ := List.find?_eq_some_iff_append.1 hfind
    have hnumber : a.number = number := by simpa using hnumber
    unfold fill
    rw [hfind]
    dsimp only
    cases hbooked : x.balances.applyFill a.order.connector a.order.tradingPair a.order.side a.order.amount
        a.order.price with
    | mk result balances =>
      cases result with
      | error fault =>
        refine .broken balances hactive hnumber ?_
        unfold Balances.book
        rw [hbooked]
      | ok u =>
        refine .booked hactive hnumber ?_
        unfold Balances.book
        rw [hbooked]

/-- Where numbers are different, only the completed order leaves. -/
theorem filter_of_nodup {active before after : List ActiveOrder} {a : ActiveOrder}
    (hactive : active = before ++ a :: after) (hnodup : (active.map (·.number)).Nodup) :
    active.filter (·.number != a.number) = before ++ after := by
  have hstays : ∀ b ∈ before ++ after, (b.number != a.number) = true := fun b hb =>
    bne_iff_ne.2 (ne_of_nodup_map_middle (hactive ▸ hnodup) hb)
  rw [hactive, List.filter_append, List.filter_cons, if_neg (by simp), ← List.filter_append]
  exact List.filter_eq_self.2 hstays

end Executor

end TwoVenue
