import TwoVenue.Proofs.Decimal.Grid
import TwoVenue.Proofs.Trade.Booking
import TwoVenue.Proofs.Trade.Listing

/-!
# The ledger

As long as all amounts are whole numbers on one grid and small enough together, booking is plain addition: no sum is
rounded and none breaks off. So what orders leave behind does not depend on the order of their completion.

- `Order.share`: what an order gives an account, or takes from it. `Order.OnGrid`: an order on a grid.
- `Balances.Adds`: an adjustment that is exact. `adjust_exact`: when it is.
- `Balances.Ledger`: **what some orders leave behind**. `Ledger.cons` puts bookings together.
- `Balances.Room`: the invariant; whatever an account holds, there is room for all orders that are left. `book_exact` is
  the step lemma and `Executor.settle` the run lemma.
- `Executor.ledger_equation`: **the ledger equation**, for all orders of completion.
-/

namespace TwoVenue

open Decimal

/-! ## What an order moves -/

namespace Order

/-- What the amount of an order is worth at its price, as arithmetic gives it. -/
def worth (o : Order) : Rat :=
  match o.notional with
  | .ok n => n.toRat
  | .error _ => 0

/-- The sum of what an order moves. -/
def weight (o : Order) : Rat := |o.amount.toRat| + |o.worth|

/-- Whether an order moves anything on an account. -/
def Touches (o : Order) (account : Account) : Prop := account = o.baseAccount ∨ account = o.quoteAccount

/-- What an order gives an account: a buy gives its amount to the base account and takes its worth from the quote
account, a sell does the opposite. -/
def share (o : Order) (account : Account) : Rat :=
  match o.side with
  | .buy => (if account = o.baseAccount then o.amount.toRat else 0) - (if account = o.quoteAccount then o.worth else 0)
  | .sell => (if account = o.quoteAccount then o.worth else 0) - (if account = o.baseAccount then o.amount.toRat else 0)

/-- Whether the amount and the worth of an order are on a grid. -/
structure OnGrid (s : Nat) (o : Order) : Prop where
  amount : TwoVenue.OnGrid s o.amount.toRat
  notional : ∃ n, o.notional = .ok n ∧ TwoVenue.OnGrid s n.toRat

variable {o : Order} {n : Decimal}

theorem worth_of_notional (h : o.notional = .ok n) : o.worth = n.toRat := by
  unfold worth
  rw [h]

theorem weight_nonneg (o : Order) : 0 ≤ o.weight := add_nonneg (abs_nonneg _) (abs_nonneg _)

/-- The two adjustments of a booking make up the share. -/
theorem share_eq (h : o.notional = .ok n) (account : Account) :
    o.share account = (if account = o.baseAccount then (Balances.deltas o.side o.amount n).1.toRat else 0)
      + (if account = o.quoteAccount then (Balances.deltas o.side o.amount n).2.toRat else 0) := by
  unfold share
  rw [worth_of_notional h]
  cases o.side with
  | buy =>
    simp only [Balances.deltas, toRat_neg]
    split <;> split <;> ring
  | sell =>
    simp only [Balances.deltas, toRat_neg]
    split <;> split <;> ring

theorem abs_deltas (h : o.notional = .ok n) :
    |(Balances.deltas o.side o.amount n).1.toRat| = |o.amount.toRat| ∧
      |(Balances.deltas o.side o.amount n).2.toRat| = |o.worth| := by
  rw [worth_of_notional h]
  cases o.side <;> simp [Balances.deltas]

theorem onGrid_deltas {s : Nat} (hamount : TwoVenue.OnGrid s o.amount.toRat) (hn : TwoVenue.OnGrid s n.toRat) :
    TwoVenue.OnGrid s (Balances.deltas o.side o.amount n).1.toRat ∧
      TwoVenue.OnGrid s (Balances.deltas o.side o.amount n).2.toRat := by
  cases o.side with
  | buy => exact ⟨hamount, by rw [Balances.deltas, toRat_neg]; exact hn.neg⟩
  | sell => exact ⟨by rw [Balances.deltas, toRat_neg]; exact hamount.neg, hn⟩

end Order

namespace Balances

variable {b b' b'' : Balances} {delta : Decimal} {s : Nat} {o : Order} {orders rest : List Order}

/-! ## Exact adjustments -/

/-- An adjustment that is exact, with what it does to the listing. -/
structure Adds (b : Balances) (account : Account) (delta : Rat) (b' : Balances) : Prop where
  get : ∀ other, (b'.get other).toRat = (b.get other).toRat + if other = account then delta else 0
  others : ∀ other, other ≠ account → b'.get other = b.get other
  lists : ∀ other, Lists b' other ↔ other = account ∨ Lists b other
  sorted : Sorted b → Sorted b'

/-- **An adjustment on a grid is exact** if it is small enough. -/
theorem adjust_exact (account : Account) (hs : s ≤ maxScale) (hheld : OnGrid s (b.get account).toRat) (hdelta : OnGrid s delta.toRat)
    (hroom : (|(b.get account).toRat| + |delta.toRat|) * 10 ^ s < limit) :
    ∃ b', b.adjust account delta = .ok b' ∧ Adds b account delta.toRat b' := by
  obtain ⟨sum, hadd, hsum⟩ := add_exact hs hheld hdelta hroom
  refine ⟨b.set account sum, ?_, fun other => ?_, fun other => get_set_of_ne, fun other => lists_set,
    fun hb => hb.set account sum⟩
  · unfold adjust
    rw [hadd]
    rfl
  · by_cases hother : other = account
    · rw [hother, get_set_self, if_pos rfl, hsum]
    · rw [get_set_of_ne hother, if_neg hother, add_zero]

/-! ## What orders leave behind -/

/-- What the bookings of some orders leave behind. -/
structure Ledger (b : Balances) (orders : List Order) (b' : Balances) : Prop where
  get : ∀ account, (b'.get account).toRat = (b.get account).toRat + (orders.map (·.share account)).sum
  others : ∀ account, (∀ o ∈ orders, ¬ o.Touches account) → b'.get account = b.get account
  lists : ∀ account, Lists b' account ↔ Lists b account ∨ ∃ o ∈ orders, o.Touches account
  sorted : Sorted b → Sorted b'

theorem Ledger.refl (b : Balances) : Ledger b [] b :=
  ⟨fun _ => (add_zero _).symm, fun _ _ => rfl, fun _ => by simp, fun h => h⟩

theorem Ledger.cons (h : Ledger b [o] b') (h' : Ledger b' rest b'') : Ledger b (o :: rest) b'' where
  get account := by
    rw [h'.get, h.get, List.map_cons, List.map_cons, List.map_nil, List.sum_cons, List.sum_cons, List.sum_nil, add_zero,
      add_assoc]
  others account hothers := by
    rw [List.forall_mem_cons] at hothers
    rw [h'.others account hothers.2, h.others account (by simpa using hothers.1)]
  lists account := by
    rw [h'.lists, h.lists, List.exists_mem_cons_iff, List.exists_mem_cons_iff]
    simp only [List.not_mem_nil, false_and, exists_false, or_false]
    tauto
  sorted hb := h'.sorted (h.sorted hb)

theorem Ledger.perm (h : Ledger b orders b') (hperm : orders.Perm rest) : Ledger b rest b' where
  get account := by rw [h.get, (hperm.map _).sum_eq]
  others account hothers := h.others account fun o ho => hothers o (hperm.subset ho)
  lists account := by
    rw [h.lists]
    simp only [hperm.mem_iff]
  sorted := h.sorted

/-- Two exact adjustments are the booking of an order. -/
theorem Adds.ledger {n : Decimal} (hn : o.notional = .ok n)
    (h : Adds b o.baseAccount (deltas o.side o.amount n).1.toRat b')
    (h' : Adds b' o.quoteAccount (deltas o.side o.amount n).2.toRat b'') : Ledger b [o] b'' where
  get account := by
    rw [h'.get, h.get, List.map_cons, List.map_nil, List.sum_cons, List.sum_nil, add_zero, Order.share_eq hn, add_assoc]
  others account hothers := by
    have hnot := hothers o (List.mem_singleton.2 rfl)
    unfold Order.Touches at hnot
    push Not at hnot
    rw [h'.others account hnot.2, h.others account hnot.1]
  lists account := by
    rw [h'.lists, h.lists]
    simp only [List.mem_singleton, exists_eq_left, Order.Touches]
    tauto
  sorted hb := h'.sorted (h.sorted hb)

/-! ## Room for all orders -/

/-- Whether every account has room for all orders, whatever part of them it gets. -/
structure Room (s : Nat) (b : Balances) (orders : List Order) : Prop where
  scale_le : s ≤ maxScale
  held : ∀ account, OnGrid s (b.get account).toRat
  due : ∀ o ∈ orders, o.OnGrid s
  room : ∀ account, (|(b.get account).toRat| + (orders.map Order.weight).sum) * 10 ^ s < limit

theorem Room.perm (h : Room s b orders) (hperm : orders.Perm rest) : Room s b rest where
  scale_le := h.scale_le
  held := h.held
  due o ho := h.due o (hperm.mem_iff.2 ho)
  room account := by
    rw [← (hperm.map _).sum_eq]
    exact h.room account

theorem sum_weight_nonneg (orders : List Order) : 0 ≤ (orders.map Order.weight).sum := by
  refine List.sum_nonneg fun r hr => ?_
  obtain ⟨o, -, rfl⟩ := List.mem_map.1 hr
  exact o.weight_nonneg

/-- **The booking of an order is exact**, and leaves room for the others. -/
theorem book_exact (h : Room s b (o :: rest)) : ∃ b', b.book o = .ok b' ∧ Ledger b [o] b' ∧ Room s b' rest := by
  obtain ⟨hamount, n, hn, hnotional⟩ := h.due o List.mem_cons_self
  obtain ⟨hbaseAbs, hquoteAbs⟩ := Order.abs_deltas hn
  obtain ⟨hbaseGrid, hquoteGrid⟩ := Order.onGrid_deltas (o := o) hamount hnotional
  have hpow := ten_pow_pos s
  have hrest := sum_weight_nonneg rest
  have hroom : ∀ account, (|(b.get account).toRat| + (|o.amount.toRat| + |o.worth| + (rest.map Order.weight).sum))
      * 10 ^ s < limit := h.room
  obtain ⟨b₁, hbase, hadds⟩ := adjust_exact o.baseAccount h.scale_le (h.held _) hbaseGrid (by
    refine lt_of_le_of_lt (mul_le_mul_of_nonneg_right ?_ hpow.le) (hroom o.baseAccount)
    linarith [abs_nonneg o.worth])
  -- the base account may be the quote account as well
  have hheld : ∀ account, OnGrid s (b₁.get account).toRat ∧
      |(b₁.get account).toRat| ≤ |(b.get account).toRat| + |o.amount.toRat| := by
    intro account
    rw [hadds.get]
    refine ⟨(h.held account).add hbaseGrid.ite, (abs_add_le ..).trans ?_⟩
    split
    · rw [hbaseAbs]
    · rw [abs_zero]
      linarith [abs_nonneg o.amount.toRat]
  obtain ⟨b₂, hquote, hadds'⟩ := adjust_exact o.quoteAccount h.scale_le (hheld _).1 hquoteGrid (by
    refine lt_of_le_of_lt (mul_le_mul_of_nonneg_right ?_ hpow.le) (hroom o.quoteAccount)
    linarith [(hheld o.quoteAccount).2])
  refine ⟨b₂, book_eq_ok.2 ⟨n, b₁, hn, hbase, hquote⟩, hadds.ledger hn hadds', h.scale_le, fun account => ?_,
    fun o' ho' => h.due o' (List.mem_cons_of_mem o ho'), fun account => ?_⟩
  · rw [hadds'.get]
    exact (hheld account).1.add hquoteGrid.ite
  · refine lt_of_le_of_lt (mul_le_mul_of_nonneg_right ?_ hpow.le) (hroom account)
    rw [hadds'.get]
    have hle := abs_add_le (b₁.get account).toRat
      (if account = o.quoteAccount then (deltas o.side o.amount n).2.toRat else 0)
    have hquoteLe : |if account = o.quoteAccount then (deltas o.side o.amount n).2.toRat else 0| ≤ |o.worth| := by
      split
      · rw [hquoteAbs]
      · rw [abs_zero]
        exact abs_nonneg _
    linarith [(hheld account).2]

end Balances

/-! ## Completions in any order -/

namespace Executor

variable {x : Executor} {s : Nat}

/-- **The completion of an order is its exact booking.** The other orders stay, and there is room for them. -/
theorem complete_exact {a : ActiveOrder} (hnodup : (x.active.map (·.number)).Nodup)
    (hroom : Balances.Room s x.balances (x.active.map (·.order))) (ha : a ∈ x.active) :
    ∃ others b', x.active.Perm (a :: others) ∧ x.step (.complete a.number) = { x with active := others, balances := b' } ∧
      Balances.Ledger x.balances [a.order] b' ∧ Balances.Room s b' (others.map (·.order)) := by
  have hcompletes := fill_completes x a.number
  show ∃ others b', _ ∧ (x.fill a.number).2 = _ ∧ _
  rcases hrun : x.fill a.number with ⟨result, x'⟩
  rw [hrun] at hcompletes
  -- an active order is found under its number, so it is the one that is completed
  have hsplit : ∀ before after (c : ActiveOrder), x.active = before ++ c :: after → c.number = a.number →
      c = a ∧ x.active.Perm (a :: (before ++ after)) ∧
        Balances.Room s x.balances (a.order :: (before ++ after).map (·.order)) := by
    intro before after c hactive hnumber
    have hc : c = a := List.inj_on_of_nodup_map hnodup (by simp [hactive]) ha hnumber
    have hperm : x.active.Perm (a :: (before ++ after)) := by
      rw [hactive, hc]
      exact List.perm_middle
    exact ⟨hc, hperm, hroom.perm (hperm.map _)⟩
  cases hcompletes with
  | absent h => exact absurd rfl (h a ha)
  | @broken before after c balances fault hactive hnumber hbook =>
    obtain ⟨rfl, -, hroom'⟩ := hsplit before after c hactive hnumber
    obtain ⟨b', hb', -, -⟩ := Balances.book_exact hroom'
    cases hbook.symm.trans hb'
  | @booked before after c balances hactive hnumber hbook =>
    obtain ⟨rfl, hperm, hroom'⟩ := hsplit before after c hactive hnumber
    obtain ⟨b', hb', hledger, hrest⟩ := Balances.book_exact hroom'
    cases hbook.symm.trans hb'
    refine ⟨before ++ after, balances, hperm, ?_, hledger, hrest⟩
    rw [filter_of_nodup hactive hnodup]

/-- **The run**: when all orders are completed, each has left its share. -/
theorem settle (numbers : List Nat) (hnodup : (x.active.map (·.number)).Nodup)
    (hroom : Balances.Room s x.balances (x.active.map (·.order))) (hperm : numbers.Perm (x.active.map (·.number))) :
    (x.run (numbers.map .complete)).active = [] ∧
      Balances.Ledger x.balances (x.active.map (·.order)) (x.run (numbers.map .complete)).balances := by
  -- the first completed order leaves the active ones, and the rest of the numbers are a permutation of those that stay
  induction numbers generalizing x with
  | nil =>
    have hnone : x.active = [] := List.map_eq_nil_iff.1 hperm.nil_eq.symm
    show x.active = [] ∧ Balances.Ledger x.balances (x.active.map (·.order)) x.balances
    rw [hnone]
    exact ⟨rfl, .refl _⟩
  | cons number rest ih =>
    obtain ⟨a, ha, rfl⟩ := List.mem_map.1 (hperm.subset List.mem_cons_self)
    obtain ⟨others, b', hothers, hstep, hledger, hrest⟩ := complete_exact hnodup hroom ha
    have hnumbers := hothers.map (·.number)
    have hnodup' : (others.map (·.number)).Nodup := (List.nodup_cons.1 (hnumbers.nodup_iff.1 hnodup)).2
    show ((x.step (.complete a.number)).run (rest.map .complete)).active = [] ∧
      Balances.Ledger _ _ ((x.step (.complete a.number)).run (rest.map .complete)).balances
    rw [hstep]
    obtain ⟨hnone, hall⟩ := ih (x := { x with active := others, balances := b' }) hnodup' hrest
      (hperm.trans hnumbers).cons_inv
    exact ⟨hnone, (hledger.cons hall).perm (hothers.map _).symm⟩

end Executor

/-! ## The ledger equation -/

namespace Balances

/-- Whether balances and orders are on a grid of `s` places, and all of them together stay below 96 bits on it. -/
structure Exact (s : Nat) (b : Balances) (orders : List Order) : Prop where
  scale_le : s ≤ maxScale
  held : ∀ e ∈ b.entries, OnGrid s e.amount.toRat
  due : ∀ o ∈ orders, o.OnGrid s
  sum_lt : ((b.entries.map fun e => |e.amount.toRat|).sum + (orders.map Order.weight).sum) * 10 ^ s < limit

/-- No account holds more than all entries together. -/
theorem abs_get_le (b : Balances) (account : Account) :
    |(b.get account).toRat| ≤ (b.entries.map fun e => |e.amount.toRat|).sum := by
  have hnonneg : ∀ r ∈ b.entries.map fun e => |e.amount.toRat|, 0 ≤ r := by
    intro r hr
    obtain ⟨e, -, rfl⟩ := List.mem_map.1 hr
    exact abs_nonneg _
  by_cases hlists : Lists b account
  · have hmem : |(b.get account).toRat| ∈ b.entries.map fun e => |e.amount.toRat| :=
      List.mem_map.2 ⟨_, hlists.mem, rfl⟩
    exact List.single_le_sum hnonneg _ hmem
  · rw [get_of_not_lists hlists, toRat_zero, abs_zero]
    exact List.sum_nonneg hnonneg

theorem Exact.room {s : Nat} {b : Balances} {orders : List Order} (h : Exact s b orders) : Room s b orders := by
  refine ⟨h.scale_le, fun account => ?_, h.due, fun account => lt_of_le_of_lt ?_ h.sum_lt⟩
  · by_cases hlists : Lists b account
    · exact h.held _ hlists.mem
    · rw [get_of_not_lists hlists, toRat_zero]
      exact onGrid_zero s
  · have hle := abs_get_le b account
    exact mul_le_mul_of_nonneg_right (by linarith) (ten_pow_pos s).le

/-- Decimals with at most `s` places are on the grid of `s` places. -/
theorem Exact.of_scale_le {s : Nat} {b : Balances} {orders : List Order} (hs : s ≤ maxScale)
    (hheld : ∀ e ∈ b.entries, e.amount.scale ≤ s) (hamount : ∀ o ∈ orders, o.amount.scale ≤ s)
    (hnotional : ∀ o ∈ orders, ∃ n, o.notional = .ok n ∧ n.scale ≤ s)
    (hsum : ((b.entries.map fun e => |e.amount.toRat|).sum + (orders.map Order.weight).sum) * 10 ^ s < limit) :
    Exact s b orders := by
  refine ⟨hs, fun e he => onGrid_of_scale_le (hheld e he), fun o ho => ⟨onGrid_of_scale_le (hamount o ho), ?_⟩, hsum⟩
  obtain ⟨n, hn, hscale⟩ := hnotional o ho
  exact ⟨n, hn, onGrid_of_scale_le hscale⟩

/-- What balances are after some orders, if they come from settings. -/
structure Settled (sets : List AssetBalance) (orders : List Order) (b : Balances) : Prop where
  /-- Every account holds what it was set to and what the orders have given it. -/
  get : ∀ account, (b.get account).toRat = ((ofSets sets).get account).toRat + (orders.map (·.share account)).sum
  /-- An account of no order is not changed at all. -/
  others : ∀ account, (∀ o ∈ orders, ¬ o.Touches account) → b.get account = (ofSets sets).get account
  /-- The listing strictly increases, so that no account is in it twice. -/
  sorted : Sorted b
  /-- It has the accounts that were set or belong to an order, -/
  lists : ∀ account, Lists b account ↔ (∃ e ∈ sets, e.account = account) ∨ ∃ o ∈ orders, o.Touches account
  /-- each with what it holds. -/
  shown : ∀ e ∈ b.entries, b.get e.account = e.amount

theorem Ledger.settled {sets : List AssetBalance} {orders : List Order} {b : Balances}
    (h : Ledger (ofSets sets) orders b) : Settled sets orders b where
  get := h.get
  others := h.others
  sorted := h.sorted (sorted_ofSets sets)
  lists account := by rw [h.lists, lists_ofSets]
  shown _ he := (h.sorted (sorted_ofSets sets)).get_of_mem he

/-- Whether two listings have the same accounts with the same amounts, however these are written. -/
def Agree (b b' : Balances) : Prop :=
  List.Forall₂ (fun e f => e.account = f.account ∧ e.amount ≈ f.amount) b.entries b'.entries

/-- Two strictly increasing listings of the same accounts are alike. -/
theorem Sorted.accounts_eq {b b' : Balances} (h : Sorted b) (h' : Sorted b')
    (hlists : ∀ account, Lists b account ↔ Lists b' account) : b.entries.map (·.account) = b'.entries.map (·.account) := by
  have hmem : ∀ account, account ∈ b.entries.map (·.account) ↔ account ∈ b'.entries.map (·.account) := by
    intro account
    rw [List.mem_map, List.mem_map]
    exact hlists account
  have hpairwise : (b.entries.map (·.account)).Pairwise fun e f => e.before f = true := List.pairwise_map.2 h
  have hpairwise' : (b'.entries.map (·.account)).Pairwise fun e f => e.before f = true := List.pairwise_map.2 h'
  refine List.Perm.eq_of_pairwise (fun e f _ _ hef hfe => ?_) hpairwise hpairwise'
    ((List.perm_ext_iff_of_nodup h.nodup h'.nodup).2 hmem)
  exact absurd (Account.before_trans hef hfe) (Account.before_irrefl e)

/-- What is settled alike agrees. -/
theorem Settled.agree {sets : List AssetBalance} {orders : List Order} {b b' : Balances} (h : Settled sets orders b)
    (h' : Settled sets orders b') : Agree b b' := by
  have haccounts := h.sorted.accounts_eq h'.sorted fun account => (h.lists account).trans (h'.lists account).symm
  have hforall : List.Forall₂ (· = ·) (b.entries.map (·.account)) (b'.entries.map (·.account)) := by
    rw [List.forall₂_eq_eq_eq]
    exact haccounts
  obtain ⟨hlength, hzip⟩ := List.forall₂_iff_zip.1 (List.forall₂_map_right_iff.1 (List.forall₂_map_left_iff.1 hforall))
  refine List.forall₂_iff_zip.2 ⟨hlength, fun {e f} hef => ⟨hzip hef, ?_⟩⟩
  obtain ⟨he, hf⟩ := List.of_mem_zip hef
  rw [← toRat_inj, ← h.shown e he, ← h'.shown f hf, hzip hef, h.get, h'.get]

end Balances

/-- **The ledger equation.** Whatever the starting balances are, whatever orders are pending, and in whatever order these
are completed: as long as all of that is on a grid and small enough together, every order ends as completed and leaves
each account exactly its share, and two orders of completion leave the same listing. -/
theorem Executor.ledger_equation (sets : List AssetBalance) (active : List ActiveOrder) (next s : Nat)
    (hnumbers : (active.map (·.number)).Nodup)
    (hexact : Balances.Exact s (.ofSets sets) (active.map (·.order))) (numbers : List Nat)
    (hperm : numbers.Perm (active.map (·.number))) :
    (run ⟨.ofSets sets, active, next⟩ (numbers.map .complete)).active = [] ∧
      Balances.Settled sets (active.map (·.order)) (run ⟨.ofSets sets, active, next⟩ (numbers.map .complete)).balances ∧
      ∀ numbers' : List Nat, numbers'.Perm (active.map (·.number)) →
        Balances.Agree (run ⟨.ofSets sets, active, next⟩ (numbers.map .complete)).balances
          (run ⟨.ofSets sets, active, next⟩ (numbers'.map .complete)).balances := by
  have hsettle : ∀ numbers : List Nat, numbers.Perm (active.map (·.number)) →
      (run ⟨.ofSets sets, active, next⟩ (numbers.map .complete)).active = [] ∧
        Balances.Ledger (.ofSets sets) (active.map (·.order))
          (run ⟨.ofSets sets, active, next⟩ (numbers.map .complete)).balances :=
    fun numbers => settle (x := ⟨.ofSets sets, active, next⟩) numbers hnumbers hexact.room
  obtain ⟨hnone, hledger⟩ := hsettle numbers hperm
  exact ⟨hnone, hledger.settled, fun numbers' hperm' => hledger.settled.agree (hsettle numbers' hperm').2.settled⟩

/-- Starting balances, not in the order of accounts. -/
def crowdedSets : List AssetBalance :=
  [⟨⟨"kraken", "XRP"⟩, 10⟩, ⟨⟨"binance", "USDT"⟩, 1000⟩, ⟨⟨"binance", "BTC"⟩, ⟨false, 35, 1, by decide, by decide⟩⟩]

/-- Four orders: two of them share an asset, one trades an asset for itself, and one has a pair without a dash. -/
def crowdedOrders : List ActiveOrder :=
  [⟨1, .taker ⟨"binance", "BTC-USDT"⟩ .buy ⟨false, 15, 1, by decide, by decide⟩ 600, 0⟩,
    ⟨2, .taker ⟨"binance", "BTC-EUR"⟩ .sell 2 550, 0⟩,
    ⟨3, .taker ⟨"binance", "USDT-USDT"⟩ .buy 3 ⟨false, 125, 2, by decide, by decide⟩, 0⟩,
    ⟨4, .taker ⟨"kraken", "XRP"⟩ .sell 4 ⟨false, 25, 2, by decide, by decide⟩, 0⟩]

/-- The orders of `crowdedOrders` are on the grid of two places, so they can be completed in two different orders. -/
theorem Executor.ledger_equation_crowded :
    (crowdedOrders.map (·.number)).Nodup ∧
      Balances.Exact 2 (.ofSets crowdedSets) (crowdedOrders.map (·.order)) ∧
      Balances.Settled crowdedSets (crowdedOrders.map (·.order))
        (run ⟨.ofSets crowdedSets, crowdedOrders, 5⟩ ([3, 1, 4, 2].map .complete)).balances ∧
      Balances.Agree (run ⟨.ofSets crowdedSets, crowdedOrders, 5⟩ ([3, 1, 4, 2].map .complete)).balances
        (run ⟨.ofSets crowdedSets, crowdedOrders, 5⟩ ([1, 2, 3, 4].map .complete)).balances := by
  have hnumbers : (crowdedOrders.map (·.number)).Nodup := by decide +kernel
  have hnotional : ∀ o ∈ crowdedOrders.map (·.order), ∃ n, o.notional = .ok n ∧ n.scale ≤ 2 := by
    have hscales : ∀ o ∈ crowdedOrders.map (·.order), o.notional.toOption.any (fun n => decide (n.scale ≤ 2)) = true := by
      decide +kernel
    intro o ho
    have hscale := hscales o ho
    cases hn : o.notional with
    | error f =>
      rw [hn] at hscale
      cases hscale
    | ok n =>
      rw [hn] at hscale
      exact ⟨n, rfl, of_decide_eq_true hscale⟩
  have hexact : Balances.Exact 2 (.ofSets crowdedSets) (crowdedOrders.map (·.order)) :=
    .of_scale_le (by decide) (by decide +kernel) (by decide +kernel) hnotional (by decide +kernel)
  obtain ⟨-, hsettled, hagree⟩ := ledger_equation crowdedSets crowdedOrders 5 2 hnumbers hexact [3, 1, 4, 2] (by decide +kernel)
  exact ⟨hnumbers, hexact, hsettled, hagree [1, 2, 3, 4] (by decide +kernel)⟩

end TwoVenue
