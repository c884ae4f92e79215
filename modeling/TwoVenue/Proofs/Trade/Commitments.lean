import TwoVenue.Proofs.Trade.Overdraft

/-!
# What accepted orders are paid with

The check of a batch looks at every order on its own and at what the accounts hold at that time. What earlier orders of
the batch and pending orders will take is not set aside, so two orders can be accepted on the same money.

- `Executor.commitments`: what pending orders will take from an account. `Covers`: an account holds all of that.
- `Executor.Reserved`: every account holds its commitments. `Reserved.fill`: **completions keep it so**, in any order.
  `Reserved.submit` is the step lemma for batches and `Reserved.run` the run lemma.
- `nonNegative_iff_paid`: the histories in which no balance is ever negative. `overdrawn_by_one_batch`: one that is
  none of them.
-/

namespace TwoVenue

open Decimal

/-! ## What is set aside -/

/-- What an order will take from an account, if it takes from it. -/
def Order.takes (o : Order) (account : Account) : Option Decimal :=
  match Balances.required o with
  | .ok (payer, amount) => if payer = account then some amount else none
  | .error _ => none

/-- The sum of some amounts, as it is. -/
def total (due : List Decimal) : Rat := (due.map toRat).sum

/-- Whether amounts add up without rounding, and an account holds their sum. -/
structure Covers (held : Decimal) (due : List Decimal) : Prop where
  exact_sum : ∃ s ≤ maxScale, (∀ d ∈ due, d.scale ≤ s) ∧ total due * 10 ^ s < limit
  total_le : total due ≤ held.toRat

section Covers

variable {held d : Decimal} {due due' : List Decimal}

@[simp] theorem total_nil : total [] = 0 := rfl

@[simp] theorem total_cons (d : Decimal) (due : List Decimal) : total (d :: due) = d.toRat + total due := by
  unfold total
  rw [List.map_cons, List.sum_cons]

theorem total_append (due due' : List Decimal) : total (due ++ due') = total due + total due' := by
  unfold total
  rw [List.map_append, List.sum_append]

theorem total_nonneg (h : ∀ d ∈ due, 0 ≤ d) : 0 ≤ total due := by
  refine List.sum_nonneg fun r hr => ?_
  obtain ⟨d, hd, rfl⟩ := List.mem_map.1 hr
  exact toRat_nonneg.2 (h d hd)

theorem total_le_of_sublist (hsub : due'.Sublist due) (h : ∀ d ∈ due, 0 ≤ d) : total due' ≤ total due := by
  induction hsub with
  | slnil => exact le_rfl
  | cons d _ ih =>
    rw [total_cons]
    have hd := toRat_nonneg.2 (h d (by simp))
    linarith [ih fun d' hd' => h d' (by simp [hd'])]
  | cons_cons d _ ih =>
    rw [total_cons, total_cons]
    linarith [ih fun d' hd' => h d' (by simp [hd'])]

/-- On a grid that all amounts are on, their sum is an integer. -/
theorem total_mul_pow {s : Nat} (h : ∀ d ∈ due, d.scale ≤ s) : ∃ n : Int, total due * 10 ^ s = n := by
  induction due with
  | nil => exact ⟨0, by simp⟩
  | cons d due ih =>
    obtain ⟨n, hn⟩ := ih fun d' hd' => h d' (by simp [hd'])
    refine ⟨d.signed * tenPow (s - d.scale) + n, ?_⟩
    rw [total_cons, add_mul, hn, mul_pow_of_le d (h d (by simp)), Int.cast_add]

/-- An account that covers amounts holds a sum that no rounding changes. -/
theorem Covers.nearest_total (h : Covers held due) (hdue : ∀ d ∈ due, 0 ≤ d) : nearest (total due) = total due := by
  obtain ⟨s, hs, hscale, hlimit⟩ := h.exact_sum
  obtain ⟨n, hn⟩ := total_mul_pow hscale
  refine nearest_eq_self hs (fits_of_lt hn ?_) hn
  rwa [abs_of_nonneg (total_nonneg hdue)]

/-- Whoever covers amounts covers some of them. -/
theorem Covers.sublist (h : Covers held due) (hdue : ∀ d ∈ due, 0 ≤ d) (hsub : due'.Sublist due) {held' : Decimal}
    (hheld : total due' ≤ held'.toRat) : Covers held' due' := by
  obtain ⟨s, hs, hscale, hlimit⟩ := h.exact_sum
  refine ⟨⟨s, hs, fun d hd => hscale d (hsub.subset hd), lt_of_le_of_lt ?_ hlimit⟩, hheld⟩
  exact mul_le_mul_of_nonneg_right (total_le_of_sublist hsub hdue) (ten_pow_pos s).le

theorem covers_nil (h : 0 ≤ held) : Covers held [] :=
  ⟨⟨0, Nat.zero_le _, fun d hd => absurd hd List.not_mem_nil, by rw [total_nil, limit_cast]; norm_num⟩,
    toRat_nonneg.2 h⟩

/-- A single amount needs no exact sum. -/
theorem covers_singleton (hd : 0 ≤ d) (h : d ≤ held) : Covers held [d] := by
  refine ⟨⟨d.scale, d.scale_le, fun d' hd' => by rw [List.mem_singleton.1 hd'], ?_⟩, ?_⟩
  · rw [total_cons, total_nil, add_zero, ← abs_of_nonneg (toRat_nonneg.2 hd), abs_toRat_mul_pow_scale]
    exact_mod_cast d.mantissa_lt
  · rw [total_cons, total_nil, add_zero]
    exact toRat_le_toRat.2 h

end Covers

/-! ## One order -/

namespace Order

variable {o : Order} {account : Account} {d : Decimal}

theorem takes_eq_some :
    o.takes account = some d ↔ Balances.required o = .ok (account, d) := by
  unfold takes
  constructor
  · intro h
    split at h
    · next payer amount hrequired =>
      split at h
      · next hpayer =>
        cases h
        rw [hrequired, hpayer]
      · cases h
    · cases h
  · intro h
    rw [h]
    exact if_pos rfl

theorem takes_nonneg (ho : o.check = .ok ()) (h : o.takes account = some d) : 0 ≤ d := by
  rw [takes_eq_some] at h
  unfold Balances.required at h
  dsimp only at h
  split at h
  · obtain ⟨n, hn, h⟩ := Outcome.bind_eq_ok.1 h
    cases h
    exact notional_nonneg ho hn
  · cases h
    exact (check_eq_ok.1 ho).2.2.2.le

theorem takes_of_buy {n : Decimal} (hside : o.side = .buy) (hn : o.notional = .ok n) :
    o.takes o.quoteAccount = some n := by
  rw [takes_eq_some]
  unfold Balances.required
  rw [hside, hn]
  rfl

theorem takes_of_sell (hside : o.side = .sell) : o.takes o.baseAccount = some o.amount := by
  rw [takes_eq_some]
  unfold Balances.required
  rw [hside]
  rfl

section Booked

variable {b b' : Balances} {r : Rat}

/-- Whatever an order takes, a bound with it is a bound without it. -/
theorem le_of_add_takes_le {x : Rat} (ho : o.check = .ok ()) (hle : r + (o.takes account).elim 0 toRat ≤ x) : r ≤ x := by
  cases htakes : o.takes account with
  | none =>
    rw [htakes] at hle
    simpa using hle
  | some d =>
    rw [htakes] at hle
    have := toRat_nonneg.2 (takes_nonneg ho htakes)
    dsimp only [Option.elim] at hle
    linarith

/-- What a payment leaves on an account. -/
theorem le_get_of_paid {payer : Account} (h : Balances.Adjusted b payer (-d) b') (ho : o.check = .ok ())
    (htakes : o.takes payer = some d) (hr : nearest r = r)
    (hle : r + (o.takes account).elim 0 toRat ≤ (b.get account).toRat) : r ≤ (b'.get account).toRat := by
  refine h.le_get hr ?_
  by_cases haccount : account = payer
  · rw [haccount, htakes] at hle
    dsimp only [Option.elim] at hle
    rw [if_pos haccount, haccount, toRat_neg]
    linarith
  · rw [if_neg haccount, add_zero]
    exact le_of_add_takes_le ho hle

/-- What a fill leaves on an account, as long as the order takes no more than the rest. -/
theorem le_get_of_booked (h : Balances.Booked b o b') (ho : o.check = .ok ()) (hr : nearest r = r)
    (hle : r + (o.takes account).elim 0 toRat ≤ (b.get account).toRat) : r ≤ (b'.get account).toRat := by
  have hamount := (check_eq_ok.1 ho).2.2.2.le
  have hlow := le_of_add_takes_le ho hle
  cases h with
  | unpriced => exact hlow
  | noBase => exact hlow
  | @noQuote n _ hnotional hbase hquote =>
    cases hside : o.side with
    | buy =>
      rw [hside] at hbase
      exact le_trans hlow ((Balances.adjust_spec hbase).get_le hamount account)
    | sell =>
      rw [hside] at hbase
      exact le_get_of_paid (Balances.adjust_spec hbase) ho (takes_of_sell hside) hr hle
  | @both n b₁ _ hnotional hbase hquote =>
    cases hside : o.side with
    | buy =>
      rw [hside] at hbase hquote
      have hgain := (Balances.adjust_spec hbase).get_le hamount account
      exact le_get_of_paid (Balances.adjust_spec hquote) ho (takes_of_buy hside hnotional) hr (le_trans hle hgain)
    | sell =>
      rw [hside] at hbase hquote
      have hpaid := le_get_of_paid (Balances.adjust_spec hbase) ho (takes_of_sell hside) hr hle
      exact le_trans hpaid ((Balances.adjust_spec hquote).get_le (notional_nonneg ho hnotional) account)

end Booked

end Order

/-! ## Executors -/

namespace Executor

variable {x x' : Executor} {clock : Nat → Instant} {orders : List Order} {entered : List ActiveOrder}

/-- What the pending orders will take from an account. -/
def commitments (x : Executor) (account : Account) : List Decimal := x.active.filterMap (·.order.takes account)

/-- Whether every account holds what the pending orders will take from it. -/
def Reserved (x : Executor) : Prop := ∀ account, Covers (x.balances.get account) (x.commitments account)

theorem Orderly.commitments_nonneg (hx : Orderly x) (account : Account) : ∀ d ∈ x.commitments account, 0 ≤ d := by
  intro d hd
  obtain ⟨a, ha, htakes⟩ := List.mem_filterMap.1 hd
  exact Order.takes_nonneg (hx.checked a ha) htakes

theorem Reserved.nonNegative (h : Reserved x) (hx : Orderly x) : x.balances.NonNegative := fun account =>
  toRat_nonneg.1 (le_trans (total_nonneg (hx.commitments_nonneg account)) (h account).total_le)

/-- A completed order gives up what is set aside for it, and the orders that stay are among the others. -/
theorem commitments_fill {number : Nat} {a : ActiveOrder} (h : x.active.find? (·.number == number) = some a)
    (account : Account) :
    ∃ others, ((x.fill number).2.commitments account).Sublist others ∧ others.Sublist (x.commitments account) ∧
      total others + (a.order.takes account).elim 0 toRat = total (x.commitments account) := by
  obtain ⟨hnumber, before, after, hactive, -⟩ := List.find?_eq_some_iff_append.1 h
  have hsplit : x.commitments account
      = before.filterMap (·.order.takes account) ++ ((a.order.takes account).toList ++
        after.filterMap (·.order.takes account)) := by
    unfold commitments
    rw [hactive, List.filterMap_append, List.filterMap_cons]
    cases a.order.takes account <;> rfl
  refine ⟨(before ++ after).filterMap (·.order.takes account), ?_, ?_, ?_⟩
  · rw [fill_of_find h]
    refine List.Sublist.filterMap _ ?_
    dsimp only
    rw [hactive, List.filter_append, List.filter_cons, if_neg (by simpa using hnumber)]
    exact List.filter_sublist.append List.filter_sublist
  · rw [hsplit, List.filterMap_append]
    exact (List.Sublist.refl _).append (List.sublist_append_right _ _)
  · rw [hsplit, List.filterMap_append, total_append, total_append, total_append]
    cases a.order.takes account with
    | none => simp
    | some d =>
      simp only [Option.elim, Option.toList, total_cons, total_nil]
      ring

/-- **A completion leaves the other orders what is set aside for them.** -/
theorem Reserved.fill (h : Reserved x) (hx : Orderly x) (number : Nat) : Reserved (x.fill number).2 := by
  cases hfind : x.active.find? (·.number == number) with
  | none =>
    rw [fill_of_not_found hfind]
    exact h
  | some a =>
    intro account
    obtain ⟨others, hstay, hothers, htotal⟩ := commitments_fill hfind account
    have hdue := hx.commitments_nonneg account
    have hle := total_le_of_sublist hstay fun d hd => hdue d (hothers.subset hd)
    have hcovers : Covers (x.balances.get account) _ := (h account).sublist hdue (hstay.trans hothers)
      (le_trans (total_le_of_sublist (hstay.trans hothers) hdue) (h account).total_le)
    have hbooked := Balances.applyFill_booked x.balances a.order
    refine (h account).sublist hdue (hstay.trans hothers) ?_
    have hbalances : (x.fill number).2.balances = (x.balances.applyFill a.order.connector a.order.tradingPair
        a.order.side a.order.amount a.order.price).2 := by rw [fill_of_find hfind]
    rw [hbalances]
    refine Order.le_get_of_booked hbooked (hx.checked a (List.mem_of_find?_eq_some hfind))
      (hcovers.nearest_total fun d hd => hdue d ((hstay.trans hothers).subset hd)) ?_
    linarith [(h account).total_le]

theorem commitments_submit (h : x.submit clock orders = .ok (entered, x')) (account : Account) :
    x'.balances = x.balances ∧ x'.commitments account = x.commitments account ++ orders.filterMap (·.takes account) := by
  obtain ⟨-, rfl, rfl⟩ := submit_eq_ok.1 h
  refine ⟨rfl, ?_⟩
  unfold commitments
  rw [List.filterMap_append]
  congr 1
  conv_rhs => rw [← enter_orders clock orders x.nextNumber, List.filterMap_map]
  rfl

/-- **A batch may be accepted on what is left**: the check is enough for an account that pays for one order, and where
one pays for several of them it has to hold the sum. -/
theorem Reserved.submit (hx : Reserved x) (h : x.submit clock orders = .ok (entered, x'))
    (hseveral : ∀ account, 2 ≤ (x'.commitments account).length →
      Covers (x'.balances.get account) (x'.commitments account)) : Reserved x' := by
  intro account
  by_cases hlength : 2 ≤ (x'.commitments account).length
  · exact hseveral account hlength
  · obtain ⟨hbalances, hcommitments⟩ := commitments_submit h account
    obtain ⟨haccepts, -, -⟩ := submit_eq_ok.1 h
    rw [hbalances, hcommitments]
    rw [hcommitments, List.length_append] at hlength
    cases hnew : orders.filterMap (·.takes account) with
    | nil =>
      rw [List.append_nil]
      exact hx account
    | cons d rest =>
      rw [hnew, List.length_cons] at hlength
      have hold : x.commitments account = [] := List.eq_nil_of_length_eq_zero (by omega)
      have hrest : rest = [] := List.eq_nil_of_length_eq_zero (by omega)
      rw [hold, hrest, List.nil_append]
      have hmem : d ∈ orders.filterMap (·.takes account) := by
        rw [hnew]
        exact List.mem_cons_self
      obtain ⟨o, hmemo, htakes⟩ := List.mem_filterMap.1 hmem
      obtain ⟨hcheck, hfunds⟩ := accepts_eq_ok.1 (haccepts o hmemo)
      obtain ⟨payer, amount, hrequired, hle⟩ := Balances.checkFunds_eq_ok.1 hfunds
      cases hrequired.symm.trans (Order.takes_eq_some.1 htakes)
      exact covers_singleton (Order.takes_nonneg hcheck htakes) hle

/-! ## Histories -/

/-- The executor whose venues have been given amounts. -/
def funded (funds : List (Venue × Decimal × Decimal)) : Executor :=
  funds.foldl (fun x f => x.fund f.1 f.2.1 f.2.2) empty

theorem funded_concat (funds : List (Venue × Decimal × Decimal)) (f : Venue × Decimal × Decimal) :
    funded (funds ++ [f]) = (funded funds).fund f.1 f.2.1 f.2.2 := by
  unfold funded
  rw [List.foldl_append]
  rfl

theorem funded_active (funds : List (Venue × Decimal × Decimal)) : (funded funds).active = [] := by
  induction funds using List.reverseRecOn with
  | nil => rfl
  | append_singleton funds f ih =>
    rw [funded_concat]
    exact ih

theorem funded_nonNegative {funds : List (Venue × Decimal × Decimal)} (h : ∀ f ∈ funds, 0 ≤ f.2.1 ∧ 0 ≤ f.2.2) :
    (funded funds).balances.NonNegative := by
  induction funds using List.reverseRecOn with
  | nil => exact Balances.nonNegative_empty
  | append_singleton funds f ih =>
    rw [funded_concat]
    have hf := h f (by simp)
    exact (ih fun f' hf' => h f' (by simp [hf'])).fund hf.1 hf.2

theorem fill_nonNegative_iff (hx : Orderly x) (hb : x.balances.NonNegative) {number : Nat} {a : ActiveOrder}
    (h : x.active.find? (·.number == number) = some a) :
    (x.fill number).2.balances.NonNegative ↔ x.balances.Pays a.order := by
  rw [fill_of_find h]
  exact (Balances.applyFill_booked x.balances a.order).nonNegative_iff hb
    (hx.checked a (List.mem_of_find?_eq_some h))

theorem step_submit_balances (x : Executor) (clock : Nat → Instant) (orders : List Order) :
    (x.step (.submit clock orders)).balances = x.balances := by
  unfold step
  dsimp only
  split
  · next h =>
    obtain ⟨-, -, rfl⟩ := submit_eq_ok.1 h
    rfl
  · rfl

/-- **The run of a history whose orders are paid for.** The invariant is the conclusion itself. -/
theorem run_nonNegative (hx : Orderly x) (hb : x.balances.NonNegative) {history : List Step}
    (hpays : ∀ past number a, past ++ [.complete number] <+: history →
      (x.run past).active.find? (·.number == number) = some a → (x.run past).balances.Pays a.order) :
    ∀ past, past <+: history → (x.run past).balances.NonNegative := by
  intro past
  induction past using List.reverseRecOn with
  | nil => exact fun _ => hb
  | append_singleton past s ih =>
    intro hpast
    have hbefore := ih ((List.prefix_append _ _).trans hpast)
    rw [run_concat]
    cases s with
    | submit clock orders =>
      rw [step_submit_balances]
      exact hbefore
    | complete number =>
      unfold step
      dsimp only
      cases hfind : (x.run past).active.find? (·.number == number) with
      | none =>
        rw [fill_of_not_found hfind]
        exact hbefore
      | some a => exact (fill_nonNegative_iff (hx.run past) hbefore hfind).2 (hpays past number a hpast hfind)

/-- **The run of a history whose batches leave enough.** The invariant is that everything is set aside. -/
theorem Reserved.run (hr : Reserved x) (hx : Orderly x) {history : List Step}
    (hseveral : ∀ past clock orders entered x', past ++ [.submit clock orders] <+: history →
      (x.run past).submit clock orders = .ok (entered, x') →
      ∀ account, 2 ≤ (x'.commitments account).length → Covers (x'.balances.get account) (x'.commitments account)) :
    ∀ past, past <+: history → Reserved (x.run past) := by
  intro past
  induction past using List.reverseRecOn with
  | nil => exact fun _ => hr
  | append_singleton past s ih =>
    intro hpast
    have hbefore := ih ((List.prefix_append _ _).trans hpast)
    rw [run_concat]
    cases s with
    | submit clock orders =>
      unfold step
      dsimp only
      split
      · next entered x' h => exact hbefore.submit h (hseveral past clock orders entered x' hpast h)
      · exact hbefore
    | complete number => exact hbefore.fill (hx.run past) number

/-- **When accepted orders are paid for.** Along a history of an executor that was funded with non-negative amounts, no
balance is ever negative exactly if every order finds what its fill takes at the time of its completion. That is so if
every accepted batch leaves each account that pays for several pending orders with at least their sum, in exact
numbers; for accounts that pay for one pending order the check of the batch is enough. -/
theorem nonNegative_iff_paid (funds : List (Venue × Decimal × Decimal)) (hfunds : ∀ f ∈ funds, 0 ≤ f.2.1 ∧ 0 ≤ f.2.2)
    (history : List Step) :
    ((∀ past, past <+: history → ((funded funds).run past).balances.NonNegative) ↔
      ∀ past number a, past ++ [.complete number] <+: history →
        ((funded funds).run past).active.find? (·.number == number) = some a →
        ((funded funds).run past).balances.Pays a.order) ∧
    ((∀ past clock orders entered x', past ++ [.submit clock orders] <+: history →
        ((funded funds).run past).submit clock orders = .ok (entered, x') →
        ∀ account, 2 ≤ (x'.commitments account).length →
          Covers (x'.balances.get account) (x'.commitments account)) →
      ∀ past, past <+: history → ((funded funds).run past).balances.NonNegative) := by
  have hx : Orderly (funded funds) := orderly_of_not_active (funded_active funds)
  have hb : (funded funds).balances.NonNegative := funded_nonNegative hfunds
  refine ⟨⟨fun hall past number a hpast hfind => ?_, run_nonNegative hx hb⟩, fun hseveral past hpast => ?_⟩
  · have hbefore := hall past ((List.prefix_append _ _).trans hpast)
    have hafter := hall _ hpast
    rw [run_concat] at hafter
    exact (fill_nonNegative_iff (hx.run past) hbefore hfind).1 hafter
  · have hreserved : Reserved (funded funds) := by
      intro account
      unfold commitments
      rw [funded_active]
      exact covers_nil (hb account)
    exact (hreserved.run hx hseveral past hpast).nonNegative (hx.run past)

/-- One venue with 10 units of the base asset and 1000 units of the quote asset. -/
def oneVenue : List (Venue × Decimal × Decimal) := [(⟨"binance", "BTC-USDT"⟩, 10, 1000)]

/-- A batch of two purchases for 600 each, both of them completed. -/
def spentTwice : List Step :=
  [.submit (fun _ => 0) [.taker ⟨"binance", "BTC-USDT"⟩ .buy 1 600, .taker ⟨"binance", "BTC-USDT"⟩ .buy 1 600],
    .complete 1, .complete 2]

/-- Some completion of `spentTwice` does not find its money, since the account ends overdrawn. -/
theorem nonNegative_iff_paid_spentTwice :
    (∀ f ∈ oneVenue, 0 ≤ f.2.1 ∧ 0 ≤ f.2.2) ∧
      ∃ past number a, past ++ [.complete number] <+: spentTwice ∧
        ((funded oneVenue).run past).active.find? (·.number == number) = some a ∧
        ¬ ((funded oneVenue).run past).balances.Pays a.order := by
  have hfunds : ∀ f ∈ oneVenue, 0 ≤ f.2.1 ∧ 0 ≤ f.2.2 := by decide +kernel
  have hoverdrawn : ((funded oneVenue).run spentTwice).balances.get ⟨"binance", "USDT"⟩ < 0 := by decide +kernel
  refine ⟨hfunds, ?_⟩
  by_contra hpaid
  push Not at hpaid
  have hall := (nonNegative_iff_paid oneVenue hfunds spentTwice).1.2 hpaid
  exact absurd (hall spentTwice (List.prefix_refl _) _) (Decimal.not_le.2 hoverdrawn)

/-- The check accepts both orders of a batch on the same money: each costs 600, the account holds 1000, and the two
completions leave it with 200 less than nothing. -/
theorem overdrawn_by_one_batch :
    (∀ f ∈ oneVenue, 0 ≤ f.2.1 ∧ 0 ≤ f.2.2) ∧
      ((funded oneVenue).run spentTwice).balances.get ⟨"binance", "USDT"⟩ ≈ -200 ∧
      ¬ ((funded oneVenue).run spentTwice).balances.NonNegative := by
  have hbalance : ((funded oneVenue).run spentTwice).balances.get ⟨"binance", "USDT"⟩ ≈ -200 := by decide +kernel
  have hoverdrawn : ((funded oneVenue).run spentTwice).balances.get ⟨"binance", "USDT"⟩ < 0 := by decide +kernel
  exact ⟨by decide +kernel, hbalance, fun h => absurd (h _) (Decimal.not_le.2 hoverdrawn)⟩

end Executor

end TwoVenue
