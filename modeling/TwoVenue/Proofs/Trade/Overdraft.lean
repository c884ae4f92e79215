import TwoVenue.Proofs.Trade.Accounts
import TwoVenue.Proofs.Trade.History

/-!
# Overdrawing an account

A fill first changes the base account of its order and then the quote account, and it breaks off where arithmetic
fails. All of that together overdraws an account only if the order does not find what it takes.

- `Balances.Pays`: an order finds what its fill takes.
- `Booked.nonNegative_iff`: **a fill overdraws no account exactly if it does**. The two sides of a trade, and the sale
  of an asset for itself, are lemmas of their own.
-/

namespace TwoVenue

open Decimal

theorem Order.notional_nonneg {o : Order} {n : Decimal} (ho : o.check = .ok ()) (hn : o.notional = .ok n) : 0 ≤ n := by
  obtain ⟨-, -, hprice, hamount⟩ := Order.check_eq_ok.1 ho
  rw [← toRat_nonneg, mul_toRat hn]
  exact nearest_nonneg (mul_nonneg (toRat_pos.2 hamount).le (toRat_pos.2 hprice).le)

namespace Balances

/-- Whether an order finds what its fill takes: a buy its notional on the quote account, a sell its amount on the base
account. Where both are one account, what the fill gives counts too. A fill that breaks off before it takes anything
needs nothing. -/
def Pays (b : Balances) (o : Order) : Prop :=
  ∀ n b₁, o.notional = .ok n → b.adjust o.baseAccount (deltas o.side o.amount n).1 = .ok b₁ →
    match o.side with
    | .buy => n ≤ b₁.get o.quoteAccount
    | .sell => if o.baseAccount = o.quoteAccount then -n ≤ b₁.get o.quoteAccount else o.amount ≤ b.get o.baseAccount

variable {b b' : Balances} {o : Order}

theorem le_iff_add_neg_nonneg (a c : Decimal) : c ≤ a ↔ 0 ≤ a.toRat + (-c).toRat := by
  rw [toRat_neg, ← sub_eq_add_neg, sub_nonneg, toRat_le_toRat]

/-- A fill that has broken off before the base account was changed. -/
theorem pays_of_not_adjusted
    (h : ∀ n b₁, o.notional = .ok n → b.adjust o.baseAccount (deltas o.side o.amount n).1 ≠ .ok b₁) : Pays b o :=
  fun n b₁ hn hbase => absurd hbase (h n b₁ hn)

/-- What a fill asks for once its base account is changed. -/
theorem pays_iff {n : Decimal} {b₁ : Balances} (hn : o.notional = .ok n)
    (hbase : b.adjust o.baseAccount (deltas o.side o.amount n).1 = .ok b₁) :
    Pays b o ↔
      match o.side with
      | .buy => n ≤ b₁.get o.quoteAccount
      | .sell =>
        if o.baseAccount = o.quoteAccount then -n ≤ b₁.get o.quoteAccount else o.amount ≤ b.get o.baseAccount := by
  unfold Pays
  constructor
  · exact fun h => h n b₁ hn hbase
  · intro h n' b₁' hn' hbase'
    cases hn.symm.trans hn'
    cases hbase.symm.trans hbase'
    exact h

/-- The purchase: the base account gains, then the quote account pays. -/
theorem nonNegative_iff_of_buy {n : Decimal} {b₁ : Balances} (hb : NonNegative b) (hn : 0 ≤ n) (hamount : 0 ≤ o.amount)
    (hbase : Adjusted b o.baseAccount o.amount b₁) :
    NonNegative b₁ ∧ (∃ b₂, b₁.adjust o.quoteAccount (-n) = .ok b₂) ∧
      ∀ b₂, Adjusted b₁ o.quoteAccount (-n) b₂ → (NonNegative b₂ ↔ n ≤ b₁.get o.quoteAccount) := by
  have hb₁ : NonNegative b₁ := fun account =>
    toRat_nonneg.1 (le_trans (toRat_nonneg.2 (hb account)) (hbase.get_le hamount account))
  refine ⟨hb₁, adjust_neg_defined (hb₁ _) hn, fun b₂ hquote => ?_⟩
  rw [hb₁.adjust_iff hquote, ← le_iff_add_neg_nonneg]

/-- The sale on two accounts: the base account pays, then the quote account gains. -/
theorem nonNegative_iff_of_sell {n : Decimal} {b₁ b₂ : Balances} (hb : NonNegative b) (hn : 0 ≤ n)
    (hne : o.baseAccount ≠ o.quoteAccount) (hbase : Adjusted b o.baseAccount (-o.amount) b₁)
    (hquote : Adjusted b₁ o.quoteAccount n b₂) : NonNegative b₂ ↔ o.amount ≤ b.get o.baseAccount := by
  rw [le_iff_add_neg_nonneg, ← hbase.nonneg_iff]
  constructor
  · intro h
    rw [← hquote.others _ hne]
    exact h _
  · intro h
    have hb₁ : NonNegative b₁ := by
      rw [hb.adjust_iff hbase, ← hbase.nonneg_iff]
      exact h
    exact fun account => toRat_nonneg.1 (le_trans (toRat_nonneg.2 (hb₁ account)) (hquote.get_le hn account))

/-- The sale for the sold asset itself: one account pays and gains. -/
theorem nonNegative_iff_of_sell_self {n : Decimal} {b₁ b₂ : Balances} (hb : NonNegative b)
    (heq : o.baseAccount = o.quoteAccount) (hbase : Adjusted b o.baseAccount (-o.amount) b₁)
    (hquote : Adjusted b₁ o.quoteAccount n b₂) : NonNegative b₂ ↔ -n ≤ b₁.get o.quoteAccount := by
  have hsum : -n ≤ b₁.get o.quoteAccount ↔ 0 ≤ b₂.get o.quoteAccount := by
    rw [hquote.nonneg_iff, ← toRat_le_toRat, toRat_neg]
    constructor <;> intro h <;> linarith
  rw [hsum]
  constructor
  · exact fun h => h _
  · intro h account
    by_cases haccount : account = o.quoteAccount
    · rw [haccount]
      exact h
    · rw [hquote.others _ haccount, hbase.others _ (heq ▸ haccount)]
      exact hb account

/-- Only a sum that is too large breaks off a gain, so its account was not overdrawn before. -/
theorem nonneg_of_not_adjusted {account : Account} {n : Decimal} (hn : 0 ≤ n)
    (h : ∀ b', b.adjust account n ≠ .ok b') : 0 ≤ b.get account := by
  by_contra hneg
  have hdebt : 0 ≤ -b.get account := by
    have hlt := toRat_lt_toRat.2 (Decimal.not_le.1 hneg)
    rw [toRat_zero] at hlt
    rw [← toRat_nonneg, toRat_neg]
    linarith
  have hfits := fits_sub_of_nonneg hn hdebt
  rw [toRat_neg, sub_neg_eq_add, add_comm] at hfits
  obtain ⟨sum, hsum⟩ := add_defined hfits
  refine h (b.set account sum) ?_
  unfold adjust
  rw [hsum]
  rfl

/-- The sale whose gain breaks off: the base account has paid. -/
theorem nonNegative_iff_of_sell_broken {n : Decimal} (hb : NonNegative b) (hn : 0 ≤ n)
    (hbase : Adjusted b o.baseAccount (-o.amount) b') (hquote : ∀ b₂, b'.adjust o.quoteAccount n ≠ .ok b₂) :
    NonNegative b' ↔
      if o.baseAccount = o.quoteAccount then -n ≤ b'.get o.quoteAccount else o.amount ≤ b.get o.baseAccount := by
  split
  · next heq =>
    have hgain := nonneg_of_not_adjusted hn hquote
    refine iff_of_true (fun account => ?_) ?_
    · by_cases haccount : account = o.quoteAccount
      · rw [haccount]
        exact hgain
      · rw [hbase.others _ (heq ▸ haccount)]
        exact hb account
    · rw [← toRat_le_toRat, toRat_neg]
      linarith [toRat_nonneg.2 hn, toRat_nonneg.2 hgain]
  · rw [hb.adjust_iff hbase, ← le_iff_add_neg_nonneg]

/-- **A fill overdraws no account exactly if the order finds what its fill takes.** -/
theorem Booked.nonNegative_iff (h : Booked b o b') (hb : NonNegative b) (ho : o.check = .ok ()) :
    NonNegative b' ↔ Pays b o := by
  obtain ⟨-, -, -, hamount⟩ := Order.check_eq_ok.1 ho
  cases h with
  | unpriced hnotional =>
    exact iff_of_true hb (pays_of_not_adjusted fun n b₁ hn => absurd hn (hnotional n))
  | noBase hnotional hbase =>
    refine iff_of_true hb (pays_of_not_adjusted fun n b₁ hn => ?_)
    cases hnotional.symm.trans hn
    exact hbase b₁
  | @noQuote n _ hnotional hbase hquote =>
    have hn := Order.notional_nonneg ho hnotional
    rw [pays_iff hnotional hbase]
    cases hside : o.side with
    | buy =>
      rw [hside] at hbase hquote
      obtain ⟨-, ⟨b₂, hb₂⟩, -⟩ := nonNegative_iff_of_buy hb hn hamount.le (adjust_spec hbase)
      exact absurd hb₂ (hquote b₂)
    | sell =>
      rw [hside] at hbase hquote
      exact nonNegative_iff_of_sell_broken hb hn (adjust_spec hbase) hquote
  | @both n b₁ _ hnotional hbase hquote =>
    have hn := Order.notional_nonneg ho hnotional
    rw [pays_iff hnotional hbase]
    cases hside : o.side with
    | buy =>
      rw [hside] at hbase hquote
      obtain ⟨-, -, hiff⟩ := nonNegative_iff_of_buy hb hn hamount.le (adjust_spec hbase)
      exact hiff _ (adjust_spec hquote)
    | sell =>
      rw [hside] at hbase hquote
      dsimp only
      split
      · next heq => exact nonNegative_iff_of_sell_self hb heq (adjust_spec hbase) (adjust_spec hquote)
      · next hne => exact nonNegative_iff_of_sell hb hn hne (adjust_spec hbase) (adjust_spec hquote)

end Balances

end TwoVenue
