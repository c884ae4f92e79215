import TwoVenue.Proofs.Decimal.Operations
import TwoVenue.Proofs.Sequence
import TwoVenue.Trade.Balances

/-!
# Laws of accounts

- `Balances.get_set`: what is set is found, and nothing else changes.
- `Balances.adjust_spec`: an account gets the rounded sum, and all others stay.
- `Balances.NonNegative`: no account is overdrawn. `NonNegative.adjust_iff`: **an account is overdrawn exactly if more
  is taken than it holds**; no rounding hides that, or makes it up.
- `Balances.Booked`: all that a fill can do.
-/

namespace TwoVenue

open Decimal

/-! ## The sign of a sum -/

/-- The largest negative decimal. -/
def leastDebt : Decimal := ⟨true, 1, 28, by decide, by decide⟩

/-- A negative sum stays negative when it is rounded, since it is at least one unit of the last place below zero. -/
theorem nearest_add_nonneg_iff (a b : Decimal) : 0 ≤ nearest (a.toRat + b.toRat) ↔ 0 ≤ a.toRat + b.toRat := by
  refine ⟨fun h => ?_, nearest_nonneg⟩
  by_contra hneg
  have hgrid : (a.toRat + b.toRat) * 10 ^ 28
      = ((a.signed * tenPow (28 - a.scale) + b.signed * tenPow (28 - b.scale) : Int) : Rat) := by
    rw [add_mul, mul_pow_of_le a a.scale_le, mul_pow_of_le b b.scale_le, Int.cast_add]
  have hunit : (a.toRat + b.toRat) * 10 ^ 28 ≤ -1 := by
    have hlt : (a.toRat + b.toRat) * 10 ^ 28 < 0 := mul_neg_of_neg_of_pos (Rat.not_le.1 hneg) (ten_pow_pos 28)
    rw [hgrid] at hlt ⊢
    have hlt' : a.signed * tenPow (28 - a.scale) + b.signed * tenPow (28 - b.scale) < 0 := by exact_mod_cast hlt
    exact_mod_cast Int.le_sub_one_of_lt hlt'
  have hdebt : leastDebt.toRat = -1 / 10 ^ 28 := by
    rw [toRat_eq]
    rfl
  have hle : a.toRat + b.toRat ≤ leastDebt.toRat := by
    rw [hdebt, le_div_iff₀ (ten_pow_pos 28)]
    exact hunit
  have hlt : leastDebt.toRat < 0 := by
    rw [hdebt]
    norm_num
  linarith [nearest_le_toRat hle]

/-- A difference of decimals that are not negative is never too large. -/
theorem fits_sub_of_nonneg {a b : Decimal} (ha : 0 ≤ a) (hb : 0 ≤ b) : Fits (a.toRat - b.toRat) 0 := by
  have ha' := toRat_nonneg.2 ha
  have hb' := toRat_nonneg.2 hb
  rcases le_total a.toRat b.toRat with h | h
  · refine (fits_toRat b).of_le (Nat.zero_le _) ?_
    rw [abs_of_nonpos (by linarith), abs_of_nonneg hb']
    linarith
  · refine (fits_toRat a).of_le (Nat.zero_le _) ?_
    rw [abs_of_nonneg (by linarith), abs_of_nonneg ha']
    linarith

namespace Balances

variable {b b' : Balances} {account other : Account} {amount delta : Decimal}

/-! ## Reading what was written -/

theorem find?_put (account other : Account) (amount : Decimal) (entries : List AssetBalance) :
    find? other (put account amount entries) = if other = account then some amount else find? other entries := by
  induction entries with
  | nil =>
    unfold put find? find?
    simp only [eq_comm]
  | cons e rest ih =>
    unfold put
    split
    · next he =>
      unfold find?
      simp only [he]
      by_cases h : account = other
      · rw [if_pos h, if_pos h.symm]
      · rw [if_neg h, if_neg (Ne.symm h), if_neg h]
    · next he =>
      split
      · unfold find?
        by_cases h : account = other
        · rw [if_pos h, if_pos h.symm]
        · rw [if_neg h, if_neg (Ne.symm h)]
          rfl
      · unfold find?
        by_cases h : e.account = other
        · have hne : other ≠ account := fun h' => he (h.trans h')
          rw [if_pos h, if_neg hne, if_pos h]
        · rw [if_neg h, ih, if_neg h]

theorem get_set (b : Balances) (account other : Account) (amount : Decimal) :
    (b.set account amount).get other = if other = account then amount else b.get other := by
  unfold get set
  rw [find?_put]
  split <;> rfl

@[simp] theorem get_set_self (b : Balances) (account : Account) (amount : Decimal) :
    (b.set account amount).get account = amount := by
  rw [get_set, if_pos rfl]

theorem get_set_of_ne (h : other ≠ account) : (b.set account amount).get other = b.get other := by
  rw [get_set, if_neg h]

/-- An account after an adjustment, and the others. -/
structure Adjusted (b : Balances) (account : Account) (delta : Decimal) (b' : Balances) : Prop where
  self : (b'.get account).toRat = nearest ((b.get account).toRat + delta.toRat)
  others : ∀ other, other ≠ account → b'.get other = b.get other

theorem adjust_spec (h : b.adjust account delta = .ok b') : Adjusted b account delta b' := by
  unfold adjust at h
  obtain ⟨sum, hsum, h⟩ := Outcome.bind_eq_ok.1 h
  cases h
  refine ⟨?_, fun other hother => get_set_of_ne hother⟩
  rw [get_set_self]
  exact add_toRat hsum

/-- Taking from an account does not fail, whatever it holds. -/
theorem adjust_neg_defined (hb : 0 ≤ b.get account) (hamount : 0 ≤ amount) :
    ∃ b', b.adjust account (-amount) = .ok b' := by
  have hfits : Fits ((b.get account).toRat + (-amount).toRat) 0 := by
    rw [toRat_neg, ← sub_eq_add_neg]
    exact fits_sub_of_nonneg hb hamount
  obtain ⟨sum, hsum⟩ := add_defined hfits
  exact ⟨b.set account sum, by unfold adjust; rw [hsum]; rfl⟩

/-- What an account holds at least after an adjustment, where the bound is a value that is not rounded. -/
theorem Adjusted.le_get {r : Rat} (h : Adjusted b account delta b') (hr : nearest r = r)
    (hle : r ≤ (b.get other).toRat + if other = account then delta.toRat else 0) : r ≤ (b'.get other).toRat := by
  by_cases hother : other = account
  · subst hother
    rw [if_pos rfl] at hle
    rw [h.self, ← hr]
    exact nearest_mono hle
  · rw [if_neg hother, add_zero] at hle
    rwa [h.others other hother]

/-- Giving to an account takes from none. -/
theorem Adjusted.get_le (h : Adjusted b account delta b') (hdelta : 0 ≤ delta) (other : Account) :
    (b.get other).toRat ≤ (b'.get other).toRat := by
  refine h.le_get (nearest_toRat _) (le_add_of_nonneg_right ?_)
  split
  · exact toRat_nonneg.2 hdelta
  · exact le_rfl

/-! ## Overdrafts -/

/-- Whether no account is overdrawn. -/
def NonNegative (b : Balances) : Prop := ∀ account, 0 ≤ b.get account

theorem nonNegative_empty : NonNegative empty := fun _ => le_rfl

theorem NonNegative.set (h : NonNegative b) (hamount : 0 ≤ amount) : NonNegative (b.set account amount) := by
  intro other
  rw [get_set]
  split
  · exact hamount
  · exact h other

theorem NonNegative.fund {venue : Venue} {base quote : Decimal} (h : NonNegative b) (hbase : 0 ≤ base)
    (hquote : 0 ≤ quote) : NonNegative (b.fund venue base quote) :=
  (h.set hbase).set hquote

/-- The account after an adjustment is overdrawn exactly if the exact sum is negative. -/
theorem Adjusted.nonneg_iff (h : Adjusted b account delta b') :
    0 ≤ b'.get account ↔ 0 ≤ (b.get account).toRat + delta.toRat := by
  rw [← toRat_nonneg, h.self, nearest_add_nonneg_iff]

/-- **An adjustment overdraws its account exactly if it takes more than the account holds.** -/
theorem NonNegative.adjust_iff (hb : NonNegative b) (h : Adjusted b account delta b') :
    NonNegative b' ↔ 0 ≤ (b.get account).toRat + delta.toRat := by
  rw [← h.nonneg_iff]
  constructor
  · exact fun hall => hall account
  · intro haccount other
    by_cases hother : other = account
    · rw [hother]
      exact haccount
    · rw [h.others other hother]
      exact hb other

end Balances

/-! ## Fills -/

/-- The account of the asset that an order trades. -/
def Order.baseAccount (o : Order) : Account := ⟨o.connector, (splitPair o.tradingPair).1⟩

/-- The account of the asset that its price is in. -/
def Order.quoteAccount (o : Order) : Account := ⟨o.connector, (splitPair o.tradingPair).2⟩

namespace Balances

/-- What the fill of an order can make of balances. It breaks off where arithmetic fails, and what was changed stays. -/
inductive Booked (b : Balances) (o : Order) : Balances → Prop
  | unpriced (hnotional : ∀ n, o.notional ≠ .ok n) : Booked b o b
  | noBase {n : Decimal} (hnotional : o.notional = .ok n)
      (hbase : ∀ b₁, b.adjust o.baseAccount (deltas o.side o.amount n).1 ≠ .ok b₁) : Booked b o b
  | noQuote {n : Decimal} {b₁ : Balances} (hnotional : o.notional = .ok n)
      (hbase : b.adjust o.baseAccount (deltas o.side o.amount n).1 = .ok b₁)
      (hquote : ∀ b₂, b₁.adjust o.quoteAccount (deltas o.side o.amount n).2 ≠ .ok b₂) : Booked b o b₁
  | both {n : Decimal} {b₁ b₂ : Balances} (hnotional : o.notional = .ok n)
      (hbase : b.adjust o.baseAccount (deltas o.side o.amount n).1 = .ok b₁)
      (hquote : b₁.adjust o.quoteAccount (deltas o.side o.amount n).2 = .ok b₂) : Booked b o b₂

theorem applyFill_booked (b : Balances) (o : Order) :
    Booked b o (b.applyFill o.connector o.tradingPair o.side o.amount o.price).2 := by
  unfold applyFill
  dsimp only
  cases hn : o.amount.mul o.price with
  | error fault =>
    refine .unpriced fun n hok => ?_
    cases hn.symm.trans hok
  | ok n =>
    dsimp only
    cases hbase : b.adjust ⟨o.connector, (splitPair o.tradingPair).1⟩ (deltas o.side o.amount n).1 with
    | error fault =>
      refine .noBase hn fun b₁ hok => ?_
      cases hbase.symm.trans hok
    | ok b₁ =>
      dsimp only
      cases hquote : b₁.adjust ⟨o.connector, (splitPair o.tradingPair).2⟩ (deltas o.side o.amount n).2 with
      | error fault =>
        refine .noQuote hn hbase fun b₂ hok => ?_
        cases hquote.symm.trans hok
      | ok b₂ => exact .both hn hbase hquote

end Balances

end TwoVenue
