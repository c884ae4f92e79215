import TwoVenue.Proofs.Trade.Accounts

/-!
# Listed accounts

Balances are listed in the order of accounts, and every account is listed once.

- `Account.before_trans`, `Account.before_trichotomy`: accounts are in a strict order.
- `Balances.Sorted`: the accounts of a listing increase. `Sorted.set` is the step lemma.
- `Balances.Lists`: which accounts are listed. `lists_set`: those that were set. `Sorted.get_of_mem`: **a listing shows
  what the accounts hold**.
- `Balances.ofSets`: the balances of some settings. `sorted_ofSets` and `lists_ofSets` are the run lemmas.
-/

namespace TwoVenue

namespace Account

variable {a b c : Account}

theorem before_iff :
    a.before b = true ↔ a.connector < b.connector ∨ (a.connector = b.connector ∧ a.asset < b.asset) := by
  simp [before]

theorem before_irrefl (a : Account) : ¬ a.before a = true := by
  rw [before_iff]
  rintro (h | ⟨-, h⟩)
  · exact String.lt_irrefl _ h
  · exact String.lt_irrefl _ h

theorem before_trans (h : a.before b = true) (h' : b.before c = true) : a.before c = true := by
  rw [before_iff] at h h' ⊢
  rcases h with h | ⟨heq, h⟩
  · rcases h' with h' | ⟨heq', -⟩
    · exact Or.inl (String.lt_trans h h')
    · exact Or.inl (heq' ▸ h)
  · rcases h' with h' | ⟨heq', h'⟩
    · exact Or.inl (heq ▸ h')
    · exact Or.inr ⟨heq.trans heq', String.lt_trans h h'⟩

theorem before_trichotomy (a b : Account) : a.before b = true ∨ a = b ∨ b.before a = true := by
  have hstrings : ∀ s t : String, s < t ∨ s = t ∨ t < s := by
    intro s t
    by_cases hst : s < t
    · exact Or.inl hst
    by_cases hts : t < s
    · exact Or.inr (Or.inr hts)
    · exact Or.inr (Or.inl (String.le_antisymm hts hst))
  rw [before_iff, before_iff]
  rcases hstrings a.connector b.connector with h | h | h
  · exact Or.inl (Or.inl h)
  · rcases hstrings a.asset b.asset with h' | h' | h'
    · exact Or.inl (Or.inr ⟨h, h'⟩)
    · refine Or.inr (Or.inl ?_)
      cases a
      cases b
      cases h
      cases h'
      rfl
    · exact Or.inr (Or.inr (Or.inr ⟨h.symm, h'⟩))
  · exact Or.inr (Or.inr (Or.inl h))

end Account

namespace Balances

variable {b : Balances} {account other : Account} {amount : Decimal} {entries : List AssetBalance}

/-- Whether the accounts of a listing strictly increase. -/
def Sorted (b : Balances) : Prop := b.entries.Pairwise fun e f => e.account.before f.account = true

/-- Whether an account is listed. -/
def Lists (b : Balances) (account : Account) : Prop := ∃ e ∈ b.entries, e.account = account

theorem sorted_empty : Sorted empty := List.Pairwise.nil

theorem not_lists_empty (account : Account) : ¬ Lists empty account := by
  rintro ⟨e, he, -⟩
  exact absurd he List.not_mem_nil

/-- Only the account that is set is new. -/
theorem exists_mem_put :
    (∃ e ∈ put account amount entries, e.account = other) ↔ other = account ∨ ∃ e ∈ entries, e.account = other := by
  induction entries with
  | nil => simp [put, eq_comm]
  | cons e rest ih =>
    unfold put
    split
    · next he =>
      simp only [List.exists_mem_cons_iff, he]
      tauto
    · split
      · simp only [List.exists_mem_cons_iff]
        tauto
      · simp only [List.exists_mem_cons_iff, ih]
        tauto

theorem pairwise_put (h : entries.Pairwise fun e f => e.account.before f.account = true) :
    (put account amount entries).Pairwise fun e f => e.account.before f.account = true := by
  induction entries with
  | nil => exact List.pairwise_singleton ..
  | cons e rest ih =>
    obtain ⟨hfirst, hrest⟩ := List.pairwise_cons.1 h
    unfold put
    split
    · next he => exact List.pairwise_cons.2 ⟨fun f hf => he ▸ hfirst f hf, hrest⟩
    · next he =>
      split
      · next hbefore =>
        refine List.pairwise_cons.2 ⟨fun f hf => ?_, h⟩
        rcases List.mem_cons.1 hf with rfl | hf
        · exact hbefore
        · exact Account.before_trans hbefore (hfirst f hf)
      · next hbefore =>
        refine List.pairwise_cons.2 ⟨fun f hf => ?_, ih hrest⟩
        -- what stands behind `e` now is the new account or stood there before
        rcases exists_mem_put.1 ⟨f, hf, rfl⟩ with hnew | ⟨g, hg, hold⟩
        · rcases Account.before_trichotomy e.account account with hlt | heq | hgt
          · exact hnew ▸ hlt
          · exact absurd heq he
          · exact absurd hgt hbefore
        · exact hold ▸ hfirst g hg

theorem Sorted.set (h : Sorted b) (account : Account) (amount : Decimal) : Sorted (b.set account amount) :=
  pairwise_put h

theorem lists_set : Lists (b.set account amount) other ↔ other = account ∨ Lists b other := exists_mem_put

theorem find?_eq_none (h : ∀ e ∈ entries, e.account ≠ account) : find? account entries = none := by
  induction entries with
  | nil => rfl
  | cons e rest ih =>
    unfold find?
    rw [if_neg (h e List.mem_cons_self)]
    exact ih fun f hf => h f (List.mem_cons_of_mem e hf)

theorem exists_find?_eq_some (h : ∃ e ∈ entries, e.account = account) :
    ∃ amount, find? account entries = some amount ∧ ⟨account, amount⟩ ∈ entries := by
  induction entries with
  | nil =>
    obtain ⟨e, he, -⟩ := h
    exact absurd he List.not_mem_nil
  | cons e rest ih =>
    unfold find?
    by_cases he : e.account = account
    · rw [if_pos he]
      exact ⟨e.amount, rfl, he ▸ List.mem_cons_self⟩
    · rw [if_neg he]
      obtain ⟨f, hf, hfound⟩ := h
      rcases List.mem_cons.1 hf with rfl | hf
      · exact absurd hfound he
      · obtain ⟨amount, hamount, hmem⟩ := ih ⟨f, hf, hfound⟩
        exact ⟨amount, hamount, List.mem_cons_of_mem e hmem⟩

/-- An account that is not listed holds nothing. -/
theorem get_of_not_lists (h : ¬ Lists b account) : b.get account = 0 := by
  unfold get
  rw [find?_eq_none fun e he heq => h ⟨e, he, heq⟩]
  rfl

/-- What an account holds is listed, if the account is. -/
theorem Lists.mem (h : Lists b account) : ⟨account, b.get account⟩ ∈ b.entries := by
  obtain ⟨amount, hamount, hmem⟩ := exists_find?_eq_some h
  unfold get
  rw [hamount]
  exact hmem

/-- No account is listed twice. -/
theorem Sorted.nodup (h : Sorted b) : (b.entries.map (·.account)).Nodup := by
  refine List.pairwise_map.2 (h.imp fun {e f} hbefore heq => ?_)
  rw [heq] at hbefore
  exact Account.before_irrefl _ hbefore

/-- **A listing shows what the accounts hold.** -/
theorem Sorted.get_of_mem (h : Sorted b) {e : AssetBalance} (he : e ∈ b.entries) : b.get e.account = e.amount := by
  have hheld : ⟨e.account, b.get e.account⟩ ∈ b.entries := Lists.mem ⟨e, he, rfl⟩
  exact congrArg AssetBalance.amount (List.inj_on_of_nodup_map h.nodup hheld he rfl)

/-! ## Settings -/

/-- The balances after some accounts are given amounts. -/
def ofSets (sets : List AssetBalance) : Balances := sets.foldl (fun b e => b.set e.account e.amount) empty

theorem ofSets_concat (sets : List AssetBalance) (e : AssetBalance) :
    ofSets (sets ++ [e]) = (ofSets sets).set e.account e.amount := by
  unfold ofSets
  rw [List.foldl_append]
  rfl

theorem sorted_ofSets (sets : List AssetBalance) : Sorted (ofSets sets) := by
  induction sets using List.reverseRecOn with
  | nil => exact sorted_empty
  | append_singleton sets e ih =>
    rw [ofSets_concat]
    exact ih.set e.account e.amount

theorem lists_ofSets (sets : List AssetBalance) (account : Account) :
    Lists (ofSets sets) account ↔ ∃ e ∈ sets, e.account = account := by
  induction sets using List.reverseRecOn with
  | nil => exact iff_of_false (not_lists_empty account) fun ⟨e, he, _⟩ => absurd he List.not_mem_nil
  | append_singleton sets e ih =>
    rw [ofSets_concat, lists_set, ih]
    constructor
    · rintro (rfl | ⟨f, hf, rfl⟩)
      · exact ⟨e, by simp, rfl⟩
      · exact ⟨f, by simp [hf], rfl⟩
    · rintro ⟨f, hf, rfl⟩
      rcases List.mem_append.1 hf with hf | hf
      · exact Or.inr ⟨f, hf, rfl⟩
      · exact Or.inl (by rw [List.mem_singleton.1 hf])

end Balances

end TwoVenue
