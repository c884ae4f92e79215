import TwoVenue.Proofs.Search.Failing

/-!
# The optimum of a search

A search looks at the amounts of the sweep in both directions and skips those that make no proposal. What it finds is
the first maximum of the profit over all that is left, whatever the shape of the price curves.

- `FirstBest`: an opportunity is the first one of a direction with the largest profit.
- `BestSoFar`: what the sweep of a direction has found among the amounts that it has passed.
- `BestSoFar.skip`, `BestSoFar.keep`: one amount more, and `bestOf_spec`: all that are left.
- `findOptimal_optimal`: **the opportunity of a search is the best one**. The second direction wins a tie, and within a
  direction the smallest amount does.
-/

namespace TwoVenue

variable {q : Quoters} {buy sell m : Market} {a : Decimal} {amounts : List Decimal} {o o' : Opportunity}

/-! ## The first maximum of a direction -/

/-- `o` is what the first amount with the largest profit makes, among the given amounts in their order. -/
def FirstBest (q : Quoters) (buy sell : Market) (amounts : List Decimal) (o : Opportunity) : Prop :=
  ∃ before a after, amounts = before ++ a :: after ∧ Makes q buy sell a o ∧
    (∀ b ∈ before, ∀ o', Makes q buy sell b o' → o'.profit < o.profit) ∧
    ∀ b ∈ after, ∀ o', Makes q buy sell b o' → o'.profit ≤ o.profit

theorem FirstBest.makes (h : FirstBest q buy sell amounts o) : ∃ a ∈ amounts, Makes q buy sell a o := by
  obtain ⟨before, a, after, rfl, hmakes, -, -⟩ := h
  exact ⟨a, by simp, hmakes⟩

/-- No amount makes more. -/
theorem FirstBest.profit_le (h : FirstBest q buy sell amounts o) (ha : a ∈ amounts) (ho : Makes q buy sell a o') :
    o'.profit ≤ o.profit := by
  obtain ⟨before, a', after, rfl, hmakes, hbefore, hafter⟩ := h
  rcases List.mem_append.1 ha with ha | ha
  · exact (hbefore a ha o' ho).le
  rcases List.mem_cons.1 ha with rfl | ha
  · rw [hmakes.unique ho]
  · exact hafter a ha o' ho

/-- An amount that makes no more than the best one leaves it the first best. -/
theorem FirstBest.append_le (h : FirstBest q buy sell amounts o)
    (hle : ∀ o', Makes q buy sell a o' → o'.profit ≤ o.profit) : FirstBest q buy sell (amounts ++ [a]) o := by
  obtain ⟨before, a', after, rfl, hmakes, hbefore, hafter⟩ := h
  refine ⟨before, a', after ++ [a], by simp, hmakes, hbefore, ?_⟩
  intro b hb o' ho'
  rcases List.mem_append.1 hb with hb | hb
  · exact hafter b hb o' ho'
  · rw [List.mem_singleton.1 hb] at ho'
    exact hle o' ho'

/-- An amount that makes more than all before it is the first best. -/
theorem firstBest_append_lt (ho : Makes q buy sell a o)
    (hlt : ∀ b ∈ amounts, ∀ o', Makes q buy sell b o' → o'.profit < o.profit) :
    FirstBest q buy sell (amounts ++ [a]) o :=
  ⟨amounts, a, [], rfl, ho, hlt, fun _ hb => absurd hb List.not_mem_nil⟩

/-! ## The sweep of a direction -/

/-- Every proposal of some amounts has a profit. -/
def Priced (q : Quoters) (buy sell : Market) (amounts : List Decimal) : Prop :=
  ∀ a ∈ amounts, ∀ p, (propose q buy sell a).outcome = .ok p → ∃ profit, p.profit true = .ok profit

/-- What a sweep knows of the amounts that it has passed. -/
structure BestSoFar (q : Quoters) (buy sell : Market) (amounts : List Decimal) (best : Option Opportunity) : Prop where
  priced : Priced q buy sell amounts
  of_none : best = none → ∀ a ∈ amounts, ∀ o, ¬ Makes q buy sell a o
  of_some : ∀ o, best = some o → FirstBest q buy sell amounts o

theorem BestSoFar.nil : BestSoFar q buy sell [] none where
  priced _ ha := absurd ha List.not_mem_nil
  of_none _ _ ha := absurd ha List.not_mem_nil
  of_some _ h := nomatch h

theorem Priced.append (h : Priced q buy sell amounts)
    (ha : ∀ p, (propose q buy sell a).outcome = .ok p → ∃ profit, p.profit true = .ok profit) :
    Priced q buy sell (amounts ++ [a]) := by
  intro b hb p hp
  rcases List.mem_append.1 hb with hb | hb
  · exact h b hb p hp
  · rw [List.mem_singleton.1 hb] at hp
    exact ha p hp

/-- An amount without a proposal is passed. -/
theorem BestSoFar.skip {best : Option Opportunity} {e : Failure QuoteError} (h : BestSoFar q buy sell amounts best)
    (ha : (propose q buy sell a).outcome = .error e) : BestSoFar q buy sell (amounts ++ [a]) best := by
  have hnone : ∀ o, ¬ Makes q buy sell a o := by
    intro o ho
    rw [ho.proposal] at ha
    cases ha
  refine ⟨h.priced.append fun p hp => ?_, fun hbest b hb o => ?_, fun o hbest => ?_⟩
  · rw [hp] at ha
    cases ha
  · rcases List.mem_append.1 hb with hb | hb
    · exact h.of_none hbest b hb o
    · rw [List.mem_singleton.1 hb]
      exact hnone o
  · exact (h.of_some o hbest).append_le fun o' ho' => absurd ho' (hnone o')

/-- An opportunity replaces the best one before it exactly if its profit is larger. -/
theorem BestSoFar.keep {best : Option Opportunity} (h : BestSoFar q buy sell amounts best) (ho : Makes q buy sell a o) :
    BestSoFar q buy sell (amounts ++ [a]) (some (keepBetter best o)) := by
  refine ⟨h.priced.append fun p hp => ?_, fun hbest => (nomatch hbest), fun o' hbest => ?_⟩
  · rw [← Except.ok.inj (ho.proposal.symm.trans hp)]
    exact ⟨o.profit, ho.profit⟩
  · cases hbest
    cases hb : best with
    | none => exact firstBest_append_lt ho fun b hmem o' ho' => absurd ho' (h.of_none hb b hmem o')
    | some kept =>
      have hkept := h.of_some kept hb
      unfold keepBetter
      dsimp only
      split
      · next hlt => exact firstBest_append_lt ho fun b hmem o' ho' => lt_of_le_of_lt (hkept.profit_le hmem ho') hlt
      · next hle =>
        refine hkept.append_le fun o' ho' => ?_
        rw [← ho.unique ho']
        exact Decimal.not_lt.1 hle

/-- **The run of a sweep**: what is known of the amounts before it, it gets to know of all of them. -/
theorem bestOf_spec (rest : List Decimal) :
    ∀ {done best r}, BestSoFar q buy sell done best → (bestOf q buy sell best rest).outcome = .ok r →
      BestSoFar q buy sell (done ++ rest) r := by
  induction rest with
  | nil =>
    intro done best r h hr
    cases hr
    rwa [List.append_nil]
  | cons a rest ih =>
    intro done best r h hr
    rw [List.append_cons]
    obtain ⟨step, hstep, hrest, -⟩ := bestOf_cons q buy sell best a rest
    rw [hrest] at hr
    cases hstep with
    | kept ho => exact ih (h.keep ho) hr
    | skipped ha => exact ih (h.skip ha) hr
    | stopped => cases hr

/-- The opportunities that make a profit. -/
def profitable (best : Option Opportunity) : Option Opportunity := best.filter fun o => decide (0 < o.profit)

theorem profitable_eq_some {best : Option Opportunity} : profitable best = some o ↔ best = some o ∧ 0 < o.profit := by
  unfold profitable
  rw [Option.filter_eq_some_iff, decide_eq_true_iff]

/-- A profit that an amount makes is found, or a larger one. -/
theorem BestSoFar.exists_profitable {best : Option Opportunity} (h : BestSoFar q buy sell amounts best)
    (ha : a ∈ amounts) (ho : Makes q buy sell a o) (hpos : 0 < o.profit) :
    ∃ kept, profitable best = some kept ∧ o.profit ≤ kept.profit := by
  cases hbest : best with
  | none => exact absurd ho (h.of_none hbest a ha o)
  | some kept =>
    have hle := (h.of_some kept hbest).profit_le ha ho
    exact ⟨kept, profitable_eq_some.2 ⟨rfl, lt_of_lt_of_le hpos hle⟩, hle⟩

/-- Nothing is found exactly if no amount makes a profit. -/
theorem BestSoFar.profitable_eq_none {best : Option Opportunity} (h : BestSoFar q buy sell amounts best) :
    profitable best = none ↔ ∀ a ∈ amounts, ∀ o, Makes q buy sell a o → o.profit ≤ 0 := by
  constructor
  · intro hnone a ha o ho
    by_contra hpos
    obtain ⟨kept, hkept, -⟩ := h.exists_profitable ha ho (Decimal.not_le.1 hpos)
    rw [hnone] at hkept
    cases hkept
  · intro hall
    cases hp : profitable best with
    | none => rfl
    | some o =>
      obtain ⟨hbest, hpos⟩ := profitable_eq_some.1 hp
      obtain ⟨a, ha, ho⟩ := (h.of_some o hbest).makes
      exact absurd hpos (Decimal.not_lt.2 (hall a ha o ho))

theorem bestForDirection_spec {s : Settings} {r : Option Opportunity}
    (h : (bestForDirection s q buy sell).outcome = .ok r) :
    ∃ amounts best, sweepAmounts s.minOrderAmount s.maxOrderAmount s.sweepSteps.toNat = .ok amounts ∧
      BestSoFar q buy sell amounts best ∧ r = profitable best := by
  unfold bestForDirection at h
  obtain ⟨amounts, hamounts, h⟩ := Traced.bind_eq_ok.1 h
  obtain ⟨best, hbest, h⟩ := Traced.bind_eq_ok.1 h
  rw [Traced.liftM_outcome, Outcome.ofArithmetic_eq_ok] at hamounts
  refine ⟨amounts, best, hamounts, bestOf_spec amounts BestSoFar.nil hbest, ?_⟩
  cases best with
  | none => exact (Except.ok.inj h).symm
  | some o =>
    unfold profitable
    rw [Option.filter_some]
    dsimp only at h
    split at h
    · next hpos =>
      rw [Traced.emit_bind_outcome] at h
      rw [← Except.ok.inj h, if_pos (decide_eq_true hpos)]
    · next hpos => rw [← Except.ok.inj h, if_neg (by simpa using hpos)]

/-! ## The choice between the directions -/

theorem selectBetter_eq_none {x y : Option Opportunity} : selectBetter x y = none ↔ x = none ∧ y = none := by
  cases x <;> cases y <;> simp [selectBetter]
  split <;> simp

/-- The first opportunity is chosen if its profit is larger, and the second one otherwise. -/
theorem selectBetter_eq_some {x y : Option Opportunity} (h : selectBetter x y = some o) :
    (x = some o ∧ ∀ o₂, y = some o₂ → o₂.profit < o.profit) ∨
      (y = some o ∧ ∀ o₁, x = some o₁ → o₁.profit ≤ o.profit) := by
  cases x with
  | none =>
    cases y with
    | none => cases h
    | some o₂ => exact Or.inr ⟨h, fun o₁ h₁ => nomatch h₁⟩
  | some o₁ =>
    cases y with
    | none => exact Or.inl ⟨h, fun o₂ h₂ => nomatch h₂⟩
    | some o₂ =>
      unfold selectBetter at h
      dsimp only at h
      split at h
      · next hlt =>
        cases h
        exact Or.inl ⟨rfl, fun o₂' h₂ => Option.some.inj h₂ ▸ hlt⟩
      · next hle =>
        cases h
        exact Or.inr ⟨rfl, fun o₁' h₁ => Option.some.inj h₁ ▸ Decimal.not_lt.1 hle⟩

/-- What a search knows of both directions when it succeeds. -/
theorem findOptimal_spec {s : Settings} {r : Option Opportunity} (h : (findOptimal s q).outcome = .ok r) :
    ∃ amounts best₁ best₂, sweepAmounts s.minOrderAmount s.maxOrderAmount s.sweepSteps.toNat = .ok amounts ∧
      BestSoFar q .first .second amounts best₁ ∧ BestSoFar q .second .first amounts best₂ ∧
      r = selectBetter (profitable best₁) (profitable best₂) := by
  unfold findOptimal at h
  obtain ⟨first, hfirst, h⟩ := Traced.bind_eq_ok.1 h
  obtain ⟨second, hsecond, h⟩ := Traced.bind_eq_ok.1 h
  obtain ⟨amounts, best₁, hamounts, hbest₁, rfl⟩ := bestForDirection_spec hfirst
  obtain ⟨amounts', best₂, hamounts', hbest₂, rfl⟩ := bestForDirection_spec hsecond
  cases hamounts.symm.trans hamounts'
  exact ⟨amounts, best₁, best₂, hamounts, hbest₁, hbest₂, (Except.ok.inj h).symm⟩

/-- While the venues answer, only arithmetic can stop a search. -/
theorem findOptimal_ne_error {s : Settings} {e : QuoteError}
    (reach : ∀ m side a e, (q m).quote side a = .error (.error e) → e.isSampleLocal = true) :
    (findOptimal s q).outcome ≠ .error (.error e) := by
  have hno : ∀ m side a, (q m).quote side a = .error (.error e) → ¬ EndsSearch (.error e) := by
    intro m side a h hends
    exact Bool.false_ne_true (hends.symm.trans (reach m side a e h))
  intro h
  rcases findOptimal_eq_error h with ⟨f, -, hf⟩ | ⟨amounts, -, a, -, m, hstops⟩
  · cases hf
  · cases hstops with
    | bought h hends => exact hno _ _ _ h hends
    | sold _ h hends => exact hno _ _ _ h hends

/-- While the venues answer and no arithmetic fails, a search has an answer. -/
theorem exists_findOptimal {s : Settings}
    (reach : ∀ m side a e, (q m).quote side a = .error (.error e) → e.isSampleLocal = true)
    (noFault : ∀ f, (findOptimal s q).outcome ≠ .error (.fault f)) : ∃ r, (findOptimal s q).outcome = .ok r := by
  cases hr : (findOptimal s q).outcome with
  | ok r => exact ⟨r, rfl⟩
  | error failure =>
    cases failure with
    | fault f => exact absurd hr (noFault f)
    | error e => exact absurd hr (findOptimal_ne_error reach)

/-- What a search finds is what one of its amounts makes in one of the directions, and it makes a profit. -/
theorem makes_of_findOptimal {s : Settings} (h : (findOptimal s q).outcome = .ok (some o)) :
    ∃ amounts, sweepAmounts s.minOrderAmount s.maxOrderAmount s.sweepSteps.toNat = .ok amounts ∧
      ∃ m : Market, ∃ a ∈ amounts, Makes q m m.other a o ∧ 0 < o.profit := by
  obtain ⟨amounts, best₁, best₂, hamounts, h₁, h₂, hselect⟩ := findOptimal_spec h
  refine ⟨amounts, hamounts, ?_⟩
  rcases selectBetter_eq_some hselect.symm with ⟨hbest, -⟩ | ⟨hbest, -⟩
  · obtain ⟨hbest, hpos⟩ := profitable_eq_some.1 hbest
    obtain ⟨a, ha, ho⟩ := (h₁.of_some o hbest).makes
    exact ⟨.first, a, ha, ho, hpos⟩
  · obtain ⟨hbest, hpos⟩ := profitable_eq_some.1 hbest
    obtain ⟨a, ha, ho⟩ := (h₂.of_some o hbest).makes
    exact ⟨.second, a, ha, ho, hpos⟩

/-! ## The optimum -/

/-- Whether the first direction wins: one of its profits is above all profits of the second direction. -/
def FirstWins (q : Quoters) (amounts : List Decimal) : Prop :=
  ∃ a ∈ amounts, ∃ o₁, Makes q .first .second a o₁ ∧
    ∀ b ∈ amounts, ∀ o₂, Makes q .second .first b o₂ → o₂.profit < o₁.profit

/-- The opportunity of a search among the amounts of a sweep. -/
structure Optimal (q : Quoters) (amounts : List Decimal) (o : Opportunity) : Prop where
  profit_eq : o.proposal.profit true = .ok o.profit
  profit_pos : 0 < o.profit
  /-- No amount makes more in any direction. -/
  profit_ge : ∀ m : Market, ∀ a ∈ amounts, ∀ o', Makes q m m.other a o' → o'.profit ≤ o.profit
  /-- It buys on the first market exactly if that direction is better, and no smaller amount makes as much. -/
  direction : ∃ m : Market, o.proposal.buySide.venue = (q m).venue ∧ o.proposal.sellSide.venue = (q m.other).venue ∧
    (m = .first ↔ FirstWins q amounts) ∧ FirstBest q m m.other amounts o

/-- What is chosen is the best of both directions. -/
theorem optimal_of_selectBetter {best₁ best₂ : Option Opportunity} (h₁ : BestSoFar q .first .second amounts best₁)
    (h₂ : BestSoFar q .second .first amounts best₂)
    (h : selectBetter (profitable best₁) (profitable best₂) = some o) : Optimal q amounts o := by
  rcases selectBetter_eq_some h with ⟨hx, hy⟩ | ⟨hy, hx⟩
  · obtain ⟨hbest, hpos⟩ := profitable_eq_some.1 hx
    have hfirst := h₁.of_some o hbest
    obtain ⟨a, ha, ho⟩ := hfirst.makes
    have hmade := propose_eq_ok.1 ho.proposal
    have hlt : ∀ b ∈ amounts, ∀ o₂, Makes q .second .first b o₂ → o₂.profit < o.profit := by
      intro b hb o₂ ho₂
      by_cases hpos₂ : 0 < o₂.profit
      · obtain ⟨kept, hkept, hle⟩ := h₂.exists_profitable hb ho₂ hpos₂
        exact lt_of_le_of_lt hle (hy kept hkept)
      · exact lt_of_le_of_lt (Decimal.not_lt.1 hpos₂) hpos
    refine ⟨ho.profit, hpos, ?_, .first, hmade.buySide_venue, hmade.sellSide_venue, ?_, hfirst⟩
    · rintro (_ | _) b hb o' ho'
      · exact hfirst.profit_le hb ho'
      · exact (hlt b hb o' ho').le
    · exact iff_of_true rfl ⟨a, ha, o, ho, hlt⟩
  · obtain ⟨hbest, hpos⟩ := profitable_eq_some.1 hy
    have hsecond := h₂.of_some o hbest
    obtain ⟨a, ha, ho⟩ := hsecond.makes
    have hmade := propose_eq_ok.1 ho.proposal
    have hle : ∀ b ∈ amounts, ∀ o₁, Makes q .first .second b o₁ → o₁.profit ≤ o.profit := by
      intro b hb o₁ ho₁
      by_cases hpos₁ : 0 < o₁.profit
      · obtain ⟨kept, hkept, hle⟩ := h₁.exists_profitable hb ho₁ hpos₁
        exact le_trans hle (hx kept hkept)
      · exact le_trans (Decimal.not_lt.1 hpos₁) hpos.le
    refine ⟨ho.profit, hpos, ?_, .second, hmade.buySide_venue, hmade.sellSide_venue, ?_, hsecond⟩
    · rintro (_ | _) b hb o' ho'
      · exact hle b hb o' ho'
      · exact hsecond.profit_le hb ho'
    · refine iff_of_false (fun h => nomatch h) ?_
      rintro ⟨b, hb, o₁, ho₁, hlt⟩
      exact absurd (hlt a ha o ho) (Decimal.not_lt.2 (hle b hb o₁ ho₁))

/-- **A search finds the optimum.** Whatever the two price curves are, a search of venues that answer, in which no
arithmetic fails, prices every proposal of the sweep; it finds nothing exactly if none of them makes a profit, and else
it finds the best of them. -/
theorem findOptimal_optimal (s : Settings) (q : Quoters)
    (reach : ∀ m side a venue outage, (q m).quote side a ≠ .error (.error (.unavailable venue outage)))
    (noFault : ∀ f, (findOptimal s q).outcome ≠ .error (.fault f)) :
    ∃ amounts r, sweepAmounts s.minOrderAmount s.maxOrderAmount s.sweepSteps.toNat = .ok amounts ∧
      (findOptimal s q).outcome = .ok r ∧
      (∀ m : Market, Priced q m m.other amounts) ∧
      (r = none ↔ ∀ m : Market, ∀ a ∈ amounts, ∀ o, Makes q m m.other a o → o.profit ≤ 0) ∧
      ∀ o, r = some o → Optimal q amounts o := by
  have hlocal : ∀ m side a e, (q m).quote side a = .error (.error e) → e.isSampleLocal = true := by
    intro m side a e h
    cases e with
    | unavailable venue outage => exact absurd h (reach m side a venue outage)
    | insufficientLiquidity => rfl
    | invalidQuote => rfl
  cases hr : (findOptimal s q).outcome with
  | error e =>
    cases e with
    | fault f => exact absurd hr (noFault f)
    | error e => exact absurd hr (findOptimal_ne_error hlocal)
  | ok r =>
    obtain ⟨amounts, best₁, best₂, hamounts, h₁, h₂, rfl⟩ := findOptimal_spec hr
    refine ⟨amounts, _, hamounts, rfl, ?_, ?_, fun o ho => optimal_of_selectBetter h₁ h₂ ho⟩
    · rintro (_ | _)
      · exact h₁.priced
      · exact h₂.priced
    · rw [selectBetter_eq_none, h₁.profitable_eq_none, h₂.profitable_eq_none]
      constructor
      · rintro ⟨h₁, h₂⟩ (_ | _)
        · exact h₁
        · exact h₂
      · exact fun h => ⟨h .first, h .second⟩

/-- Settings of a sweep over the amounts 1, 1.5 and 2. -/
def threeAmounts : Settings where
  market1 := ⟨"binance", "BTC-USDT"⟩
  market2 := ⟨"kraken", "BTC-USDT"⟩
  minOrderAmount := 1
  maxOrderAmount := 2
  minProfitability := 0
  market1SlippageBuffer := 0.01
  market2SlippageBuffer := 0.01
  sweepSteps := 3
  named := by decide +kernel
  markets_ne := by decide
  min_pos := by decide
  min_le_max := by decide
  two_le_steps := by decide
  profitability_nonneg := by decide
  buffer1_nonneg := by decide
  buffer2_nonneg := by decide

/-- The first venue sells at 100, the second one buys at 104, but not an amount of 1.5. -/
def gapAtOneAndAHalf : Quoters := fun m =>
  { venue := threeAmounts.venue m
    quote := fun side amount =>
      match m, side with
      | .first, .buy => .ok ⟨100, 0.001⟩
      | .first, .sell => .ok ⟨99, 0.001⟩
      | .second, .buy => .ok ⟨105, 0.001⟩
      | .second, .sell =>
        if amount ≈ 1.5 then .error (.error (.insufficientLiquidity "kraken" amount 1)) else .ok ⟨104, 0.001⟩
    announces := false }

/-- The venues of `gapAtOneAndAHalf` answer, so the search of them is as good as it can be. -/
theorem findOptimal_optimal_gap :
    (∀ m side a venue outage, (gapAtOneAndAHalf m).quote side a ≠ .error (.error (.unavailable venue outage))) ∧
      (∀ f, (findOptimal threeAmounts gapAtOneAndAHalf).outcome ≠ .error (.fault f)) ∧
      ∃ o, (findOptimal threeAmounts gapAtOneAndAHalf).outcome = .ok (some o) ∧
        Optimal gapAtOneAndAHalf [1, 1.50, 2] o := by
  have reach : ∀ m side a venue outage,
      (gapAtOneAndAHalf m).quote side a ≠ .error (.error (.unavailable venue outage)) := by
    intro m side a venue outage h
    unfold gapAtOneAndAHalf at h
    cases m <;> cases side <;> dsimp only at h
    · cases h
    · cases h
    · cases h
    · split at h <;> cases h
  obtain ⟨o, ho⟩ : ∃ o, (findOptimal threeAmounts gapAtOneAndAHalf).outcome = .ok (some o) :=
    Outcome.exists_ok_some (by decide +kernel)
  have noFault : ∀ f, (findOptimal threeAmounts gapAtOneAndAHalf).outcome ≠ .error (.fault f) := by
    intro f h
    rw [ho] at h
    cases h
  obtain ⟨amounts, r, hamounts, hr, -, -, hoptimal⟩ := findOptimal_optimal threeAmounts gapAtOneAndAHalf reach noFault
  have hsweep : sweepAmounts threeAmounts.minOrderAmount threeAmounts.maxOrderAmount threeAmounts.sweepSteps.toNat
      = .ok [1, 1.50, 2] := by decide +kernel
  cases hamounts.symm.trans hsweep
  exact ⟨reach, noFault, o, ho, hoptimal o (Except.ok.inj (hr.symm.trans ho))⟩

end TwoVenue
