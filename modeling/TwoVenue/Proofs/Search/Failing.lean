import TwoVenue.Proofs.Search.Proposal
import TwoVenue.Search.Selection

/-!
# How a search fails

A search passes over the errors of single amounts. It ends with a failure in three cases only: the arithmetic of its
sweep has no result, a quote ends the search, or the profit of a proposal has no result.

- `EndsSearch`: a failure that does not concern the asked amount alone.
- `Stops`: an amount at which a search ends, and the failure it ends with.
- `Sampled`: everything that one amount can do to a sweep, and `sampleEvents`: what is noted of it. `bestOf_cons` is their
  inversion lemma.
- `findOptimal_eq_error`: **all failures of a search**.
-/

namespace TwoVenue

variable {q : Quoters} {buy sell : Market} {a : Decimal} {failure : Failure QuoteError}

/-- Whether a failure ends a search: arithmetic without a result does, and a venue that is out of reach. -/
def EndsSearch : Failure QuoteError → Prop
  | .fault _ => True
  | .error e => e.isSampleLocal = false

/-- A failure with which an amount ends a search. -/
inductive Stops (q : Quoters) (buy sell : Market) (a : Decimal) : Failure QuoteError → Prop
  | bought {failure : Failure QuoteError} (h : (q buy).quote .buy a = .error failure) (hends : EndsSearch failure) :
      Stops q buy sell a failure
  | sold {failure : Failure QuoteError} {quote : Quote} (hbuy : (q buy).quote .buy a = .ok quote)
      (h : (q sell).quote .sell a = .error failure) (hends : EndsSearch failure) : Stops q buy sell a failure
  | profit {p : Proposal} {f : Fault} (hp : Proposed q buy sell a p) (h : p.profit true = .error f) :
      Stops q buy sell a (.fault f)

theorem EndsSearch.of_ofCheck {ε : Type} {x : Except QuoteError ε} (hends : EndsSearch failure)
    (hlocal : ∀ e, x = .error e → e.isSampleLocal = true) : Outcome.ofCheck x ≠ .error failure := by
  intro h
  cases x with
  | ok => cases h
  | error e =>
    cases h
    have hno : e.isSampleLocal = false := hends
    rw [hlocal e rfl] at hno
    cases hno

/-- The checks of two quotes fail at one of the legs, or because both legs are on one venue. -/
theorem pairQuotes_eq_error {buyVenue sellVenue : Venue} {buyQuote sellQuote : Quote} {e : QuoteError}
    (h : pairQuotes buyVenue sellVenue a buyQuote sellQuote = .error e) :
    Leg.ofQuote buyVenue .buy a buyQuote = .error e ∨ Leg.ofQuote sellVenue .sell a sellQuote = .error e ∨
      buyVenue = sellVenue ∧ e = .invalidQuote buyVenue.connector (.pairedWithItself buyVenue) := by
  unfold pairQuotes at h
  cases hfirst : Leg.ofQuote buyVenue .buy a buyQuote with
  | error e' =>
    rw [hfirst] at h
    cases h
    exact Or.inl rfl
  | ok first =>
    cases hsecond : Leg.ofQuote sellVenue .sell a sellQuote with
    | error e' =>
      rw [hfirst, hsecond] at h
      cases h
      exact Or.inr (Or.inl rfl)
    | ok second =>
      rw [hfirst, hsecond] at h
      obtain ⟨rfl, -⟩ := Leg.ofQuote_eq_ok.1 hfirst
      obtain ⟨rfl, -⟩ := Leg.ofQuote_eq_ok.1 hsecond
      refine Or.inr (Or.inr ?_)
      -- the sides differ and the amounts agree, so only the venues can keep the legs apart
      cases hpair : Proposal.pair? ⟨buyVenue, .buy, a, buyQuote.price, buyQuote.fee⟩
          ⟨sellVenue, .sell, a, sellQuote.price, sellQuote.fee⟩ with
      | some p =>
        simp only [Bind.bind, Except.bind, hpair] at h
        cases h
      | none =>
        simp only [Bind.bind, Except.bind, hpair] at h
        cases h
        refine ⟨by_contra fun hvenues => ?_, rfl⟩
        rw [Proposal.pair?, dif_pos ⟨nofun, rfl, hvenues⟩] at hpair
        cases hpair

/-- The checks of two quotes refuse the amount, and nothing more. -/
theorem pairQuotes_isSampleLocal {buyVenue sellVenue : Venue} {buyQuote sellQuote : Quote} {e : QuoteError}
    (h : pairQuotes buyVenue sellVenue a buyQuote sellQuote = .error e) : e.isSampleLocal = true := by
  rcases pairQuotes_eq_error h with h | h | ⟨-, rfl⟩
  · exact Leg.ofQuote_isSampleLocal h
  · exact Leg.ofQuote_isSampleLocal h
  · rfl

/-- A proposal fails with the failure of one of its quotes, or at the checks of both. -/
theorem propose_eq_error (h : (propose q buy sell a).outcome = .error failure) :
    (q buy).quote .buy a = .error failure ∨
      ∃ buyQuote, (q buy).quote .buy a = .ok buyQuote ∧
        ((q sell).quote .sell a = .error failure ∨
          ∃ sellQuote, Outcome.ofCheck (pairQuotes (q buy).venue (q sell).venue a buyQuote sellQuote) = .error failure) := by
  unfold propose at h
  rcases Traced.bind_eq_error.1 h with h | ⟨buyQuote, hbuy, h⟩
  · rw [askQuote_outcome] at h
    exact Or.inl h
  rw [askQuote_outcome] at hbuy
  refine Or.inr ⟨buyQuote, hbuy, ?_⟩
  rcases Traced.bind_eq_error.1 h with h | ⟨sellQuote, -, h⟩
  · rw [askQuote_outcome] at h
    exact Or.inl h
  · rw [Traced.emit_bind_outcome, Traced.ofOutcome_outcome] at h
    exact Or.inr ⟨sellQuote, h⟩

/-- A proposal ends a search with the failure of a quote only. -/
theorem stops_of_propose (h : (propose q buy sell a).outcome = .error failure) (hends : EndsSearch failure) :
    Stops q buy sell a failure := by
  rcases propose_eq_error h with h | ⟨buyQuote, hbuy, h | ⟨sellQuote, h⟩⟩
  · exact .bought h hends
  · exact .sold hbuy h hends
  · exact absurd h (hends.of_ofCheck fun e he => pairQuotes_isSampleLocal he)

/-- An amount that the buying market does not answer for makes no proposal. -/
theorem propose_of_unanswered (h : (q buy).quote .buy a = .error failure) :
    (propose q buy sell a).outcome = .error failure := by
  unfold propose
  refine Traced.bind_eq_error.2 (Or.inl ?_)
  rw [askQuote_outcome, h]

/-! ## One amount -/

/-- Everything that one amount can do to a sweep. -/
inductive Sampled (q : Quoters) (buy sell : Market) (a : Decimal) (best : Option Opportunity) :
    Outcome QuoteError (Option Opportunity) → Prop
  | kept {o : Opportunity} (h : Makes q buy sell a o) : Sampled q buy sell a best (.ok (some (keepBetter best o)))
  | skipped {e : QuoteError} (h : (propose q buy sell a).outcome = .error (.error e)) (hlocal : e.isSampleLocal = true) :
      Sampled q buy sell a best (.ok best)
  | stopped {failure : Failure QuoteError} (h : Stops q buy sell a failure) : Sampled q buy sell a best (.error failure)

/-- What a search notes of an amount that it passes: the steps of its proposal, and the error if there is none. -/
def sampleEvents (q : Quoters) (buy sell : Market) (a : Decimal) : List Event :=
  (propose q buy sell a).events ++
    match (propose q buy sell a).outcome with
    | .error (.error e) => [.sampleSkipped a e]
    | _ => []

open Traced

/-- **The step of a sweep**: the first amount does one of these things, and unless it stops the sweep, its events are noted
and the others go on from there. -/
theorem bestOf_cons (q : Quoters) (buy sell : Market) (best : Option Opportunity) (a : Decimal) (rest : List Decimal) :
    ∃ r, Sampled q buy sell a best r ∧
      (bestOf q buy sell best (a :: rest)).outcome = r.bind (fun best => (bestOf q buy sell best rest).outcome) ∧
      ∀ best', r = .ok best' → (bestOf q buy sell best (a :: rest)).events =
        sampleEvents q buy sell a ++ (bestOf q buy sell best' rest).events := by
  rw [bestOf]
  cases ha : (propose q buy sell a).outcome with
  | ok p =>
    have hsample : sampleEvents q buy sell a = (propose q buy sell a).events := by
      rw [sampleEvents, ha, List.append_nil]
    rw [bind_of_ok (attempt_of_ok ha)]
    dsimp only
    cases hprofit : p.profit true with
    | ok profit =>
      rw [bind_of_ok (a := profit) rfl]
      refine ⟨_, .kept (o := ⟨p, profit⟩) ⟨ha, hprofit⟩, rfl, ?_⟩
      rintro _ ⟨⟩
      rw [attempt_events, hsample]
      rfl
    | error f =>
      rw [bind_of_error (e := .fault f) rfl]
      exact ⟨_, .stopped (.profit (propose_eq_ok.1 ha) hprofit), rfl, by rintro _ ⟨⟩⟩
  | error failure =>
    cases failure with
    | fault f =>
      rw [bind_of_error (attempt_of_fault ha)]
      exact ⟨_, .stopped (stops_of_propose ha trivial), rfl, by rintro _ ⟨⟩⟩
    | error e =>
      have hsample : sampleEvents q buy sell a = (propose q buy sell a).events ++ [.sampleSkipped a e] := by
        rw [sampleEvents, ha]
      rw [bind_of_ok (attempt_of_error ha)]
      dsimp only
      by_cases hlocal : e.isSampleLocal = true
      · rw [if_pos hlocal, emit_bind_outcome, bind_of_ok (emit_outcome _)]
        refine ⟨_, .skipped ha hlocal, rfl, ?_⟩
        rintro _ ⟨⟩
        rw [attempt_events, hsample, emit_events, List.append_assoc]
      · rw [if_neg hlocal, emit_bind_outcome]
        exact ⟨_, .stopped (stops_of_propose ha (Bool.eq_false_iff.2 hlocal)), rfl, by rintro _ ⟨⟩⟩

/-- **The run of a sweep**: if it fails, then at one of its amounts. -/
theorem bestOf_eq_error {amounts : List Decimal} :
    ∀ {best}, (bestOf q buy sell best amounts).outcome = .error failure → ∃ a ∈ amounts, Stops q buy sell a failure := by
  induction amounts with
  | nil =>
    intro best h
    cases h
  | cons a rest ih =>
    intro best h
    obtain ⟨r, hr, hbest, -⟩ := bestOf_cons q buy sell best a rest
    rw [hbest] at h
    have hrest : ∀ best, (bestOf q buy sell best rest).outcome = .error failure →
        ∃ a' ∈ a :: rest, Stops q buy sell a' failure := by
      intro best h
      obtain ⟨a', ha', hstops⟩ := ih h
      exact ⟨a', List.mem_cons_of_mem a ha', hstops⟩
    cases hr with
    | kept => exact hrest _ h
    | skipped => exact hrest _ h
    | stopped hstops =>
      cases h
      exact ⟨a, List.mem_cons_self, hstops⟩

/-! ## The whole search -/

/-- The amounts of the sweep that settings ask for. -/
def Settings.sweep (s : Settings) : Except Fault (List Decimal) :=
  sweepAmounts s.minOrderAmount s.maxOrderAmount s.sweepSteps.toNat

variable {s : Settings}

/-- A direction fails because of its sweep, or at one of the amounts. -/
theorem bestForDirection_eq_error (h : (bestForDirection s q buy sell).outcome = .error failure) :
    (∃ f, s.sweep = .error f ∧ failure = .fault f) ∨
      ∃ amounts, s.sweep = .ok amounts ∧ ∃ a ∈ amounts, Stops q buy sell a failure := by
  unfold bestForDirection at h
  rcases Traced.bind_eq_error.1 h with h | ⟨amounts, hamounts, h⟩
  · rw [Traced.liftM_outcome] at h
    cases hsweep : sweepAmounts s.minOrderAmount s.maxOrderAmount s.sweepSteps.toNat with
    | ok amounts =>
      rw [hsweep] at h
      cases h
    | error f =>
      rw [hsweep] at h
      cases h
      exact Or.inl ⟨f, hsweep, rfl⟩
  rw [Traced.liftM_outcome, Outcome.ofArithmetic_eq_ok] at hamounts
  rcases Traced.bind_eq_error.1 h with h | ⟨best, -, h⟩
  · exact Or.inr ⟨amounts, hamounts, bestOf_eq_error h⟩
  cases best with
  | none => cases h
  | some o =>
    dsimp only at h
    split at h
    · rw [Traced.emit_bind_outcome] at h
      cases h
    · cases h

/-- The fault of a sweep is the fault of its direction. -/
theorem bestForDirection_of_sweep {f : Fault} (h : s.sweep = .error f) :
    (bestForDirection s q buy sell).outcome = .error (.fault f) := by
  refine Traced.bind_eq_error.2 (Or.inl ?_)
  rw [Traced.liftM_outcome]
  exact congrArg Outcome.ofArithmetic h

/-- The fault of a sweep is that of the search. -/
theorem findOptimal_of_sweep {f : Fault} (h : s.sweep = .error f) : (findOptimal s q).outcome = .error (.fault f) :=
  Traced.bind_eq_error.2 (Or.inl (bestForDirection_of_sweep h))

/-- **All failures of a search**: that of its sweep, or one that stops it at an amount in one of the directions. -/
theorem findOptimal_eq_error (h : (findOptimal s q).outcome = .error failure) :
    (∃ f, s.sweep = .error f ∧ failure = .fault f) ∨
      ∃ amounts, s.sweep = .ok amounts ∧ ∃ a ∈ amounts, ∃ m : Market, Stops q m m.other a failure := by
  have hdirection : ∀ m : Market, (bestForDirection s q m m.other).outcome = .error failure →
      (∃ f, s.sweep = .error f ∧ failure = .fault f) ∨
        ∃ amounts, s.sweep = .ok amounts ∧ ∃ a ∈ amounts, ∃ m : Market, Stops q m m.other a failure := by
    intro m h
    rcases bestForDirection_eq_error h with hsweep | ⟨amounts, hamounts, a, ha, hstops⟩
    · exact Or.inl hsweep
    · exact Or.inr ⟨amounts, hamounts, a, ha, m, hstops⟩
  unfold findOptimal at h
  rcases Traced.bind_eq_error.1 h with h | ⟨first, -, h⟩
  · exact hdirection .first h
  rcases Traced.bind_eq_error.1 h with h | ⟨second, -, h⟩
  · exact hdirection .second h
  cases h

end TwoVenue
