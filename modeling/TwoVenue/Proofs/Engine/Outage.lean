import TwoVenue.Proofs.Engine.Endings
import TwoVenue.Proofs.Engine.Submission
import TwoVenue.Proofs.Search.Failing

/-!
# Cycles without data

A market without a snapshot answers no request, and one with a snapshot refuses single amounts only. A cycle is
therefore aborted exactly when a snapshot is missing, even if the market without it would be asked last.

- `Silent`, `Responsive`: the two kinds of markets. A book source is one or the other: `silent_of_no_snapshot`,
  `responsive_of_snapshot`.
- `findOptimal_silent`: **a silent market ends every search**. If the second one is silent, then either the sales of the
  first direction meet it, or the purchases of the second direction do.
- `Aborted`: what an aborted cycle leaves behind.
- `evaluate_unavailable_iff`: all that together, for every engine that comes from a configuration.
-/

namespace TwoVenue

variable {q : Quoters} {e : QuoteError} {s : Settings}

/-! ## Silent and responsive markets -/

/-- A venue that meets every request with the same error. -/
def Silent (venue : Quoter) (e : QuoteError) : Prop := ∀ side a, venue.quote side a = .error (.error e)

/-- A venue that refuses single amounts only. -/
def Responsive (venue : Quoter) : Prop :=
  ∀ side a e, venue.quote side a = .error (.error e) → e.isSampleLocal = true

namespace BookSource

variable {source : BookSource}

theorem read_own_none (h : source.book = none) :
    source.read source.venue.tradingPair = .error (.unavailable source.venue.connector .noSnapshot) := by
  unfold read
  rw [if_neg (not_not.2 rfl), h]

/-- Without a snapshot there is nothing to quote. -/
theorem silent_of_no_snapshot (h : source.book = none) :
    Silent (Source.book source).quoter (.unavailable source.venue.connector .noSnapshot) := by
  intro side a
  show source.quote source.venue.tradingPair side a = _
  unfold quote
  rw [read_own_none h]
  rfl

/-- Whatever the levels of a snapshot are, they can fail to fill an amount, and nothing worse. -/
theorem responsive_of_snapshot {book : Book} (h : source.book = some book) : Responsive (Source.book source).quoter := by
  intro side a e hquote
  change source.quote source.venue.tradingPair side a = _ at hquote
  unfold quote at hquote
  rw [read_own_some h] at hquote
  change (if a ≤ 0 then _ else _ : Outcome QuoteError Quote) = _ at hquote
  split at hquote
  · cases hquote
    rfl
  · cases hwalk : walk (levels book side) a with
    | error f =>
      rw [hwalk] at hquote
      cases hquote
    | ok fill =>
      rw [hwalk] at hquote
      cases fill with
      | filled price => cases hquote
      | short available =>
        cases hquote
        rfl

end BookSource

/-! ## Searches with a silent market -/

/-- A sweep looks at one amount at least. -/
theorem sweepAmounts_ne_nil {min max : Decimal} {steps : Nat} {amounts : List Decimal}
    (h : sweepAmounts min max steps = .ok amounts) : amounts ≠ [] := by
  unfold sweepAmounts at h
  split at h
  · cases h
    exact List.cons_ne_nil _ _
  · obtain ⟨range, -, h⟩ := Outcome.bind_eq_ok.1 h
    obtain ⟨step, -, h⟩ := Outcome.bind_eq_ok.1 h
    obtain ⟨⟨⟩, -, h⟩ := Outcome.bind_eq_ok.1 h
    obtain ⟨points, -, h⟩ := Outcome.bind_eq_ok.1 h
    obtain ⟨⟨⟩, -, h⟩ := Outcome.bind_eq_ok.1 h
    cases h
    exact List.append_ne_nil_of_right_ne_nil _ (List.cons_ne_nil _ _)

/-- What stops an amount that a silent market would have to sell is the error of that market. -/
theorem Silent.stops {buy sell : Market} {a : Decimal} {failure : Failure QuoteError} (h : Silent (q buy) e)
    (hstops : Stops q buy sell a failure) : failure = .error e := by
  have hbuy := h .buy a
  cases hstops with
  | bought hquote =>
    rw [hbuy] at hquote
    exact (Except.error.inj hquote).symm
  | sold hquote =>
    rw [hbuy] at hquote
    cases hquote
  | profit hp =>
    obtain ⟨quote, -, hquote, -⟩ := hp.quotes
    rw [hbuy] at hquote
    cases hquote

/-- A direction that has to buy on a silent market ends at its first amount. -/
theorem bestForDirection_silent {buy sell : Market} (hsilent : Silent (q buy) e) (hends : EndsSearch (.error e))
    (hsweep : ∀ f, s.sweep ≠ .error f) : (bestForDirection s q buy sell).outcome = .error (.error e) := by
  cases hamounts : s.sweep with
  | error f => exact absurd hamounts (hsweep f)
  | ok amounts =>
    cases amounts with
    | nil => exact absurd rfl (sweepAmounts_ne_nil hamounts)
    | cons a rest =>
      have hpropose : (propose q buy sell a).outcome = .error (.error e) := propose_of_unanswered (hsilent .buy a)
      unfold bestForDirection
      refine Traced.bind_eq_error.2 (Or.inr ⟨a :: rest, ?_, Traced.bind_eq_error.2 (Or.inl ?_)⟩)
      · rw [Traced.liftM_outcome, Outcome.ofArithmetic_eq_ok]
        exact hamounts
      obtain ⟨r, hr, hbest, -⟩ := bestOf_cons q buy sell none a rest
      rw [hbest]
      cases hr with
      | kept ho => cases ho.proposal.symm.trans hpropose
      | skipped h hlocal =>
        cases h.symm.trans hpropose
        exact absurd (hends.symm.trans hlocal) Bool.false_ne_true
      | stopped hstops =>
        rw [hsilent.stops hstops]
        rfl

/-- While one market answers, only the silent other one or arithmetic can stop an amount. -/
theorem Stops.of_silent {m : Market} {a : Decimal} {failure : Failure QuoteError} (hfirst : Responsive (q .first))
    (hsecond : Silent (q .second) e) (hstops : Stops q m m.other a failure) :
    failure = .error e ∨ ∃ f, failure = .fault f := by
  have hquote : ∀ m side, (q m).quote side a = .error failure → EndsSearch failure →
      failure = .error e ∨ ∃ f, failure = .fault f := by
    intro m side h hends
    cases failure with
    | fault f => exact Or.inr ⟨f, rfl⟩
    | error e' =>
      cases m with
      | first => exact absurd (hends.symm.trans (hfirst side a e' h)) Bool.false_ne_true
      | second => exact Or.inl (Except.error.inj (h.symm.trans (hsecond side a)))
  cases hstops with
  | bought h hends => exact hquote _ _ h hends
  | sold _ h hends => exact hquote _ _ h hends
  | profit => exact Or.inr ⟨_, rfl⟩

/-- **A silent market ends every search** in which no arithmetic fails, with its own error. The first one is asked for
the purchase of the first amount; if only the second one is silent, then a sale of the first direction meets it, or a
purchase of the second direction does. -/
theorem findOptimal_silent {m : Market} (hsilent : Silent (q m) e) (hends : EndsSearch (.error e))
    (hfirst : m = .second → Responsive (q .first)) (noFault : ∀ f, (findOptimal s q).outcome ≠ .error (.fault f)) :
    (findOptimal s q).outcome = .error (.error e) := by
  -- a fault of the sweep would be one of the first direction
  have hsweep : ∀ f, s.sweep ≠ .error f := by
    intro f hf
    refine noFault f (Traced.bind_eq_error.2 (Or.inl (Traced.bind_eq_error.2 (Or.inl ?_))))
    show Outcome.ofArithmetic s.sweep = _
    rw [hf]
    rfl
  cases m with
  | first => exact Traced.bind_eq_error.2 (Or.inl (bestForDirection_silent hsilent hends hsweep))
  | second =>
    cases hdirection : (bestForDirection s q .first .second).outcome with
    | ok first =>
      -- no amount of the first direction got as far as a sale, but the other one begins with a purchase
      refine Traced.bind_eq_error.2 (Or.inr ⟨first, hdirection, Traced.bind_eq_error.2 (Or.inl ?_)⟩)
      exact bestForDirection_silent hsilent hends hsweep
    | error failure =>
      have hfound : (findOptimal s q).outcome = .error failure := Traced.bind_eq_error.2 (Or.inl hdirection)
      rcases bestForDirection_eq_error hdirection with ⟨f, hf, -⟩ | ⟨amounts, -, a, -, hstops⟩
      · exact absurd hf (hsweep f)
      rcases Stops.of_silent (m := .first) (hfirst rfl) hsilent hstops with rfl | ⟨f, rfl⟩
      · exact hfound
      · exact absurd hfound (noFault f)

/-! ## Aborted cycles -/

namespace Engine

variable {c : Config} {engine : Engine} {m : Market}

/-- What an aborted cycle leaves behind: a cycle more, an aborted one more, and the opportunity of before. -/
structure Aborted (engine after : Engine) : Prop where
  last : after.last = engine.last
  stats : after.stats =
    { engine.stats with cycles := engine.stats.cycles + 1, cyclesAborted := engine.stats.cyclesAborted + 1 }

theorem Wired.silent (h : Wired c engine) (hheld : engine.held m = none) :
    Silent (engine.quoters m) (.unavailable (engine.settings.venue m).connector .noSnapshot) := by
  obtain ⟨book, hsource⟩ := h.source m
  have hbook : book.map Book.normalized = none := by
    unfold held at hheld
    rw [hsource] at hheld
    exact hheld
  have hquoter : engine.quoters m = (engine.source m).quoter := rfl
  rw [hquoter, hsource]
  exact BookSource.silent_of_no_snapshot hbook

theorem Wired.responsive (h : Wired c engine) (hheld : engine.held m ≠ none) : Responsive (engine.quoters m) := by
  obtain ⟨book, hsource⟩ := h.source m
  obtain ⟨snapshot, hbook⟩ : ∃ snapshot, book.map Book.normalized = some snapshot := by
    unfold held at hheld
    rw [hsource] at hheld
    exact Option.ne_none_iff_exists'.1 hheld
  have hquoter : engine.quoters m = (engine.source m).quoter := rfl
  rw [hquoter, hsource]
  exact BookSource.responsive_of_snapshot hbook

/-- How a cycle ends that is stopped by an error of its search. -/
theorem evaluate_of_error (clock : Nat → Instant)
    (h : (findOptimal engine.settings engine.quoters).outcome = .error (.error e)) :
    (evaluate.run engine).1 = .error (.error (.quote e)) ∧
      ((determine clock).run engine).1 = .error (.error (.quote e)) ∧
      Aborted engine (evaluate.run engine).2 ∧ Aborted engine ((determine clock).run engine).2 := by
  have hevaluate : evaluate.run engine = (.error (.error (.quote e)), engine.searched.aborted e) := by
    rw [evaluate_run, h]
    rfl
  rw [determine_run, cycle_run, hevaluate]
  exact ⟨rfl, rfl, ⟨rfl, rfl⟩, ⟨rfl, rfl⟩⟩

/-- A search names the first connector if it misses that snapshot, and the second one otherwise. -/
theorem Wired.findOptimal_unheld (h : Wired c engine) (hheld : ∃ m, engine.held m = none)
    (noFault : ∀ f, (findOptimal engine.settings engine.quoters).outcome ≠ .error (.fault f)) :
    (findOptimal engine.settings engine.quoters).outcome =
      .error (.error (.unavailable (if engine.held .first = none then c.connector1 else c.connector2) .noSnapshot)) := by
  obtain ⟨hfirst, hsecond⟩ := venue_of_validate h.settings
  by_cases hmissing : engine.held .first = none
  · have hsilent := h.silent hmissing
    rw [hfirst] at hsilent
    rw [if_pos hmissing]
    exact findOptimal_silent hsilent rfl (fun hm => nomatch hm) noFault
  · obtain ⟨m, hm⟩ := hheld
    cases m with
    | first => exact absurd hm hmissing
    | second =>
      have hsilent := h.silent hm
      rw [hsecond] at hsilent
      rw [if_neg hmissing]
      exact findOptimal_silent hsilent rfl (fun _ => h.responsive hmissing) noFault

/-- With both snapshots a search has an answer, whatever they hold. -/
theorem Wired.findOptimal_held (h : Wired c engine) (hheld : ∀ m, engine.held m ≠ none)
    (noFault : ∀ f, (findOptimal engine.settings engine.quoters).outcome ≠ .error (.fault f)) :
    ∃ r, (findOptimal engine.settings engine.quoters).outcome = .ok r :=
  exists_findOptimal (fun m => h.responsive (hheld m)) noFault

/-- **A cycle is aborted exactly when a snapshot is missing.** However an engine of a configuration has come about, as
long as no arithmetic fails: a cycle says that a venue is unavailable if and only if one of the two has no snapshot; it
names the first connector if that one has none, and the second one otherwise; with orders or without, the opportunity of
before stays, and one cycle and one aborted cycle are counted. With two snapshots every cycle succeeds, whatever they
hold. -/
theorem evaluate_unavailable_iff (c : Config) (engine : Engine) (h : Reachable c engine) (clock : Nat → Instant)
    (noFault : ∀ f, (evaluate.run engine).1 ≠ .error (.fault f)) :
    ((∃ connector outage, (evaluate.run engine).1 = .error (.error (.quote (.unavailable connector outage)))) ↔
        ∃ m, engine.held m = none) ∧
      (∀ connector outage, (evaluate.run engine).1 = .error (.error (.quote (.unavailable connector outage))) →
        connector = (if engine.held .first = none then c.connector1 else c.connector2) ∧ outage = .noSnapshot ∧
        ((determine clock).run engine).1 = .error (.error (.quote (.unavailable connector outage))) ∧
        Aborted engine (evaluate.run engine).2 ∧ Aborted engine ((determine clock).run engine).2) ∧
      ((∀ m, engine.held m ≠ none) → ∃ r, (evaluate.run engine).1 = .ok r) := by
  have hwired := h.wired
  have hsearch : ∀ f, (findOptimal engine.settings engine.quoters).outcome ≠ .error (.fault f) := by
    intro f hf
    refine noFault f ?_
    rw [evaluate_run, hf]
  have hfound : (∀ m, engine.held m ≠ none) → ∃ r, (evaluate.run engine).1 = .ok r := by
    intro hheld
    obtain ⟨r, hr⟩ := hwired.findOptimal_held hheld hsearch
    rw [evaluate_run, hr]
    cases r <;> exact ⟨_, rfl⟩
  have hunheld : (∃ m, engine.held m = none) ∨ ∀ m, engine.held m ≠ none := by
    by_cases hheld : ∃ m, engine.held m = none
    · exact Or.inl hheld
    · exact Or.inr (not_exists.1 hheld)
  rcases hunheld with hheld | hheld
  · obtain ⟨hevaluate, hdetermine, haborted⟩ := evaluate_of_error clock (hwired.findOptimal_unheld hheld hsearch)
    refine ⟨iff_of_true ⟨_, _, hevaluate⟩ hheld, fun connector outage herror => ?_, hfound⟩
    cases hevaluate.symm.trans herror
    exact ⟨rfl, rfl, hdetermine, haborted⟩
  · obtain ⟨r, hr⟩ := hfound hheld
    have hno : ∀ connector outage,
        (evaluate.run engine).1 ≠ .error (.error (.quote (.unavailable connector outage))) := by
      intro connector outage herror
      cases hr.symm.trans herror
    refine ⟨iff_of_false ?_ (not_exists.2 hheld), fun connector outage herror => absurd herror (hno _ _), hfound⟩
    rintro ⟨connector, outage, herror⟩
    exact hno _ _ herror

/-- A book that can fill no amount of `threeAmounts`. -/
def thinBook : Book := ⟨[⟨99, 3⟩], [⟨100, 0.5⟩], 0.001⟩

/-- The engine of `threeAmountsConfig` with `thinBook` on the first market and nothing on the second one. -/
def thinEngine : Engine :=
  unheldEngine.setSource .first (.book ⟨threeAmounts.market1, some thinBook⟩)

theorem thinEngine_reachable : Reachable threeAmountsConfig thinEngine := by
  have hnormalized : thinBook.normalized = thinBook := by cbv
  have hupdate := unheldEngine_reachable.step (.update (m := .first) rfl thinBook)
  unfold BookSource.update at hupdate
  rw [hnormalized] at hupdate
  exact hupdate

/-- No purchase of the first direction is filled, so it never asks the second market. The second direction does, and
the cycle is aborted all the same. -/
theorem evaluate_unavailable_iff_thinEngine :
    Reachable threeAmountsConfig thinEngine ∧ thinEngine.held .first = some thinBook ∧ thinEngine.held .second = none ∧
      (evaluate.run thinEngine).1 = .error (.error (.quote (.unavailable "kraken" .noSnapshot))) ∧
      Aborted thinEngine ((determine fun _ => 0).run thinEngine).2 := by
  have hfound : (findOptimal thinEngine.settings thinEngine.quoters).outcome
      = .error (.error (.unavailable "kraken" .noSnapshot)) := by decide +kernel
  have noFault : ∀ f, (evaluate.run thinEngine).1 ≠ .error (.fault f) := by
    intro f hf
    cases (evaluate_of_error (fun _ => 0) hfound).1.symm.trans hf
  obtain ⟨hiff, haborts, -⟩ :=
    evaluate_unavailable_iff threeAmountsConfig thinEngine thinEngine_reachable (fun _ => 0) noFault
  obtain ⟨connector, outage, herror⟩ := hiff.2 ⟨.second, rfl⟩
  obtain ⟨rfl, rfl, -, -, haborted⟩ := haborts connector outage herror
  exact ⟨thinEngine_reachable, rfl, rfl, herror, haborted⟩

end Engine

end TwoVenue
