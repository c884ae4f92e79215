import TwoVenue.Proofs.Engine.Outage
import TwoVenue.Proofs.Search.Skips

/-!
# Safeguards that are never needed

Some errors say that a request was wrong: its amount is not positive, its pair is not the venue's own, or both legs of a
trade are on one venue. An engine never makes such a request. Its amounts come from a sweep, its pairs from the venues
that it asks, and its two venues differ. What is left are errors about the books, and they are exactly the reasons for
which samples are skipped.

- `QuoteError.blamesRequest`: the errors that say so.
- `pairQuotes_blameless`: the checks of two quotes say nothing of the kind about a positive amount on two venues.
- `propose_blameless`: **nor does a proposal**, if its venues do not.
- `evaluate_skipped_iff`: all that together with the reasons, for every engine that comes from a configuration.
-/

namespace TwoVenue

/-- Whether an error says that the request was wrong, and not that the venue has no quote for it. -/
def QuoteError.blamesRequest : QuoteError → Bool
  | .invalidQuote _ (.nonPositiveAmount _) => true
  | .invalidQuote _ (.pairedWithItself _) => true
  | .unavailable _ (.otherPair _) => true
  | _ => false

variable {q : Quoters} {buy sell : Market} {a : Decimal} {e : QuoteError}

/-! ## Where such errors could come from -/

theorem Leg.ofQuote_blameless {venue : Venue} {side : Side} {quote : Quote} (ha : 0 < a)
    (h : Leg.ofQuote venue side a quote = .error e) : e.blamesRequest = false := by
  unfold Leg.ofQuote at h
  rw [if_neg (Decimal.not_le.2 ha)] at h
  split at h
  · cases h
    rfl
  split at h
  · cases h
    rfl
  · cases h

theorem pairQuotes_blameless {buyVenue sellVenue : Venue} {buyQuote sellQuote : Quote} (ha : 0 < a)
    (hvenues : buyVenue ≠ sellVenue) (h : pairQuotes buyVenue sellVenue a buyQuote sellQuote = .error e) :
    e.blamesRequest = false := by
  rcases pairQuotes_eq_error h with h | h | ⟨hvenue, -⟩
  · exact Leg.ofQuote_blameless ha h
  · exact Leg.ofQuote_blameless ha h
  · exact absurd hvenue hvenues

/-- A proposal for a positive amount on two venues blames its request only if one of them does. -/
theorem propose_blameless (ha : 0 < a) (hvenues : (q buy).venue ≠ (q sell).venue)
    (hquote : ∀ m side e, (q m).quote side a = .error (.error e) → e.blamesRequest = false)
    (h : (propose q buy sell a).outcome = .error (.error e)) : e.blamesRequest = false := by
  rcases propose_eq_error h with h | ⟨buyQuote, -, h | ⟨sellQuote, h⟩⟩
  · exact hquote buy .buy e h
  · exact hquote sell .sell e h
  · cases hpair : pairQuotes (q buy).venue (q sell).venue a buyQuote sellQuote with
    | ok p =>
      rw [hpair] at h
      cases h
    | error e' =>
      rw [hpair] at h
      cases h
      exact pairQuotes_blameless ha hvenues hpair

/-! ## Engines that come from a configuration -/

namespace Engine

variable {c : Config} {engine : Engine} {m : Market}

/-- A market with a snapshot quotes from the curve of its levels. -/
theorem follows_of_held {book : Book} (hheld : engine.held m = some book) (ha : 0 < a) :
    (engine.quoters m).Follows book.curve (fun _ => book.feeRate) a := by
  have hquoter : engine.quoters m = (engine.source m).quoter := rfl
  unfold held at hheld
  rw [hquoter]
  cases hsource : engine.source m with
  | book source =>
    rw [hsource] at hheld
    exact BookSource.follows hheld ha
  | scripted source =>
    rw [hsource] at hheld
    cases hheld

theorem Wired.quoters_ne (h : Wired c engine) (m : Market) :
    (engine.quoters m).venue ≠ (engine.quoters m.other).venue := by
  rw [h.quoters_venue, h.quoters_venue]
  exact Market.apply_ne_other engine.settings.markets_ne m

/-- **The guarantee of a skipped sample.** However an engine of a configuration has come about, with a snapshot on both
markets and as long as no arithmetic of its search fails: no request for an amount of the sweep and no proposal of one is
refused for an amount that is not positive, for a pair of another venue, or for two legs on one venue. An amount makes no
proposal in a direction if and only if the asks of the buying market or the bids of the selling one cannot fill it, or
give it an average price that is not positive, or one of the two fee rates is not in `[0, 1)`. And just these errors are
what the search reports. -/
theorem evaluate_skipped_iff (c : Config) (engine : Engine) (h : Reachable c engine) (book : Market → Book)
    (hheld : ∀ m, engine.held m = some (book m)) (noFault : ∀ f, (evaluate.run engine).1 ≠ .error (.fault f)) :
    ∃ amounts, engine.settings.sweep = .ok amounts ∧
      (∀ a ∈ amounts, ∀ m : Market,
        (∀ side e, (engine.quoters m).quote side a = .error (.error e) → e.blamesRequest = false) ∧
        (∀ e, (propose engine.quoters m m.other a).outcome = .error (.error e) → e.blamesRequest = false) ∧
        ((∃ e, (propose engine.quoters m m.other a).outcome = .error (.error e)) ↔
          Unfit ((book m).curve .buy a) (book m).feeRate ∨
            Unfit ((book m.other).curve .sell a) (book m.other).feeRate)) ∧
      ∀ a e, Event.sampleSkipped a e ∈ (findOptimal engine.settings engine.quoters).events ↔
        a ∈ amounts ∧ ∃ m : Market, (propose engine.quoters m m.other a).outcome = .error (.error e) := by
  have hwired := h.wired
  have hsearch : ∀ f, (findOptimal engine.settings engine.quoters).outcome ≠ .error (.fault f) := by
    intro f hf
    refine noFault f ?_
    rw [evaluate_run, hf]
  obtain ⟨r, hr⟩ := hwired.findOptimal_held (fun m => by rw [hheld m]; exact Option.some_ne_none _) hsearch
  obtain ⟨amounts, hamounts, hpassed, -⟩ := findOptimal_eq_ok hr
  refine ⟨amounts, hamounts, fun a ha m => ?_, fun a e => sampleSkipped_mem_iff hr hamounts⟩
  have hpos := Settings.pos_of_mem_sweep hamounts ha
  have hfollows : ∀ m, (engine.quoters m).Follows (book m).curve (fun _ => (book m).feeRate) a :=
    fun m => follows_of_held (hheld m) hpos
  -- with its own pair and a positive amount a book can only be short of levels
  have hquote : ∀ m side e, (engine.quoters m).quote side a = .error (.error e) → e.blamesRequest = false := by
    intro m side e he
    obtain ⟨available, rfl⟩ := (hfollows m).eq_of_error he
    rfl
  refine ⟨hquote m, fun e => propose_blameless hpos (hwired.quoters_ne m) hquote, ?_⟩
  exact skipped_iff (fun m => (book m).curve) (fun m _ => (book m).feeRate) hpos (hwired.quoters_ne m) hfollows
    (hpassed a ha m)

/-- The snapshots of `patchyEngine`: the first one can fill no purchase of `threeAmounts`. -/
def patchyBooks : Market → Book
  | .first => thinBook
  | .second => sortedBooks .second

/-- The engine of `threeAmountsConfig` with the snapshots `patchyBooks`. -/
def patchyEngine : Engine := crossingEngine.setSource .first (.book ⟨threeAmounts.market1, some thinBook⟩)

theorem patchyEngine_reachable : Reachable threeAmountsConfig patchyEngine := by
  have hnormalized : thinBook.normalized = thinBook := by cbv
  have hupdate := crossingEngine_reachable.step (.update (m := .first) rfl thinBook)
  unfold BookSource.update at hupdate
  rw [hnormalized] at hupdate
  exact hupdate

/-- In `patchyEngine` an amount of 2 is skipped in the direction that would buy it on the first market, and in no other
one. -/
theorem evaluate_skipped_iff_patchyEngine :
    Reachable threeAmountsConfig patchyEngine ∧ (∀ m, patchyEngine.held m = some (patchyBooks m)) ∧
      (∀ f, (evaluate.run patchyEngine).1 ≠ .error (.fault f)) ∧
      (∃ e, (propose patchyEngine.quoters .first .second 2).outcome = .error (.error e) ∧ e.blamesRequest = false ∧
        Event.sampleSkipped 2 e ∈ (findOptimal patchyEngine.settings patchyEngine.quoters).events) ∧
      ¬ ∃ e, (propose patchyEngine.quoters .second .first 2).outcome = .error (.error e) := by
  have hheld : ∀ m, patchyEngine.held m = some (patchyBooks m) := by
    intro m
    cases m <;> rfl
  have noFault : ∀ f, (evaluate.run patchyEngine).1 ≠ .error (.fault f) :=
    Outcome.ne_fault_of_isOk (by decide +kernel)
  obtain ⟨amounts, hamounts, hsamples, hskipped⟩ :=
    evaluate_skipped_iff threeAmountsConfig patchyEngine patchyEngine_reachable patchyBooks hheld noFault
  have hsweep : patchyEngine.settings.sweep = .ok [1, 1.50, 2] := by decide +kernel
  cases hamounts.symm.trans hsweep
  obtain ⟨-, hblameless, hfirst⟩ := hsamples 2 (by simp) .first
  obtain ⟨-, -, hsecond⟩ := hsamples 2 (by simp) .second
  obtain ⟨e, he⟩ := hfirst.2 (by decide +kernel)
  refine ⟨patchyEngine_reachable, hheld, noFault, ⟨e, he, hblameless e he, ?_⟩, fun hrefused => ?_⟩
  · exact (hskipped 2 e).2 ⟨by simp, .first, he⟩
  · exact absurd (hsecond.1 hrefused) (by decide +kernel)

end Engine

end TwoVenue
