import TwoVenue.Proofs.Search.Events
import TwoVenue.Proofs.Search.Optimum
import TwoVenue.Proofs.Search.Sweep

/-!
# The samples of a search

A search that succeeds has passed every amount of its sweep in both directions, and its events are those of these samples,
one after the other. Whatever is counted over a search is therefore a sum over its samples.

- `Passed`: a sample has made an opportunity, or it was skipped.
- `bestOf_cons_eq_ok`: **the step of a sweep that succeeds**. `bestOf_eq_ok`: the run.
- `findOptimal_eq_ok`: **a search passes all of its samples**, and notes nothing else of any amount.
- `countP_findOptimal`: what a search counts is what its samples count.
- `sampleSkipped_mem_iff`: the amounts that are reported as skipped.
-/

namespace TwoVenue

variable {q : Quoters} {buy sell : Market} {a : Decimal} {s : Settings}

/-- Whether an event is about a single amount. -/
def Event.isOfSample : Event → Bool
  | .quoteAsked .. | .quoteGiven .. | .sampleQuoted .. | .sampleSkipped .. | .sweepAborted .. => true
  | _ => false

/-- What becomes of an amount in a search that goes on. -/
inductive Passed (q : Quoters) (buy sell : Market) (a : Decimal) : Prop
  | made {o : Opportunity} (h : Makes q buy sell a o)
  | skipped {e : QuoteError} (h : (propose q buy sell a).outcome = .error (.error e)) (hlocal : e.isSampleLocal = true)

/-! ## The events of a sample -/

open Traced

theorem Event.OfProposal.isOfSample {e : Event} (h : e.OfProposal) : e.isOfSample = true := by
  cases e <;> first | rfl | exact h.elim

theorem sampleEvents_isOfSample : ∀ e ∈ sampleEvents q buy sell a, e.isOfSample = true := by
  intro e he
  rcases List.mem_append.1 he with he | he
  · exact (propose_ofProposal q buy sell a e he).isOfSample
  · split at he
    · rw [List.mem_singleton.1 he]
      rfl
    · cases he

/-- A sample is reported as skipped exactly with the error of its proposal. -/
theorem sampleSkipped_mem_sampleEvents {a' : Decimal} {e : QuoteError} :
    Event.sampleSkipped a e ∈ sampleEvents q buy sell a' ↔
      a = a' ∧ (propose q buy sell a').outcome = .error (.error e) := by
  have hsteps : Event.sampleSkipped a e ∉ (propose q buy sell a').events := propose_ofProposal q buy sell a' _
  rw [sampleEvents, List.mem_append, or_iff_right hsteps]
  cases (propose q buy sell a').outcome with
  | ok p => simp
  | error failure =>
    cases failure with
    | fault f => simp
    | error e' => simp [eq_comm]

/-! ## The sweep of a direction -/

/-- **The step of a sweep that succeeds**: its first amount is passed, and the others go on from there. -/
theorem bestOf_cons_eq_ok {best r : Option Opportunity} {rest : List Decimal}
    (h : (bestOf q buy sell best (a :: rest)).outcome = .ok r) :
    Passed q buy sell a ∧ ∃ best', (bestOf q buy sell best' rest).outcome = .ok r ∧
      (bestOf q buy sell best (a :: rest)).events =
        sampleEvents q buy sell a ++ (bestOf q buy sell best' rest).events := by
  obtain ⟨step, hstep, hrest, hevents⟩ := bestOf_cons q buy sell best a rest
  rw [hrest] at h
  cases hstep with
  | kept ho => exact ⟨.made ho, _, h, hevents _ rfl⟩
  | skipped ha hlocal => exact ⟨.skipped ha hlocal, _, h, hevents _ rfl⟩
  | stopped => cases h

/-- **The run of a sweep that succeeds**: all amounts are passed, in order. -/
theorem bestOf_eq_ok {amounts : List Decimal} {r : Option Opportunity} :
    ∀ {best}, (bestOf q buy sell best amounts).outcome = .ok r →
      (∀ a ∈ amounts, Passed q buy sell a) ∧
        (bestOf q buy sell best amounts).events = amounts.flatMap (sampleEvents q buy sell) := by
  induction amounts with
  | nil => exact fun _ => ⟨fun a ha => absurd ha List.not_mem_nil, rfl⟩
  | cons a rest ih =>
    intro best h
    obtain ⟨ha, best', hrest, hevents⟩ := bestOf_cons_eq_ok h
    obtain ⟨hpassed, hrest_events⟩ := ih hrest
    refine ⟨List.forall_mem_cons.2 ⟨ha, hpassed⟩, ?_⟩
    rw [hevents, hrest_events, List.flatMap_cons]

/-- What a search notes of single amounts. -/
def ofSamples (events : List Event) : List Event := events.filter (·.isOfSample)

theorem ofSamples_append (before after : List Event) : ofSamples (before ++ after) = ofSamples before ++ ofSamples after :=
  List.filter_append ..

theorem ofSamples_sampleEvents (amounts : List Decimal) :
    ofSamples (amounts.flatMap (sampleEvents q buy sell)) = amounts.flatMap (sampleEvents q buy sell) := by
  refine List.filter_eq_self.2 fun e he => ?_
  obtain ⟨a, -, he⟩ := List.mem_flatMap.1 he
  exact sampleEvents_isOfSample e he

theorem bestForDirection_eq_ok {r : Option Opportunity} (h : (bestForDirection s q buy sell).outcome = .ok r) :
    ∃ amounts, s.sweep = .ok amounts ∧ (∀ a ∈ amounts, Passed q buy sell a) ∧
      ofSamples (bestForDirection s q buy sell).events = amounts.flatMap (sampleEvents q buy sell) := by
  unfold bestForDirection at h ⊢
  obtain ⟨amounts, hamounts, h⟩ := bind_eq_ok.1 h
  obtain ⟨best, hbest, h⟩ := bind_eq_ok.1 h
  obtain ⟨hpassed, hevents⟩ := bestOf_eq_ok hbest
  rw [bind_of_ok hamounts, bind_of_ok hbest]
  rw [liftM_outcome, Outcome.ofArithmetic_eq_ok] at hamounts
  refine ⟨amounts, hamounts, hpassed, ?_⟩
  show ofSamples ([] ++ (_ ++ _)) = _
  rw [List.nil_append, ofSamples_append, hevents, ofSamples_sampleEvents]
  -- what comes after the amounts is about the best one of them
  refine List.append_right_eq_self.2 ?_
  cases best with
  | none => rfl
  | some o =>
    dsimp only
    split <;> rfl

/-! ## The whole search -/

/-- **A search that succeeds** has passed every amount of its sweep in both directions, and the events of these samples
are all that it notes of any amount. -/
theorem findOptimal_eq_ok {r : Option Opportunity} (h : (findOptimal s q).outcome = .ok r) :
    ∃ amounts, s.sweep = .ok amounts ∧ (∀ a ∈ amounts, ∀ m : Market, Passed q m m.other a) ∧
      ofSamples (findOptimal s q).events =
        amounts.flatMap (sampleEvents q .first .second) ++ amounts.flatMap (sampleEvents q .second .first) := by
  unfold findOptimal at h ⊢
  obtain ⟨first, hfirst, h⟩ := bind_eq_ok.1 h
  obtain ⟨second, hsecond, -⟩ := bind_eq_ok.1 h
  obtain ⟨amounts, hamounts, hpassed, hevents⟩ := bestForDirection_eq_ok hfirst
  obtain ⟨amounts', hamounts', hpassed', hevents'⟩ := bestForDirection_eq_ok hsecond
  cases hamounts.symm.trans hamounts'
  refine ⟨amounts, hamounts, fun a ha m => ?_, ?_⟩
  · cases m with
    | first => exact hpassed a ha
    | second => exact hpassed' a ha
  · rw [bind_of_ok hfirst, bind_of_ok hsecond, ofSamples_append, ofSamples_append, hevents, hevents']
    exact congrArg _ (List.append_nil _)

/-- If every amount counts one event or none, then these are the amounts that count one. -/
theorem countP_flatMap_of_indicator {events : Decimal → List Event} {p : Event → Bool} {t : Decimal → Bool}
    {amounts : List Decimal} (h : ∀ a ∈ amounts, (events a).countP p = if t a then 1 else 0) :
    (amounts.flatMap events).countP p = amounts.countP t := by
  induction amounts with
  | nil => rfl
  | cons a rest ih =>
    obtain ⟨ha, hrest⟩ := List.forall_mem_cons.1 h
    rw [List.flatMap_cons, List.countP_append, ha, ih hrest, List.countP_cons, Nat.add_comm]

/-- **What a search counts is what its samples count**, as long as it is about single amounts and each sample counts one
event or none. -/
theorem countP_findOptimal {r : Option Opportunity} {amounts : List Decimal} {p : Event → Bool}
    {t : Market → Decimal → Bool} (h : (findOptimal s q).outcome = .ok r) (hamounts : s.sweep = .ok amounts)
    (hp : ∀ e, p e = true → e.isOfSample = true)
    (hsample : ∀ a ∈ amounts, ∀ m : Market, (sampleEvents q m m.other a).countP p = if t m a then 1 else 0) :
    (findOptimal s q).events.countP p = amounts.countP (t .first) + amounts.countP (t .second) := by
  obtain ⟨amounts', hamounts', -, hevents⟩ := findOptimal_eq_ok h
  cases hamounts.symm.trans hamounts'
  have hfilter : (findOptimal s q).events.countP p = (ofSamples (findOptimal s q).events).countP p := by
    rw [ofSamples, List.countP_filter]
    refine List.countP_congr fun e _ => ?_
    rw [Bool.and_eq_true]
    exact ⟨fun he => ⟨he, hp e he⟩, fun he => he.1⟩
  have hfirst : (amounts.flatMap (sampleEvents q .first .second)).countP p = amounts.countP (t .first) :=
    countP_flatMap_of_indicator fun a ha => hsample a ha .first
  have hsecond : (amounts.flatMap (sampleEvents q .second .first)).countP p = amounts.countP (t .second) :=
    countP_flatMap_of_indicator fun a ha => hsample a ha .second
  rw [hfilter, hevents, List.countP_append, hfirst, hsecond]

/-- An amount is reported as skipped exactly if it makes no proposal in one of the directions. -/
theorem sampleSkipped_mem_iff {r : Option Opportunity} {amounts : List Decimal} {e : QuoteError}
    (h : (findOptimal s q).outcome = .ok r) (hamounts : s.sweep = .ok amounts) :
    Event.sampleSkipped a e ∈ (findOptimal s q).events ↔
      a ∈ amounts ∧ ∃ m : Market, (propose q m m.other a).outcome = .error (.error e) := by
  obtain ⟨amounts', hamounts', -, hevents⟩ := findOptimal_eq_ok h
  cases hamounts.symm.trans hamounts'
  have hmem : Event.sampleSkipped a e ∈ (findOptimal s q).events ↔
      Event.sampleSkipped a e ∈ ofSamples (findOptimal s q).events := by
    rw [ofSamples, List.mem_filter]
    exact (and_iff_left rfl).symm
  have hdirection : ∀ m : Market, Event.sampleSkipped a e ∈ amounts.flatMap (sampleEvents q m m.other) ↔
      a ∈ amounts ∧ (propose q m m.other a).outcome = .error (.error e) := by
    intro m
    rw [List.mem_flatMap]
    constructor
    · rintro ⟨a', ha', he⟩
      obtain ⟨rfl, he⟩ := sampleSkipped_mem_sampleEvents.1 he
      exact ⟨ha', he⟩
    · rintro ⟨ha, he⟩
      exact ⟨a, ha, sampleSkipped_mem_sampleEvents.2 ⟨rfl, he⟩⟩
  rw [hmem, hevents, List.mem_append]
  constructor
  · rintro (he | he)
    · obtain ⟨ha, he⟩ := (hdirection .first).1 he
      exact ⟨ha, .first, he⟩
    · obtain ⟨ha, he⟩ := (hdirection .second).1 he
      exact ⟨ha, .second, he⟩
  · rintro ⟨ha, m, he⟩
    cases m with
    | first => exact Or.inl ((hdirection .first).2 ⟨ha, he⟩)
    | second => exact Or.inr ((hdirection .second).2 ⟨ha, he⟩)

end TwoVenue
