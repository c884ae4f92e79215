import TwoVenue.Engine.Session
import TwoVenue.Proofs.Report.Totals
import TwoVenue.Proofs.Search.Skips

/-!
# Requests of a search

A search asks for as many purchases on each market as it has amounts. It asks for a sale only once the purchase of the
same amount is quoted, and the checks of both quotes come after that. So the requests can be counted from the curves of
the two markets alone, and so can the samples that are skipped.

- `Session.asked`: the requests for one side of a market. `Session.calls_eq`: a market has two sides.
- `countP_asks_propose`: **the requests of a sample**. `skipped_sampleEvents`: whether it is reported as skipped.
- `Session.Tallied`: what a search of two scripted sources adds to the counts of a session.
- `Session.follow_findOptimal`: **every search adds just that**.
-/

namespace TwoVenue

variable {q : Quoters} {buy sell m : Market} {side : Side} {a : Decimal}

/-! ## What is counted -/

/-- Whether an event is a request for a side of a market. -/
def Event.asks (m : Market) (side : Side) : Event → Bool
  | .quoteAsked market asked => decide (market = m ∧ asked = side)
  | _ => false

namespace Session

/-- How many quotes of one side a market has been asked for. -/
def asked (s : Session) (m : Market) (side : Side) : Nat := s.engine.journal.toList.countP (Event.asks m side)

/-- How many samples have been skipped. -/
def skipped (s : Session) : Nat := Metric.total .samplesSkipped s.engine.journal.toList

/-- A market is asked for purchases and for sales, and for nothing else. -/
theorem calls_eq (s : Session) (m : Market) : s.calls m = s.asked m .buy + s.asked m .sell := by
  unfold calls asked
  induction s.engine.journal.toList with
  | nil => rfl
  | cons e rest ih =>
    rw [List.countP_cons, List.countP_cons, List.countP_cons, ih]
    cases e with
    | quoteAsked market side => cases side <;> by_cases hm : market = m <;> simp [Event.asks, hm] <;> omega
    | _ => simp [Event.asks]

end Session

/-! ## The requests of a sample -/

open Traced

theorem countP_asks_askQuote (q : Quoters) (market : Market) (asked : Side) (a : Decimal) (m : Market) (side : Side) :
    (askQuote q market asked a).events.countP (Event.asks m side) = if market = m ∧ asked = side then 1 else 0 := by
  have hevents : ∃ given : List Event, (∀ e ∈ given, Event.asks m side e ≠ true) ∧
      (askQuote q market asked a).events = .quoteAsked market asked :: given := by
    unfold askQuote
    rw [bind_of_ok (emit_outcome _)]
    cases hquote : (q market).quote asked a with
    | error failure =>
      rw [bind_of_error (ofOutcome_outcome _)]
      exact ⟨[], nofun, rfl⟩
    | ok quote =>
      rw [bind_of_ok (ofOutcome_outcome _)]
      by_cases hannounces : (q market).announces = true
      · refine ⟨[.quoteGiven asked quote.price], fun e he => ?_, by rw [if_pos hannounces]; rfl⟩
        rw [List.mem_singleton.1 he]
        nofun
      · exact ⟨[], nofun, by rw [if_neg hannounces]; rfl⟩
  obtain ⟨given, hgiven, hevents⟩ := hevents
  -- what is given is no request
  rw [hevents, List.countP_cons, List.countP_eq_zero.2 hgiven, Nat.zero_add]
  simp [Event.asks]

/-- **The requests of a sample**: the purchase, and the sale if the purchase is quoted. -/
theorem countP_asks_propose (q : Quoters) (buy sell : Market) (a : Decimal) :
    (propose q buy sell a).events.countP (Event.asks m side) =
      (if buy = m ∧ Side.buy = side then 1 else 0) +
        if ((q buy).quote .buy a).isOk = true ∧ sell = m ∧ Side.sell = side then 1 else 0 := by
  unfold propose
  have hbuy := countP_asks_askQuote q buy .buy a m side
  have hsell := countP_asks_askQuote q sell .sell a m side
  cases hbought : (q buy).quote .buy a with
  | error failure =>
    rw [bind_of_error ((askQuote_outcome q buy .buy a).trans hbought), hbuy]
    simp [Except.isOk, Except.toBool]
  | ok buyQuote =>
    rw [bind_of_ok ((askQuote_outcome q buy .buy a).trans hbought), List.countP_append, hbuy]
    cases hsold : (q sell).quote .sell a with
    | error failure =>
      rw [bind_of_error ((askQuote_outcome q sell .sell a).trans hsold), hsell]
      simp [Except.isOk, Except.toBool]
    | ok sellQuote =>
      -- the checks of the two quotes ask for nothing more, whether they pass or not
      rw [bind_of_ok ((askQuote_outcome q sell .sell a).trans hsold), List.countP_append, hsell,
        bind_of_ok (emit_outcome _)]
      simp [Except.isOk, Except.toBool, ofOutcome, Event.asks]

theorem countP_asks_sampleEvents (q : Quoters) (buy sell : Market) (a : Decimal) :
    (sampleEvents q buy sell a).countP (Event.asks m side) = (propose q buy sell a).events.countP (Event.asks m side) := by
  rw [sampleEvents, List.countP_append]
  split <;> rfl

/-- A sample that is passed counts as skipped once if it makes no proposal, and otherwise not. -/
theorem Passed.skipped_sampleEvents (h : Passed q buy sell a) :
    Metric.total .samplesSkipped (sampleEvents q buy sell a) = if (propose q buy sell a).outcome.isOk then 0 else 1 := by
  have hsteps : Metric.total .samplesSkipped (propose q buy sell a).events = 0 := by
    refine Metric.total_eq_zero fun e he hcounts => ?_
    have hkind := propose_ofProposal q buy sell a e he
    cases e <;> first | exact hkind.elim | cases hcounts
  rw [sampleEvents, Metric.total_append, hsteps, Nat.zero_add]
  cases h with
  | made h =>
    rw [h.proposal]
    rfl
  | skipped h =>
    rw [h]
    rfl

/-! ## The counts of a search -/

section Search

variable {s : Settings} {r : Option Opportunity} {amounts : List Decimal}

theorem Event.isOfSample_of_asks {e : Event} (h : Event.asks m side e = true) : e.isOfSample = true := by
  cases e with
  | quoteAsked => rfl
  | _ => cases h

/-- **A search asks each market for a purchase of every amount.** -/
theorem countP_asks_buy (h : (findOptimal s q).outcome = .ok r) (hamounts : s.sweep = .ok amounts) (m : Market) :
    (findOptimal s q).events.countP (Event.asks m .buy) = amounts.length := by
  rw [countP_findOptimal (t := fun m' _ => decide (m' = m)) h hamounts fun _ => Event.isOfSample_of_asks]
  · cases m <;> simp
  · intro a _ m'
    rw [countP_asks_sampleEvents, countP_asks_propose]
    simp

/-- **A search asks each market for a sale of every amount that the other one sells.** -/
theorem countP_asks_sell (h : (findOptimal s q).outcome = .ok r) (hamounts : s.sweep = .ok amounts) (m : Market) :
    (findOptimal s q).events.countP (Event.asks m .sell) =
      amounts.countP fun a => ((q m.other).quote .buy a).isOk := by
  rw [countP_findOptimal (t := fun m' a => decide (m'.other = m) && ((q m').quote .buy a).isOk) h hamounts
    fun _ => Event.isOfSample_of_asks]
  · cases m <;> simp [Market.other]
  · intro a _ m'
    rw [countP_asks_sampleEvents, countP_asks_propose]
    simp [and_comm]

/-- Whether an amount makes a proposal in a direction. The direction has the market on which it buys. -/
def evaluated (q : Quoters) (m : Market) (a : Decimal) : Bool := (propose q m m.other a).outcome.isOk

/-- **A search counts the samples as skipped that make no proposal.** -/
theorem total_samplesSkipped (h : (findOptimal s q).outcome = .ok r) (hamounts : s.sweep = .ok amounts) :
    Metric.total .samplesSkipped (findOptimal s q).events =
      amounts.countP (!evaluated q .first ·) + amounts.countP (!evaluated q .second ·) := by
  obtain ⟨amounts', hamounts', hpassed, -⟩ := findOptimal_eq_ok h
  cases hamounts.symm.trans hamounts'
  refine countP_findOptimal (t := fun m a => !evaluated q m a) h hamounts (fun e he => ?_) fun a ha m => ?_
  · cases e with
    | sampleSkipped => rfl
    | _ => cases of_decide_eq_true he
  · refine (hpassed a ha m).skipped_sampleEvents.trans ?_
    unfold evaluated
    cases (propose q m m.other a).outcome.isOk <;> rfl

end Search

/-! ## Scripted sources -/

/-- Whether a curve has a price for an amount. -/
def hasPrice (curve : PriceCurve) (a : Decimal) : Bool :=
  match curve a with
  | .ok (some _) => true
  | _ => false

/-- A venue answers just the amounts that its curve has a price for. -/
theorem Quoter.Follows.isOk_quote {venue : Quoter} {curve : Side → PriceCurve} {fee : Side → Decimal}
    (h : venue.Follows curve fee a) : (venue.quote side a).isOk = hasPrice (curve side) a := by
  unfold hasPrice
  cases hcurve : curve side a with
  | error f =>
    rw [h.broken hcurve]
    rfl
  | ok price =>
    cases price with
    | some price =>
      rw [h.priced hcurve]
      rfl
    | none =>
      obtain ⟨available, hunfilled⟩ := h.unfilled hcurve
      rw [hunfilled]
      rfl

section Scripted

variable {source : Market → ScriptedSource}

/-- Two scripted sources, as a search sees them. -/
def scriptedQuoters (source : Market → ScriptedSource) : Quoters := fun m => (Source.scripted (source m)).quoter

/-- Whether one of the two sources of a direction is unfit for an amount. -/
def unfit (source : Market → ScriptedSource) (m : Market) (a : Decimal) : Bool :=
  decide (Unfit ((source m).buyCurve a) (source m).buyFee ∨ Unfit ((source m.other).sellCurve a) (source m.other).sellFee)

/-- Available sources refuse single amounts only. -/
theorem scriptedQuoters_isSampleLocal {e : QuoteError} (havailable : ∀ m, (source m).unavailable = false)
    (h : (scriptedQuoters source m).quote side a = .error (.error e)) : e.isSampleLocal = true := by
  obtain ⟨available, rfl⟩ := (ScriptedSource.follows (havailable m)).eq_of_error h
  rfl

/-- **Every sample falls into exactly one class**: it makes a proposal, or one of its sources is unfit for it. -/
theorem not_evaluated_eq (hvenues : (source .first).venue ≠ (source .second).venue)
    (havailable : ∀ m, (source m).unavailable = false) (ha : 0 < a)
    (hpassed : Passed (scriptedQuoters source) m m.other a) :
    (!evaluated (scriptedQuoters source) m a) = unfit source m a := by
  have hne : (scriptedQuoters source m).venue ≠ (scriptedQuoters source m.other).venue :=
    Market.apply_ne_other (f := fun m => (source m).venue) hvenues m
  have hskipped : (∃ e, (propose (scriptedQuoters source) m m.other a).outcome = .error (.error e)) ↔
      Unfit ((source m).buyCurve a) (source m).buyFee ∨ Unfit ((source m.other).sellCurve a) (source m.other).sellFee :=
    skipped_iff (fun m => (source m).curve) (fun m => (source m).fee) ha hne
      (fun m => ScriptedSource.follows (havailable m)) hpassed
  unfold evaluated unfit
  cases hpassed with
  | made h =>
    rw [h.proposal] at hskipped ⊢
    have hfit := mt hskipped.2 (by rintro ⟨e, ⟨⟩⟩)
    rw [decide_eq_false hfit]
    rfl
  | skipped h =>
    rw [decide_eq_true (hskipped.1 ⟨_, h⟩), h]
    rfl

end Scripted

/-! ## The counts of a session -/

namespace Session

/-- What a search of two scripted sources adds to the counts of a session: on each market as many purchases as there are
amounts, and as many sales as there are amounts that the other market sells; and as many skipped samples as there are
amounts that a source of their direction is unfit for. -/
structure Tallied (before after : Session) (source : Market → ScriptedSource) (amounts : List Decimal) : Prop where
  bought : ∀ m, after.asked m .buy = before.asked m .buy + amounts.length
  sold : ∀ m, after.asked m .sell = before.asked m .sell + amounts.countP (hasPrice (source m.other).buyCurve)
  calls_le : ∀ m, after.calls m ≤ before.calls m + 2 * amounts.length
  skipped : after.skipped =
    before.skipped + (amounts.countP (unfit source .first) + amounts.countP (unfit source .second))
  /-- The samples that are not skipped make proposals. -/
  classified : after.skipped + (amounts.countP (evaluated (scriptedQuoters source) .first) +
    amounts.countP (evaluated (scriptedQuoters source) .second)) = before.skipped + 2 * amounts.length

/-- The counts of a session grow by those of the events that it follows. -/
theorem countP_follow {ε α : Type} (s : Session) (x : Traced ε α) (p : Event → Bool) :
    (s.follow x).2.engine.journal.toList.countP p = s.engine.journal.toList.countP p + x.events.countP p := by
  simp [follow]

/-- **The guarantee of the counts.** Whatever the curves and the fees of two scripted sources on different venues are: as
long as both are available and no arithmetic fails, a search asks each of them for one purchase per amount of the sweep
and for one sale per amount that the other one sells, which are at most two requests per amount. The counter of skipped
samples grows by the samples for which a curve has no price, or one that is not positive, or a fee is not in `[0, 1)`;
all others make a proposal, and together they are as many as the two directions have amounts. -/
theorem follow_findOptimal (s : Session) (source : Market → ScriptedSource)
    (hsource : ∀ m, s.engine.source m = .scripted (source m))
    (hvenues : (source .first).venue ≠ (source .second).venue) (havailable : ∀ m, (source m).unavailable = false)
    (noFault : ∀ f, (findOptimal s.engine.settings s.engine.quoters).outcome ≠ .error (.fault f)) :
    ∃ amounts, s.engine.settings.sweep = .ok amounts ∧ amounts.length = s.engine.settings.sweepSteps.toNat ∧
      s.Tallied (s.follow (findOptimal s.engine.settings s.engine.quoters)).2 source amounts := by
  have hquoters : s.engine.quoters = scriptedQuoters source := by
    funext m
    show (s.engine.source m).quoter = _
    rw [hsource]
    rfl
  rw [hquoters] at noFault ⊢
  obtain ⟨r, hr⟩ := exists_findOptimal (fun _ _ _ _ => scriptedQuoters_isSampleLocal havailable) noFault
  obtain ⟨amounts, hamounts, hpassed, -⟩ := findOptimal_eq_ok hr
  have hbought : ∀ m, (s.follow (findOptimal s.engine.settings (scriptedQuoters source))).2.asked m .buy =
      s.asked m .buy + amounts.length :=
    fun m => (s.countP_follow _ _).trans (congrArg _ (countP_asks_buy hr hamounts m))
  have hsold : ∀ m, (s.follow (findOptimal s.engine.settings (scriptedQuoters source))).2.asked m .sell =
      s.asked m .sell + amounts.countP (hasPrice (source m.other).buyCurve) := by
    intro m
    refine (s.countP_follow _ _).trans (congrArg _ ((countP_asks_sell hr hamounts m).trans ?_))
    refine List.countP_congr fun a _ => ?_
    have hanswers : ((scriptedQuoters source m.other).quote .buy a).isOk = hasPrice (source m.other).buyCurve a :=
      (ScriptedSource.follows (havailable m.other)).isOk_quote
    rw [hanswers]
  have hunfit : ∀ m, amounts.countP (!evaluated (scriptedQuoters source) m ·) = amounts.countP (unfit source m) := by
    intro m
    refine List.countP_congr fun a ha => ?_
    rw [not_evaluated_eq hvenues havailable (Settings.pos_of_mem_sweep hamounts ha) (hpassed a ha m)]
  have hskipped : (s.follow (findOptimal s.engine.settings (scriptedQuoters source))).2.skipped =
      s.skipped + (amounts.countP (unfit source .first) + amounts.countP (unfit source .second)) := by
    refine (s.countP_follow _ _).trans (congrArg _ ((total_samplesSkipped hr hamounts).trans ?_))
    rw [hunfit, hunfit]
  refine ⟨amounts, hamounts, Settings.length_sweep hamounts, hbought, hsold, fun m => ?_, hskipped, ?_⟩
  · rw [calls_eq, calls_eq, hbought, hsold]
    have hle : amounts.countP (hasPrice (source m.other).buyCurve) ≤ amounts.length := List.countP_le_length
    omega
  · have hclasses : ∀ m, amounts.countP (evaluated (scriptedQuoters source) m) + amounts.countP (unfit source m) =
        amounts.length := by
      intro m
      rw [← hunfit]
      simpa using (List.length_eq_countP_add_countP (evaluated (scriptedQuoters source) m) (l := amounts)).symm
    have hfirst := hclasses .first
    have hsecond := hclasses .second
    rw [hskipped]
    omega

/-- The first source sells up to 1.5 at a price of 100, and the second one gives everything away. -/
def givingAway : Market → ScriptedSource
  | .first => ⟨threeAmounts.market1, fun a => .ok (if a ≤ 1.5 then some 100 else none), fun _ => .ok (some 99), 0, 0, false⟩
  | .second => ⟨threeAmounts.market2, fun _ => .ok (some 0), fun _ => .ok (some 104), 0.001, 0.001, false⟩

/-- A session with the sources `givingAway`. -/
def givingAwaySession : Session :=
  .start (.start threeAmounts (.scripted (givingAway .first)) (.scripted (givingAway .second)) .empty) 0 false

/-- Of the three amounts of `threeAmounts` the first source sells two, so the second one is asked for two sales. It has no
price that is positive, so it makes no proposal, but the first one is asked for three sales all the same. -/
theorem follow_findOptimal_givingAway :
    (∀ m, givingAwaySession.engine.source m = .scripted (givingAway m)) ∧
      (givingAway .first).venue ≠ (givingAway .second).venue ∧ (∀ m, (givingAway m).unavailable = false) ∧
      ∃ after, after =
          (givingAwaySession.follow (findOptimal givingAwaySession.engine.settings givingAwaySession.engine.quoters)).2 ∧
        after.asked .first .buy = 3 ∧ after.asked .first .sell = 3 ∧ after.asked .second .buy = 3 ∧
        after.asked .second .sell = 2 ∧ after.skipped = 4 := by
  have hsource : ∀ m, givingAwaySession.engine.source m = .scripted (givingAway m) := by
    intro m
    cases m <;> rfl
  have hvenues : (givingAway .first).venue ≠ (givingAway .second).venue := by decide
  have havailable : ∀ m, (givingAway m).unavailable = false := by
    intro m
    cases m <;> rfl
  have noFault : ∀ f,
      (findOptimal givingAwaySession.engine.settings givingAwaySession.engine.quoters).outcome ≠ .error (.fault f) :=
    Outcome.ne_fault_of_isOk (by decide +kernel)
  obtain ⟨amounts, hamounts, -, htallied⟩ :=
    follow_findOptimal givingAwaySession givingAway hsource hvenues havailable noFault
  have hsweep : givingAwaySession.engine.settings.sweep = .ok [1, 1.50, 2] := by decide +kernel
  cases hamounts.symm.trans hsweep
  refine ⟨hsource, hvenues, havailable, _, rfl, htallied.bought .first, (htallied.sold .first).trans ?_,
    htallied.bought .second, (htallied.sold .second).trans ?_, htallied.skipped.trans ?_⟩
  · decide +kernel
  · decide +kernel
  · decide +kernel

end Session

end TwoVenue
