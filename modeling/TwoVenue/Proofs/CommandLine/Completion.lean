import TwoVenue.CommandLine.Program
import TwoVenue.Proofs.Engine.Freshness
import TwoVenue.Proofs.Engine.Outage
import TwoVenue.Proofs.Report.Faults
import TwoVenue.Proofs.Search.Faults

/-!
# How far a cycle comes

The cycle over the books of a file searches, reports, and prices the orders of what it has found. Its arithmetic is
checked nowhere, so a file with prices that are too large crashes it, and so do settings with more amounts than a list has
room for. Still, no file makes it divide by zero, and as long as all numbers keep to some digits it runs to its end.

- `Config.Within`, `Books.Within`: settings and books that keep to some digits.
- `Loaded`: the engine of a configuration with the books of a file, before its first cycle.
- `Optimization.Breaks`: the faults that can end a cycle. `finish_crashes_iff`: **a crash is one of them**.
- `Loaded.fault_of_breaks`, `Loaded.not_breaks`: which faults there are, and when there are none.
- `finish_completes`: **what a cycle does with a file**.
- `not_every_cycle_completes`: **the digits cannot be left out**, since there are files that crash the cycle.
-/

namespace TwoVenue

open Decimal

/-- Whether the amounts and buffers of a configuration keep to some digits. -/
structure Config.Within (d : Digits) (c : Config) : Prop where
  amount_le : c.maxOrderAmount.toRat ≤ 10 ^ d.amount
  buffer1_le : c.market1SlippageBuffer.toRat ≤ 10 ^ d.buffer
  buffer2_le : c.market2SlippageBuffer.toRat ≤ 10 ^ d.buffer

/-- Whether the books of both markets keep to some digits, as far as there are any. -/
def Books.Within (d : Digits) (c : Config) (books : Books) : Prop :=
  ∀ m book, books.find? (c.venue m) = some book → book.Within d

/-- The limits of a configuration are those of its settings. -/
theorem limits_of_validate {c : Config} {s : Settings} (h : c.validate = .ok s) :
    s.maxOrderAmount = c.maxOrderAmount ∧ s.market1SlippageBuffer = c.market1SlippageBuffer ∧
      s.market2SlippageBuffer = c.market2SlippageBuffer ∧ s.sweepSteps = c.sweepSteps := by
  unfold Config.validate at h
  split at h
  · cases h
  · iterate 8
      split at h
      · cases h
    cases h
    exact ⟨rfl, rfl, rfl, rfl⟩

namespace Engine

/-- A cycle leaves the sources alone. -/
theorem evaluate_source (e : Engine) : (evaluate.run e).2.source = e.source := funext (evaluate_quiet e).source

/-- A cycle that answers has found what its search has found, and remembers it. -/
theorem evaluate_eq_ok {e : Engine} {best : Option Opportunity} (h : (evaluate.run e).1 = .ok best) :
    (findOptimal e.settings e.quoters).outcome = .ok best ∧ (evaluate.run e).2.last = best.or e.last := by
  obtain ⟨events, hends⟩ := evaluate_ends e
  generalize (findOptimal e.settings e.quoters).outcome = found, (evaluate.run e).1 = answer,
    (evaluate.run e).2 = e' at hends h ⊢
  cases hends with
  | broken => cases h
  | aborted => cases h
  | nothing =>
    cases h
    exact ⟨rfl, rfl⟩
  | found o =>
    cases h
    exact ⟨rfl, rfl⟩

/-- A fault of a cycle without orders is one of its search. -/
theorem evaluate_eq_fault {e : Engine} {f : Fault} (h : (evaluate.run e).1 = .error (.fault f)) :
    (findOptimal e.settings e.quoters).outcome = .error (.fault f) := by
  obtain ⟨events, hends⟩ := evaluate_ends e
  generalize (findOptimal e.settings e.quoters).outcome = found, (evaluate.run e).1 = answer,
    (evaluate.run e).2 = e' at hends h ⊢
  cases hends with
  | broken =>
    cases h
    rfl
  | aborted => cases h
  | nothing => cases h
  | found => cases h

end Engine

namespace CommandLine

variable {plan : Optimization} {file : FileContents} {e : Engine} {c : Config} {books : Books}

/-! ## Crashes -/

/-- A fault that ends the cycle over a file. -/
inductive Optimization.Breaks (plan : Optimization) (file : FileContents) : Fault → Prop
  | search {e : Engine} {f : Fault} (hrefresh : plan.engine.refresh file = .ok e)
      (h : (Engine.evaluate.run e).1 = .error (.fault f)) : Breaks plan file f
  | report {e : Engine} {best : Option Opportunity} {f : Fault} (hrefresh : plan.engine.refresh file = .ok e)
      (hevaluate : (Engine.evaluate.run e).1 = .ok best)
      (h : ((Engine.evaluate.run e).2.report 0).outcome = .error (.fault f)) : Breaks plan file f
  | candidates {e : Engine} {o : Opportunity} {f : Fault} (hrefresh : plan.engine.refresh file = .ok e)
      (hevaluate : (Engine.evaluate.run e).1 = .ok (some o))
      (h : o.proposal.candidates (Engine.evaluate.run e).2.settings = .error f) : Breaks plan file f

theorem Exit.ofEngineError_code (error : EngineError) : (Exit.ofEngineError error).code = 1 := by
  cases error <;> rfl

/-- What is left of a cycle once the books are read. -/
theorem finish_of_refresh (hrefresh : plan.engine.refresh file = .ok e) :
    plan.finish file =
      match (Engine.evaluate.run e).1 with
      | .error (.fault _) => .crash ""
      | .error (.error error) => .ofEngineError error
      | .ok best =>
        match ((Engine.evaluate.run e).2.report 0).outcome with
        | .error _ => .crash ""
        | .ok report =>
          match best with
          | none => .success (report.text ++ "\n")
          | some o => printCandidates (Engine.evaluate.run e).2.settings (report.text ++ "\n") o := by
  have hrun : Engine.evaluate.run.run e = Engine.evaluate.run e := rfl
  unfold Optimization.finish
  rw [hrefresh]
  dsimp only
  rw [hrun]
  rcases Engine.evaluate.run e with ⟨(failure | error) | best, e'⟩ <;> rfl

/-- A cycle that its engine stops ends with an error. -/
theorem finish_of_error {error : EngineError} (hrefresh : plan.engine.refresh file = .ok e)
    (h : (Engine.evaluate.run e).1 = .error (.error error)) : (plan.finish file).code = 1 := by
  rw [finish_of_refresh hrefresh, h]
  exact Exit.ofEngineError_code error

/-- A cycle with an answer ends with success, unless a fault ends it. -/
theorem finish_of_ok {best : Option Opportunity} (hrefresh : plan.engine.refresh file = .ok e)
    (h : (Engine.evaluate.run e).1 = .ok best) (hno : ∀ f, ¬ plan.Breaks file f) : (plan.finish file).code = 0 := by
  rw [finish_of_refresh hrefresh, h]
  dsimp only
  cases hreport : ((Engine.evaluate.run e).2.report 0).outcome with
  | error failure =>
    obtain ⟨f, rfl, -⟩ := Engine.report_eq_error hreport
    exact absurd (.report hrefresh h hreport) (hno f)
  | ok report =>
    cases best with
    | none => rfl
    | some o =>
      dsimp only
      unfold printCandidates
      cases hcandidates : o.proposal.candidates (Engine.evaluate.run e).2.settings with
      | error f => exact absurd (.candidates hrefresh h hcandidates) (hno f)
      | ok orders => rfl

/-- **A crash is a fault of one of the three parts of a cycle.** -/
theorem finish_crashes_iff (plan : Optimization) (file : FileContents) :
    (plan.finish file).code = 101 ↔ ∃ f, plan.Breaks file f := by
  constructor
  · intro h
    by_contra hno
    have hno := not_exists.1 hno
    cases hrefresh : plan.engine.refresh file with
    | error error =>
      have hcode : (plan.finish file).code = 1 := by
        unfold Optimization.finish
        rw [hrefresh]
        exact Exit.ofEngineError_code error
      omega
    | ok e =>
      cases hevaluate : (Engine.evaluate.run e).1 with
      | ok best => have := finish_of_ok hrefresh hevaluate hno; omega
      | error failure =>
        cases failure with
        | fault f => exact hno f (.search hrefresh hevaluate)
        | error error => have := finish_of_error hrefresh hevaluate; omega
  · rintro ⟨f, hf⟩
    cases hf with
    | search hrefresh h =>
      rw [finish_of_refresh hrefresh, h]
      rfl
    | report hrefresh hevaluate h =>
      rw [finish_of_refresh hrefresh, hevaluate]
      dsimp only
      rw [h]
      rfl
    | @candidates e o f hrefresh hevaluate h =>
      rw [finish_of_refresh hrefresh, hevaluate]
      dsimp only
      cases ((Engine.evaluate.run e).2.report 0).outcome with
      | error failure => rfl
      | ok report =>
        dsimp only
        unfold printCandidates
        rw [h]
        rfl

/-! ## Faults -/

/-- The engine of a configuration that has been given some books, before its first cycle. -/
structure Loaded (c : Config) (books : Books) (e : Engine) : Prop where
  wired : Engine.Wired c e
  source : ∀ m, e.source m = (c.venue m).holding (some books)
  last : e.last = none

theorem loaded_of_ofConfig {path : Option String} (hplan : Optimization.ofConfig c path = .ok plan)
    (hload : Books.load file = .ok books) : ∃ e, plan.engine.refresh file = .ok e ∧ Loaded c books e := by
  obtain ⟨engine, hbuild, h⟩ := Outcome.bind_eq_ok.1 hplan
  cases h
  refine ⟨engine.refreshFrom books, Engine.refresh_of_load hload,
    (Engine.wired_build hbuild).step (.refresh engine books), fun m => ?_, ?_⟩
  · rw [Engine.refreshFrom_source, (Engine.Fed.build hbuild).source, Venue.refresh_holding]
  · obtain ⟨settings, -, h⟩ := Outcome.bind_eq_ok.1 hbuild
    cases h
    rfl

namespace Loaded

theorem fromBooks (h : Loaded c books e) : FromBooks (fun _ => True) e.source :=
  fun m => ⟨_, trivial, h.source m⟩

/-- Snapshots of books within some digits are within these digits. -/
theorem fromBooks_within {d : Digits} (h : Loaded c books e) (hbooks : Books.Within d c books) :
    FromBooks (BookSource.Within d) e.source := by
  intro m
  refine ⟨_, ?_, h.source m⟩
  intro book hbook
  obtain ⟨b, hfind, rfl⟩ := Option.map_eq_some_iff.1 hbook
  exact ⟨b, rfl, hbooks m b hfind⟩

theorem sweepSteps (h : Loaded c books e) : e.settings.sweepSteps = c.sweepSteps :=
  (limits_of_validate h.wired.settings).2.2.2

/-- **All faults of a cycle**: a number is too large, or the amounts of the sweep have no room. -/
theorem fault_of_breaks {f : Fault} (h : Loaded c books e) (hrefresh : plan.engine.refresh file = .ok e)
    (hf : plan.Breaks file f) : f.tooLarge = true ∨ f = .capacityOverflow ∧ 2 ^ 58 < c.sweepSteps.toNat := by
  cases hf with
  | search hrefresh' hevaluate =>
    cases hrefresh.symm.trans hrefresh'
    rw [← h.sweepSteps]
    exact fault_of_findOptimal h.fromBooks (Engine.evaluate_eq_fault hevaluate)
  | report hrefresh' hevaluate hreport =>
    cases hrefresh.symm.trans hrefresh'
    obtain ⟨f', heq, hunreported⟩ := Engine.report_eq_error hreport
    cases heq
    refine Or.inl (Engine.tooLarge_of_unreported ?_ hunreported)
    rw [Engine.evaluate_source]
    exact h.fromBooks
  | candidates _ _ hcandidates =>
    by_contra hother
    exact Proposal.candidates_avoids (Bool.eq_false_iff.2 fun hlarge => hother (Or.inl hlarge)) _ _ hcandidates

/-- **A cycle lacks room exactly if its sweep does.** -/
theorem breaks_capacityOverflow_iff (h : Loaded c books e) (hrefresh : plan.engine.refresh file = .ok e) :
    plan.Breaks file .capacityOverflow ↔ 2 ^ 58 < c.sweepSteps.toNat := by
  constructor
  · intro hbreaks
    rcases h.fault_of_breaks hrefresh hbreaks with hlarge | ⟨-, hmany⟩
    · cases hlarge
    · exact hmany
  · intro hmany
    rw [← h.sweepSteps] at hmany
    refine .search hrefresh ?_
    rw [Engine.evaluate_run, findOptimal_of_sweep (Settings.sweep_eq_error.2 ⟨rfl, hmany⟩)]

/-- **Within some digits there is no fault at all**, if the amounts have room. -/
theorem not_breaks {d : Digits} {f : Fault} (h : Loaded c books e) (hrefresh : plan.engine.refresh file = .ok e)
    (hroom : c.sweepSteps.toNat ≤ 2 ^ 58) (hc : c.Within d) (hbooks : Books.Within d c books) :
    ¬ plan.Breaks file f := by
  have hsources := h.fromBooks_within hbooks
  obtain ⟨hmax, hbuffer1, hbuffer2, -⟩ := limits_of_validate h.wired.settings
  have hmax' : e.settings.maxOrderAmount.toRat ≤ 10 ^ d.amount := by
    rw [hmax]
    exact hc.amount_le
  intro hf
  cases hf with
  | search hrefresh' hevaluate =>
    cases hrefresh.symm.trans hrefresh'
    exact findOptimal_bounded hsources hmax' (by rwa [h.sweepSteps]) f (Engine.evaluate_eq_fault hevaluate)
  | @report e' best f hrefresh' hevaluate hreport =>
    cases hrefresh.symm.trans hrefresh'
    obtain ⟨hfound, hlast⟩ := Engine.evaluate_eq_ok hevaluate
    obtain ⟨f', -, hunreported⟩ := Engine.report_eq_error hreport
    refine Engine.report_bounded (d := d) ?_ (fun o ho => ?_) hunreported
    · rw [Engine.evaluate_source]
      exact hsources
    · -- before the first cycle there is nothing else to report
      rw [hlast, h.last, Option.or_none] at ho
      subst ho
      exact found_bounded hsources hmax' hfound
  | @candidates e' o f hrefresh' hevaluate hcandidates =>
    cases hrefresh.symm.trans hrefresh'
    obtain ⟨hwithin, -⟩ := found_bounded hsources hmax' (Engine.evaluate_eq_ok hevaluate).1
    obtain ⟨orders, horders⟩ := hwithin.candidates_bounded (s := (Engine.evaluate.run e).2.settings)
      (by rw [(Engine.evaluate_quiet e).settings, hbuffer1]; exact hc.buffer1_le)
      (by rw [(Engine.evaluate_quiet e).settings, hbuffer2]; exact hc.buffer2_le)
    cases hcandidates.symm.trans horders

theorem held (h : Loaded c books e) (m : Market) : e.held m = (books.find? (c.venue m)).map Book.normalized := by
  unfold Engine.held
  rw [h.source]
  rfl

end Loaded

/-! ## The cycle -/

/-- **What a cycle does with a file.** For every configuration that can be used and every file of books that can be read:
the cycle crashes exactly if its search, its report or the orders of what it has found meet a fault. That fault is never a
division by zero, whatever the file holds, and it is that of a list without room exactly if the configuration asks for more
than `2 ^ 58` amounts. For all numbers of digits that leave room for the computations, if it asks for no more amounts, and
the settings and the books of both markets keep to these digits, then the cycle does not crash: it ends with success if the
file has both books, and with an error if it has not. -/
theorem finish_completes (c : Config) (path : Option String) (plan : Optimization) (file : FileContents) (books : Books)
    (hplan : Optimization.ofConfig c path = .ok plan) (hload : Books.load file = .ok books) :
    ((plan.finish file).code = 101 ↔ ∃ f, plan.Breaks file f) ∧
      (∀ f, plan.Breaks file f → f ≠ .divisionByZero) ∧
      (plan.Breaks file .capacityOverflow ↔ 2 ^ 58 < c.sweepSteps.toNat) ∧
      ∀ d : Digits, c.sweepSteps.toNat ≤ 2 ^ 58 → c.Within d → Books.Within d c books →
        (plan.finish file).code =
          if (books.find? c.market1).isSome ∧ (books.find? c.market2).isSome then 0 else 1 := by
  obtain ⟨e, hrefresh, hloaded⟩ := loaded_of_ofConfig hplan hload
  refine ⟨finish_crashes_iff plan file, fun f hf => ?_, hloaded.breaks_capacityOverflow_iff hrefresh,
    fun d hroom hc hbooks => ?_⟩
  · rintro rfl
    rcases hloaded.fault_of_breaks hrefresh hf with hlarge | ⟨hother, -⟩
    · cases hlarge
    · cases hother
  have hno : ∀ f, ¬ plan.Breaks file f := fun f => hloaded.not_breaks hrefresh hroom hc hbooks
  -- with that, only the snapshots decide how the search ends
  have noFault : ∀ f, (findOptimal e.settings e.quoters).outcome ≠ .error (.fault f) := by
    intro f hf
    refine hno f (.search hrefresh ?_)
    rw [Engine.evaluate_run, hf]
  split
  · next hfound =>
    have hheld : ∀ m, e.held m ≠ none := by
      intro m hm
      rw [hloaded.held, Option.map_eq_none_iff] at hm
      cases m with
      | first => exact Option.isSome_iff_ne_none.1 hfound.1 hm
      | second => exact Option.isSome_iff_ne_none.1 hfound.2 hm
    obtain ⟨best, hbest⟩ := hloaded.wired.findOptimal_held hheld noFault
    have hevaluate : (Engine.evaluate.run e).1 = .ok best := by
      rw [Engine.evaluate_run, hbest]
      cases best <;> rfl
    exact finish_of_ok hrefresh hevaluate hno
  · next hmissing =>
    have hheld : ∃ m, e.held m = none := by
      by_contra hall
      refine hmissing ⟨Option.isSome_iff_ne_none.2 fun hm => hall ⟨.first, ?_⟩,
        Option.isSome_iff_ne_none.2 fun hm => hall ⟨.second, ?_⟩⟩ <;>
      · rw [hloaded.held, Option.map_eq_none_iff]
        exact hm
    have herror := hloaded.wired.findOptimal_unheld hheld noFault
    exact finish_of_error hrefresh (Engine.evaluate_of_error (fun _ => 0) herror).1

/-- Three digits before the point for prices, and one for amounts; asks and buffers of one at least and at most. -/
def threeDigits : Digits := ⟨3, 0, 1, 0, by decide, by decide, by decide, by decide⟩

/-- The cycle of `threeAmountsConfig`. -/
def threeAmountsPlan : Optimization := ⟨Engine.unheldEngine, "books.json"⟩

theorem ofConfig_threeAmountsConfig : Optimization.ofConfig Engine.threeAmountsConfig none = .ok threeAmountsPlan := by
  unfold Optimization.ofConfig
  rw [Engine.build_threeAmountsConfig]
  rfl

/-- The books of `bothBooks` keep to `threeDigits`, so a cycle over them ends with success. -/
theorem finish_completes_bothBooks :
    ∃ books, Optimization.ofConfig Engine.threeAmountsConfig none = .ok threeAmountsPlan ∧
      Books.load (.ok Engine.bothBooks.toUTF8) = .ok books ∧ Engine.threeAmountsConfig.Within threeDigits ∧
      Books.Within threeDigits Engine.threeAmountsConfig books ∧
      (threeAmountsPlan.finish (.ok Engine.bothBooks.toUTF8)).code = 0 := by
  have hc : Engine.threeAmountsConfig.Within threeDigits := by
    constructor <;> decide +kernel
  have hbooks : Books.Within threeDigits Engine.threeAmountsConfig
      ⟨[("binance", ⟨[("BTC-USDT", ⟨[], [⟨101, 1⟩, ⟨100, 1.5⟩], 0⟩)]⟩),
        ("kraken", ⟨[("BTC-USDT", ⟨[⟨105, 1⟩], [], 0⟩)]⟩)]⟩ := by
    intro m book hfind
    cases m with
    | first =>
      obtain rfl : (⟨[], [⟨101, 1⟩, ⟨100, 1.5⟩], 0⟩ : Book) = book := Option.some.inj hfind
      constructor <;> decide +kernel
    | second =>
      obtain rfl : (⟨[⟨105, 1⟩], [], 0⟩ : Book) = book := Option.some.inj hfind
      constructor <;> decide +kernel
  exact ⟨_, ofConfig_threeAmountsConfig, Engine.bothBooks_load, hc, hbooks,
    (finish_completes _ _ _ _ _ ofConfig_threeAmountsConfig Engine.bothBooks_load).2.2.2 threeDigits (by decide) hc
      hbooks⟩

/-- The text of a file with an ask at the largest price that there is. -/
def largestAsk : String :=
  "\x7b\"binance\": \x7b\"BTC-USDT\": \x7b\"asks\": [[\"79228162514264337593543950335\", \"2\"]], " ++
    "\"fee_rate\": \"0.001\"\x7d\x7d, \"kraken\": \x7b\"BTC-USDT\": \x7b\"bids\": [[\"105\", \"2\"]]\x7d\x7d\x7d"

/-- The books of `largestAsk`. -/
def largestAskBooks : Books :=
  ⟨[("binance", ⟨[("BTC-USDT", ⟨[], [⟨79228162514264337593543950335, 2⟩], 0.001⟩)]⟩),
    ("kraken", ⟨[("BTC-USDT", ⟨[⟨105, 2⟩], [], 0⟩)]⟩)]⟩

theorem largestAsk_load : Books.load (.ok largestAsk.toUTF8) = .ok largestAskBooks :=
  Books.load_toUTF8 (by decide +kernel)

/-- **The digits cannot be left out**: there are files that crash the cycle, since the largest price and its fee are more
than 96 bits together. -/
theorem not_every_cycle_completes :
    ¬ ∀ (c : Config) (path : Option String) (plan : Optimization) (file : FileContents) (books : Books),
      Optimization.ofConfig c path = .ok plan → Books.load file = .ok books → (plan.finish file).code ≠ 101 := by
  intro h
  have hfound : (findOptimal (threeAmountsPlan.engine.refreshFrom largestAskBooks).settings
      (threeAmountsPlan.engine.refreshFrom largestAskBooks).quoters).outcome
      = .error (.fault .multiplicationOverflow) := by decide +kernel
  refine h _ _ _ _ _ ofConfig_threeAmountsConfig largestAsk_load ((finish_crashes_iff _ _).2
    ⟨.multiplicationOverflow, .search (Engine.refresh_of_load largestAsk_load) ?_⟩)
  rw [Engine.evaluate_run, hfound]

end CommandLine

end TwoVenue
