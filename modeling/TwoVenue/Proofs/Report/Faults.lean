import TwoVenue.Proofs.Trade.Ceiling

/-!
# Faults of a report

A market that cannot be asked is shown without prices, so a report only fails where arithmetic does: at a mid price, or
in the line about the last opportunity.

- `Engine.Unreported`: everything that can stop a report. `report_eq_error` is its inversion lemma.
- `tooLarge_of_unreported`: **no report has a fault but numbers that are too large**.
- `report_bounded`: **a report within some digits has no fault**.
-/

namespace TwoVenue

open Decimal

namespace Engine

variable {e : Engine} {now : Instant} {failure : Failure QuoteError}

/-- The best prices of a market for its own pair. -/
def top (e : Engine) (m : Market) : Outcome QuoteError TopOfBook :=
  (e.source m).topOfBook (e.source m).venue.tradingPair

/-- A fault that stops a report. -/
inductive Unreported (e : Engine) : Fault → Prop
  | asked {m : Market} {f : Fault} (h : e.top m = .error (.fault f)) : Unreported e f
  | mid {m : Market} {t : TopOfBook} {f : Fault} (ht : e.top m = .ok t) (h : t.midPrice = .error f) : Unreported e f
  | line {o : Opportunity} {f : Fault} (ho : e.last = some o)
      (h : Opportunity.summary o.proposal.amount o.profit = .error f) : Unreported e f

/-- A market without an answer is shown without prices. -/
theorem snapshotOf_eq_error (m : Market) (h : (snapshotOf (e.source m)).outcome = .error failure) :
    ∃ f, failure = .fault f ∧ Unreported e f := by
  unfold snapshotOf at h
  cases htop : e.top m with
  | ok t =>
    rw [Traced.bind_of_ok (Traced.attempt_of_ok htop)] at h
    cases hmid : t.midPrice with
    | ok mid =>
      dsimp only at h
      rw [hmid] at h
      cases h
    | error f =>
      dsimp only at h
      rw [hmid] at h
      cases h
      exact ⟨f, rfl, .mid htop hmid⟩
  | error failure' =>
    cases failure' with
    | fault f =>
      rw [Traced.bind_of_error (Traced.attempt_of_fault htop)] at h
      cases h
      exact ⟨f, rfl, .asked htop⟩
    | error q =>
      rw [Traced.bind_of_ok (Traced.attempt_of_error htop)] at h
      cases h

/-- **All failures of a report.** -/
theorem report_eq_error (h : (e.report now).outcome = .error failure) : ∃ f, failure = .fault f ∧ Unreported e f := by
  unfold report at h
  rcases Traced.bind_eq_error.1 h with h | ⟨markets, -, h⟩
  · unfold snapshots at h
    rcases Traced.bind_eq_error.1 h with h | ⟨first, -, h⟩
    · exact snapshotOf_eq_error .first h
    rcases Traced.bind_eq_error.1 h with h | ⟨second, -, h⟩
    · exact snapshotOf_eq_error .second h
    cases h
  cases hlast : e.last with
  | none =>
    rw [hlast] at h
    cases h
  | some o =>
    rw [hlast] at h
    cases hline : Opportunity.summary o.proposal.amount o.profit with
    | ok line =>
      dsimp only at h
      rw [hline] at h
      cases h
    | error f =>
      dsimp only at h
      rw [hline] at h
      cases h
      exact ⟨f, rfl, .line hlast hline⟩

/-- A book source is looked at without arithmetic. -/
theorem top_avoids {P : BookSource → Prop} (h : FromBooks P e.source) (m : Market) (f : Fault) :
    Avoids (.fault f) (e.top m) := by
  obtain ⟨source, -, hsource⟩ := h m
  unfold top
  rw [hsource]
  exact BookSource.topOfBook_avoids f

/-- **No report has a fault but numbers that are too large**, so none divides by zero. -/
theorem tooLarge_of_unreported {f : Fault} (h : FromBooks (fun _ => True) e.source) (hf : Unreported e f) :
    f.tooLarge = true := by
  by_contra hother
  have hother : f.tooLarge = false := Bool.eq_false_iff.2 hother
  cases hf with
  | asked htop => exact top_avoids h _ _ htop
  | mid _ hmid => exact TopOfBook.midPrice_avoids hother _ hmid
  | line _ hline => exact Opportunity.summary_avoids hother _ _ hline

/-- **A report within some digits has no fault**, nor has its line about an opportunity within these digits. -/
theorem report_bounded {d : Digits} {f : Fault} (h : FromBooks (BookSource.Within d) e.source)
    (hlast : ∀ o, e.last = some o → o.proposal.Within d ∧ |o.profit.toRat| ≤ 10 ^ (d.price + d.ask)) :
    ¬ Unreported e f := by
  have hroom := d.ratio_room
  intro hf
  cases hf with
  | asked htop => exact top_avoids h _ _ htop
  | @mid m t f ht hmid =>
    obtain ⟨source, hsource, hbook⟩ := h m
    unfold top at ht
    rw [hbook] at ht
    obtain ⟨book, hheld, rfl⟩ := BookSource.topOfBook_eq_ok ht
    obtain ⟨b, rfl, hb⟩ := hsource book hheld
    obtain ⟨mid, hmid'⟩ := TopOfBook.midPrice_bounded (t := ⟨b.normalized.best .sell, b.normalized.best .buy⟩)
      (show d.price ≤ 28 by omega) (fun bid hbid => hb.best_le (show b.normalized.best .sell = some bid from hbid))
      (fun ask hask => hb.best_le (show b.normalized.best .buy = some ask from hask))
    cases hmid.symm.trans hmid'
  | @line o f ho hline =>
    obtain ⟨hwithin, hprofit⟩ := hlast o ho
    have hamount : |o.proposal.amount.toRat| < 10 ^ 25 := by
      rw [abs_of_pos (toRat_pos.2 hwithin.amount_pos)]
      have := ten_pow_le d.text_room
      linarith [hwithin.amount_le]
    obtain ⟨text, htext⟩ := Opportunity.summary_bounded hamount (hprofit.trans (ten_pow_le hroom))
    cases hline.symm.trans htext

end Engine

end TwoVenue
