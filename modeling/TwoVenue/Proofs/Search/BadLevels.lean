import Mathlib.Data.List.TakeWhile
import TwoVenue.Proofs.Search.Crossing

/-!
# Levels without a positive price

A leg has to have a positive price, but that is the average over all levels that its amount takes. No price of a level is
looked at, neither when the book is read nor in the walk. A level with a negative price can therefore be part of a trade,
as long as the others make up for it.

- `Contributes`: a walk takes something of a level.
- `contributes_iff`: **only good levels contribute if and only if they fill the amount by themselves**, those in front of
  the first bad one.
- `propose_price_pos`: **the average price of a leg is positive**, and when the prices of all its levels are.
- `bought_below_zero`: a proposal that buys at a negative price, among others.
-/

namespace TwoVenue

open Decimal

/-- Whether a walk takes something of a level: what remains when it comes there, by its own arithmetic, and the size of
the level are both positive. -/
def Contributes (levels : List Level) (target : Decimal) (l : Level) : Prop :=
  ∃ first before after remaining premium, levels.head? = some first ∧ levels = before ++ l :: after ∧
    consume first.price before target 0 = .ok (remaining, premium) ∧ 0 < remaining.min l.size

/-! ## Parts of a walk -/

section Walk

variable {side : Side} {best target price remaining premium : Decimal} {l first : Level} {levels rest rest' : List Level}

/-- A walk over levels goes on where the walk over the first ones has ended. -/
theorem consume_append {r p : Decimal} (xs ys : List Level) : ∀ {remaining premium},
    consume best (xs ++ ys) remaining premium = .ok (r, p) ↔
      ∃ r' p', consume best xs remaining premium = .ok (r', p') ∧ consume best ys r' p' = .ok (r, p) := by
  induction xs with
  | nil => simp [consume]
  | cons level rest ih =>
    intro remaining premium
    by_cases hzero : remaining.isZero = true
    · rw [consume_of_isZero _ hzero, consume_of_isZero _ hzero]
      constructor
      · intro h
        exact ⟨remaining, premium, rfl, (consume_of_isZero ys hzero).trans h⟩
      · rintro ⟨r', p', h', h⟩
        cases h'
        exact (consume_of_isZero ys hzero).symm.trans h
    · rw [List.cons_append, consume, consume, if_neg hzero, if_neg hzero]
      simp only [Outcome.bind_eq_ok, ih]
      grind

theorem not_isZero_of_min_pos (h : 0 < remaining.min l.size) : remaining.isZero ≠ true := by
  rw [← toRat_pos, toRat_min] at h
  rw [Ne, ← toRat_eq_zero]
  exact (lt_of_lt_of_le h (min_le_left _ _)).ne'

theorem min_pos_of_not_isZero (hremaining : 0 ≤ remaining) (hnonzero : remaining.isZero ≠ true) (hsize : 0 < l.size) :
    0 < remaining.min l.size := by
  rw [Ne, ← toRat_eq_zero] at hnonzero
  rw [← toRat_pos, toRat_min]
  exact lt_min (lt_of_le_of_ne (toRat_nonneg.2 hremaining) (Ne.symm hnonzero)) (toRat_pos.2 hsize)

/-- A walk that fills its target has nothing left. -/
theorem consume_of_filled (h : walk (first :: rest) target = .ok (.filled price)) :
    ∃ remaining premium, consume first.price (first :: rest) target 0 = .ok (remaining, premium) ∧
      remaining.isZero = true := by
  obtain ⟨⟨remaining, premium⟩, hconsume, h⟩ := Outcome.bind_eq_ok.1 h
  refine ⟨remaining, premium, hconsume, ?_⟩
  by_contra hnonzero
  dsimp only at h
  rw [if_neg hnonzero] at h
  obtain ⟨available, -, h⟩ := Outcome.bind_eq_ok.1 h
  cases h

/-- Walks that take the same have the same price. -/
theorem walk_congr (h : consume first.price (first :: rest) target 0 = consume first.price (first :: rest') target 0) :
    walk (first :: rest) target = walk (first :: rest') target := by
  unfold walk
  dsimp only
  rw [h]

/-- The first level always contributes. -/
theorem contributes_first (htarget : 0 < target) (hsize : 0 < first.size) : Contributes (first :: rest) target first :=
  ⟨first, [], rest, target, 0, rfl, rfl, rfl, min_pos_of_not_isZero htarget.le (not_isZero_of_pos htarget) hsize⟩

theorem Contributes.mem (h : Contributes levels target l) : l ∈ levels := by
  obtain ⟨_, _, _, _, _, -, rfl, -⟩ := h
  simp

/-- If no bad level contributes, then nothing is left in front of the first one. -/
theorem isZero_of_contributes {good : Level → Bool} {r r' p p' : Decimal} (hlevels : Offered side (first :: rest))
    (htarget : 0 < target) (hgood : ∀ l, Contributes (first :: rest) target l → good l = true)
    (hfront : consume first.price ((first :: rest).takeWhile good) target 0 = .ok (r, p))
    (hback : consume first.price ((first :: rest).dropWhile good) r p = .ok (r', p')) (hzero : r'.isZero = true) :
    r.isZero = true := by
  have hsplit : (first :: rest).takeWhile good ++ (first :: rest).dropWhile good = first :: rest :=
    List.takeWhile_append_dropWhile
  have hsub : ∀ l ∈ (first :: rest).takeWhile good, l ∈ first :: rest := fun l hl => (List.takeWhile_subset good) hl
  have hwalking : Walking side r p := consume_worse (fun l hl => hlevels.size_pos l (hsub l hl))
    (fun l hl => hlevels.worse_first (hsub l hl)) (Walking.start htarget) hfront
  by_contra hnonzero
  cases hdrop : (first :: rest).dropWhile good with
  | nil =>
    rw [hdrop] at hback
    cases hback
    exact hnonzero hzero
  | cons l after =>
    have hbad : good l = false := by
      have h := List.head_dropWhile_not good (l := first :: rest) (by simp [hdrop])
      simpa [hdrop] using h
    rw [hdrop] at hsplit
    have hsize := hlevels.size_pos l (by rw [← hsplit]; simp)
    have hcontributes : Contributes (first :: rest) target l :=
      ⟨first, _, after, r, p, rfl, hsplit.symm, hfront,
        min_pos_of_not_isZero hwalking.remaining_nonneg hnonzero hsize⟩
    rw [hgood l hcontributes] at hbad
    cases hbad

/-- **Only good levels contribute if and only if they fill the target by themselves**, those in front of the first bad
one. The price is then the same with and without the others. -/
theorem contributes_iff (good : Level → Bool) (hlevels : Offered side levels) (htarget : 0 < target)
    (h : walk levels target = .ok (.filled price)) :
    (∀ l, Contributes levels target l → good l = true) ↔ walk (levels.takeWhile good) target = .ok (.filled price) := by
  cases levels with
  | nil => cases h
  | cons first rest =>
    have hsplit : (first :: rest).takeWhile good ++ (first :: rest).dropWhile good = first :: rest :=
      List.takeWhile_append_dropWhile
    constructor
    · intro hgood
      obtain ⟨r', p', hconsume, hzero⟩ := consume_of_filled h
      have hfirst : good first = true := hgood first (contributes_first htarget (hlevels.size_pos first (by simp)))
      rw [← hsplit] at hconsume
      obtain ⟨r, p, hfront, hback⟩ := (consume_append _ _).1 hconsume
      have hdone := isZero_of_contributes hlevels htarget hgood hfront hback hzero
      cases (consume_of_isZero _ hdone).symm.trans hback
      -- both walks end in the same place, so they have the same price
      rw [hsplit] at hconsume
      rw [List.takeWhile_cons_of_pos hfirst] at hfront ⊢
      rw [walk_congr (hfront.trans hconsume.symm)]
      exact h
    · rintro hfilled l ⟨first', before, after, r, p, hfirst', hlevels', hbefore, hpos⟩
      cases hfirst'
      have hnonzero := not_isZero_of_min_pos hpos
      cases hgood : good first with
      | false =>
        rw [List.takeWhile_cons_of_neg (by simp [hgood])] at hfilled
        cases hfilled
      | true =>
        rw [List.takeWhile_cons_of_pos hgood] at hfilled
        obtain ⟨r', p', hfront, hzero⟩ := consume_of_filled hfilled
        rw [← List.takeWhile_cons_of_pos hgood] at hfront
        -- a level that contributes is not behind the good ones, after which nothing is left
        rcases List.append_eq_append_iff.1 (hsplit.trans hlevels') with ⟨between, rfl, -⟩ | ⟨between, hbetween, hback⟩
        · obtain ⟨r'', p'', hfront', hrest⟩ := (consume_append _ _).1 hbefore
          cases hfront.symm.trans hfront'
          cases (consume_of_isZero _ hzero).symm.trans hrest
          exact absurd hzero hnonzero
        · cases between with
          | nil =>
            rw [List.append_nil] at hbetween
            rw [hbetween] at hfront
            cases hfront.symm.trans hbefore
            exact absurd hzero hnonzero
          | cons l' between =>
            obtain ⟨rfl, -⟩ := List.cons_eq_cons.1 hback
            exact List.mem_takeWhile_imp (by rw [hbetween]; simp)

end Walk

/-! ## Levels without a positive price -/

/-- The asks of a snapshot begin with the lowest one, so one bad ask that is not empty is enough. -/
theorem contributes_asks_iff (b : Book) {target : Decimal} (htarget : 0 < target) :
    (∀ l, Contributes b.normalized.asks target l → 0 < l.price) ↔ ∀ l ∈ b.asks, 0 < l.size → 0 < l.price := by
  have hlevels := offered_normalized b .buy
  have hmem : ∀ {l}, l ∈ b.normalized.asks ↔ l ∈ b.asks ∧ 0 < l.size := List.mem_mergeSort.trans mem_offered
  constructor
  · intro hpos l hl hsize
    have hl' : l ∈ BookSource.levels b.normalized .buy := hmem.2 ⟨hl, hsize⟩
    cases hasks : BookSource.levels b.normalized .buy with
    | nil => simp [hasks] at hl'
    | cons first rest =>
      rw [hasks] at hlevels hl'
      have hfirst : 0 < first.price :=
        hpos first (by
          show Contributes (BookSource.levels b.normalized .buy) target first
          rw [hasks]
          exact contributes_first htarget (hlevels.size_pos first List.mem_cons_self))
      exact lt_of_lt_of_le hfirst (hlevels.worse_first hl').le_of_buy
  · intro hpos l hl
    obtain ⟨hl, hsize⟩ := hmem.1 hl.mem
    exact hpos l hl hsize

/-- A quote from a snapshot is a walk over one side of it. -/
theorem walk_of_quote {source : Quoter} {s : BookSource} {b : Book} {side : Side} {a : Decimal} {quote : Quote}
    (hsource : source = (Source.book s).quoter) (hbook : s.book = some b.normalized)
    (h : source.quote side a = .ok quote) :
    0 < a ∧ walk (BookSource.levels b.normalized side) a = .ok (.filled quote.price) := by
  subst hsource
  obtain ⟨book, hbook', hamount, hwalk, -⟩ := BookSource.quote_eq_ok h
  cases hbook.symm.trans hbook'
  exact ⟨hamount, hwalk⟩

/-- **The average price of a leg is positive**, whatever levels it comes from. All levels of a purchase have positive
prices if and only if all asks of the book have that are not empty. All levels of a sale have positive prices if and only
if those bids fill the amount by themselves, at the same price, and the best bid is one of them. -/
theorem propose_price_pos (q : Quoters) (buy sell : Market) (a : Decimal) (p : Proposal)
    (h : (propose q buy sell a).outcome = .ok p) :
    (∀ (s : BookSource) (b : Book), q buy = (Source.book s).quoter → s.book = some b.normalized →
      0 < p.buySide.price ∧
        ((∀ l, Contributes b.normalized.asks a l → 0 < l.price) ↔ ∀ l ∈ b.asks, 0 < l.size → 0 < l.price)) ∧
    ∀ (s : BookSource) (b : Book), q sell = (Source.book s).quoter → s.book = some b.normalized →
      0 < p.sellSide.price ∧ (∃ bid, b.normalized.bestBid = some bid ∧ 0 < bid) ∧
        ((∀ l, Contributes b.normalized.bids a l → 0 < l.price) ↔
          walk (b.normalized.bids.takeWhile fun l => decide (0 < l.price)) a = .ok (.filled p.sellSide.price)) := by
  have hmade := propose_eq_ok.1 h
  obtain ⟨buyQuote, sellQuote, hbuy, hsell, hfirst, hsecond⟩ := hmade.quotes
  have hbuy_pos := hmade.first_valid.price_pos
  have hsell_pos := hmade.second_valid.price_pos
  rw [hmade.buySide_eq, hmade.sellSide_eq]
  rw [hfirst] at hbuy_pos ⊢
  rw [hsecond] at hsell_pos ⊢
  constructor
  · intro s b hsource hbook
    obtain ⟨hamount, -⟩ := walk_of_quote hsource hbook hbuy
    exact ⟨hbuy_pos, contributes_asks_iff b hamount⟩
  · intro s b hsource hbook
    obtain ⟨hamount, hwalk⟩ := walk_of_quote hsource hbook hsell
    obtain ⟨best, hbest, hworse⟩ := walk_worse (offered_normalized b .sell) hamount hwalk
    have hbid : b.normalized.bestBid = some best.price := by
      rw [Book.bestBid, show b.normalized.bids.head? = some best from hbest]
      rfl
    have hfilled := contributes_iff (fun l => decide (0 < l.price)) (offered_normalized b .sell) hamount hwalk
    simp only [decide_eq_true_iff] at hfilled
    -- the price is no better than the best bid, which is positive with it
    exact ⟨hsell_pos, ⟨best.price, hbid, lt_of_lt_of_le hsell_pos hworse.le_of_sell⟩, hfilled⟩

/-! ## A price below zero -/

/-- Two books: the first one has an ask below zero in front of its real one, the second one a bid below zero. -/
def hiddenAsk : Market → Book
  | .first => ⟨[], [⟨1000, 10⟩, ⟨-100, 1⟩], 0⟩
  | .second => ⟨[⟨2000, 10⟩, ⟨-1, 5⟩], [], 0⟩

/-- The snapshots of `hiddenAsk`. -/
def hiddenAskSnapshots : Market → Book
  | .first => ⟨[], [⟨-100, 1⟩, ⟨1000, 10⟩], 0⟩
  | .second => ⟨[⟨2000, 10⟩, ⟨-1, 5⟩], [], 0⟩

theorem hiddenAsk_normalized (m : Market) : (hiddenAsk m).normalized = hiddenAskSnapshots m := by
  cases m <;> cbv

/-- What a search of `hiddenAsk` proposes for its largest amount. -/
def boughtBelowZero : Proposal where
  first := ⟨threeAmounts.market1, .buy, 2, 450, 0⟩
  second := ⟨threeAmounts.market2, .sell, 2, 2000, 0⟩
  sides_ne := nofun
  amounts_equiv := rfl
  venues_ne := by decide

theorem propose_hiddenAsk :
    (propose (bookQuoters threeAmounts.venue hiddenAsk) .first .second 2).outcome = .ok boughtBelowZero := by
  have hquoters : bookQuoters threeAmounts.venue hiddenAsk
      = fun m => (Source.book ⟨threeAmounts.venue m, some (hiddenAskSnapshots m)⟩).quoter := by
    funext m
    rw [← hiddenAsk_normalized]
    rfl
  rw [hquoters]
  decide +kernel

/-- **A level with a negative price can be part of a trade**: of the largest amount of a sweep one unit is bought at
-100 and the other one at 1000, so their average is positive. -/
theorem bought_below_zero :
    threeAmounts.sweep = .ok [1, 1.50, 2] ∧
      ∃ p, (propose (bookQuoters threeAmounts.venue hiddenAsk) .first .second 2).outcome = .ok p ∧
        p.buySide.price = 450 ∧ ∃ l, Contributes (hiddenAsk .first).normalized.asks 2 l ∧ ¬ 0 < l.price := by
  refine ⟨by decide +kernel, boughtBelowZero, propose_hiddenAsk, rfl, ⟨-100, 1⟩, ?_, by decide⟩
  rw [hiddenAsk_normalized]
  exact contributes_first (by decide) (by decide)

/-- The purchase of `boughtBelowZero` has a bad level, and its sale has none: the bid below zero is not reached. -/
theorem propose_price_pos_hiddenAsk :
    (propose (bookQuoters threeAmounts.venue hiddenAsk) .first .second 2).outcome = .ok boughtBelowZero ∧
      0 < boughtBelowZero.buySide.price ∧ 0 < boughtBelowZero.sellSide.price ∧
      (¬ ∀ l, Contributes (hiddenAsk .first).normalized.asks 2 l → 0 < l.price) ∧
      ∀ l, Contributes (hiddenAsk .second).normalized.bids 2 l → 0 < l.price := by
  obtain ⟨hbuy, hsell⟩ := propose_price_pos _ _ _ _ _ propose_hiddenAsk
  obtain ⟨hbuy_pos, hasks⟩ := hbuy (.update ⟨threeAmounts.market1, none⟩ (hiddenAsk .first)) (hiddenAsk .first) rfl rfl
  obtain ⟨hsell_pos, -, hbids⟩ :=
    hsell (.update ⟨threeAmounts.market2, none⟩ (hiddenAsk .second)) (hiddenAsk .second) rfl rfl
  refine ⟨propose_hiddenAsk, hbuy_pos, hsell_pos, ?_, hbids.2 ?_⟩
  · rw [hasks]
    decide
  · rw [hiddenAsk_normalized]
    decide +kernel

end TwoVenue
