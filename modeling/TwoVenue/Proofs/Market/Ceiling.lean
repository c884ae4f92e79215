import TwoVenue.Proofs.Decimal.Grid
import TwoVenue.Proofs.Market.Depth

/-!
# How far quotes can go

No operation of a walk checks whether its result fits, so the room has to come from the numbers of the book. Sizes do
not matter, since nobody takes more than is left to be filled. What matters are the prices, the amount, and how often is
rounded.

- `Digits`: numbers of digits that leave room for a whole cycle. `Book.Within`: a book that keeps to them.
- `Roomy`: what that means for one side of its snapshot.
- `strain`: the potential of a walk: its premium so far, and what is left at the widest possible gap. `strain_step`: a
  level adds to it only what rounding adds. `consume_bounded` is the run lemma.
- `BookSource.Within`: a source of such a book, or of none. `Within.quote_bounded`: **its quotes have bounded prices**.
- `BookSource.quote_avoids`: **no quote has a fault but numbers that are too large**, whatever the book is.
-/

namespace TwoVenue

open Decimal

/-! ## Digits -/

/-- Numbers of digits that leave room for all that a cycle computes. -/
structure Digits where
  /-- Digits of prices before the point. -/
  price : Nat
  /-- Places of the smallest ask. -/
  ask : Nat
  /-- Digits of amounts before the point. -/
  amount : Nat
  /-- Digits of buffers before the point. -/
  buffer : Nat
  /-- There is room for the price of an amount. -/
  cost_room : price + amount ≤ 27
  /-- There is room for a price with its buffer. -/
  limit_room : price + buffer ≤ 27
  /-- There is room for the quotient of two prices in percent. -/
  ratio_room : price + ask ≤ 26
  /-- There is room for the text of an amount. -/
  text_room : amount ≤ 24

/-- Whether a book keeps to some digits with all levels that have something to take, which are not more on either side
than a word can count. -/
structure Book.Within (d : Digits) (b : Book) : Prop where
  bids_length : b.bids.length ≤ 2 ^ 64
  asks_length : b.asks.length ≤ 2 ^ 64
  bid_le : ∀ l ∈ b.bids, 0 < l.size → |l.price.toRat| ≤ 10 ^ d.price
  ask_le : ∀ l ∈ b.asks, 0 < l.size → |l.price.toRat| ≤ 10 ^ d.price
  ask_ge : ∀ l ∈ b.asks, 0 < l.size → 1 ≤ l.price.toRat * 10 ^ d.ask

/-- Levels that a walk has room for. -/
structure Roomy (p : Nat) (levels : List Level) : Prop where
  length_le : levels.length ≤ 2 ^ 64
  size_pos : ∀ l ∈ levels, 0 < l.size
  price_le : ∀ l ∈ levels, |l.price.toRat| ≤ 10 ^ p

theorem roomy_sort {p : Nat} {levels : List Level} (r : Level → Level → Bool) (hlength : levels.length ≤ 2 ^ 64)
    (hprice : ∀ l ∈ levels, 0 < l.size → |l.price.toRat| ≤ 10 ^ p) : Roomy p ((Book.offered levels).mergeSort r) := by
  refine ⟨?_, fun l hl => ?_, fun l hl => ?_⟩
  · rw [List.length_mergeSort]
    exact (List.length_filter_le _ levels).trans hlength
  · exact (mem_offered.1 (List.mem_mergeSort.1 hl)).2
  · obtain ⟨hmem, hsize⟩ := mem_offered.1 (List.mem_mergeSort.1 hl)
    exact hprice l hmem hsize

/-- Both sides of a snapshot have room if the book keeps to the digits. -/
theorem Book.Within.roomy {d : Digits} {b : Book} (h : b.Within d) (side : Side) :
    Roomy d.price (BookSource.levels b.normalized side) := by
  cases side with
  | buy => exact roomy_sort _ h.asks_length h.ask_le
  | sell => exact roomy_sort _ h.bids_length h.bid_le

theorem mem_levels_of_best {b : Book} {side : Side} {best : Decimal} (h : b.normalized.best side = some best) :
    ∃ l ∈ BookSource.levels b.normalized side, l.price = best := by
  rw [Book.best_eq, Option.map_eq_some_iff] at h
  obtain ⟨l, hl, rfl⟩ := h
  exact ⟨l, List.mem_of_mem_head? hl, rfl⟩

/-- The best price of a snapshot is one of the prices. -/
theorem Book.Within.best_le {d : Digits} {b : Book} (h : b.Within d) {side : Side} {best : Decimal}
    (hbest : b.normalized.best side = some best) : |best.toRat| ≤ 10 ^ d.price := by
  obtain ⟨l, hl, rfl⟩ := mem_levels_of_best hbest
  exact (h.roomy side).price_le l hl

theorem Book.Within.best_ask_ge {d : Digits} {b : Book} (h : b.Within d) {best : Decimal}
    (hbest : b.normalized.best .buy = some best) : 1 ≤ best.toRat * 10 ^ d.ask := by
  obtain ⟨l, hl, rfl⟩ := mem_levels_of_best hbest
  obtain ⟨hmem, hsize⟩ := mem_offered.1 (List.mem_mergeSort.1 hl)
  exact h.ask_ge l hmem hsize

/-! ## The walk -/

/-- What a walk can still come to: its premium so far, and what is left at a gap of `10 ^ g`. -/
def strain (g : Nat) (remaining premium : Decimal) : Rat := |premium.toRat| + remaining.toRat * 10 ^ g

section Walk

variable {g : Nat} {best remaining premium : Decimal}

theorem strain_nonneg (hremaining : 0 ≤ remaining) : 0 ≤ strain g remaining premium := by
  have := toRat_nonneg.2 hremaining
  unfold strain
  positivity

/-- **The step of a walk**: what is taken of a level costs no more than was reckoned with, so every operation has a
result, and only what rounding adds is new. -/
theorem strain_step {level : Level} (hg : g ≤ 28) (hremaining : 0 ≤ remaining) (hsize : 0 < level.size)
    (hgap : |level.price.toRat - best.toRat| ≤ 10 ^ g) (hroom : strain g remaining premium ≤ 6 * 10 ^ 28) :
    ∃ gap cost premium' remaining', level.price.sub best = .ok gap ∧ (remaining.min level.size).mul gap = .ok cost ∧
      premium.add cost = .ok premium' ∧ remaining.sub (remaining.min level.size) = .ok remaining' ∧
      0 ≤ remaining' ∧ remaining' ≤ remaining ∧
      strain g remaining' premium' ≤ (1 + slack) * strain g remaining premium := by
  have hremaining' := toRat_nonneg.2 hremaining
  have hpremium := abs_nonneg premium.toRat
  have hslack := slack_pos
  unfold strain at hroom ⊢
  set taken := remaining.min level.size with htaken
  have htaken_nonneg : 0 ≤ taken := by
    rw [← toRat_nonneg, htaken, toRat_min]
    exact le_min hremaining' (toRat_pos.2 hsize).le
  have htaken_le : taken ≤ remaining := by
    rw [← toRat_le_toRat, htaken, toRat_min]
    exact min_le_left _ _
  have hcharge : taken.toRat * 10 ^ g ≤ remaining.toRat * 10 ^ g :=
    mul_le_mul_of_nonneg_right (toRat_le_toRat.2 htaken_le) (ten_pow_pos g).le
  obtain ⟨gap, hgap_eq, hgap_le⟩ := sub_bounded (a := level.price) (b := best) (n := 10 ^ g)
    (by have := ten_pow_lt_limit hg; omega) (by exact_mod_cast hgap)
  -- `10 ^ g` only moves the point of what is taken, so this product adds nothing by rounding
  obtain ⟨cost, hcost, hcost_le⟩ := mul_le_ten_pow (b := gap) htaken_nonneg (by exact_mod_cast hgap_le)
    (by linarith : taken.toRat * 10 ^ g ≤ 6 * 10 ^ 28)
  have hsum : |premium.toRat + cost.toRat| ≤ |premium.toRat| + taken.toRat * 10 ^ g :=
    (abs_add_le _ _).trans (by linarith)
  obtain ⟨premium', hpremium_eq, -⟩ := add_bounded (a := premium) (b := cost) (n := 6 * 10 ^ 28) (by decide)
    (by push_cast; linarith)
  have hpremium_le : |premium'.toRat| ≤ (1 + slack) * (|premium.toRat| + taken.toRat * 10 ^ g) := by
    rw [add_toRat hpremium_eq]
    refine (abs_nearest_le_of_onGrid ((onGrid_maxScale premium).add (onGrid_maxScale cost))).trans ?_
    gcongr
  obtain ⟨remaining', hremaining_eq, hnonneg, hle, hremaining_le⟩ := sub_of_le htaken_nonneg htaken_le
  refine ⟨gap, cost, premium', remaining', hgap_eq, hcost, hpremium_eq, hremaining_eq, hnonneg, hle, ?_⟩
  calc |premium'.toRat| + remaining'.toRat * 10 ^ g
      ≤ (1 + slack) * (|premium.toRat| + taken.toRat * 10 ^ g)
          + (1 + slack) * (remaining.toRat - taken.toRat) * 10 ^ g := by gcongr
    _ = (1 + slack) * (|premium.toRat| + remaining.toRat * 10 ^ g) := by ring

/-- **The run of a walk**: after all levels the strain has grown by roundings only. -/
theorem consume_bounded {levels : List Level} (hg : g ≤ 28) (hsize : ∀ l ∈ levels, 0 < l.size)
    (hgap : ∀ l ∈ levels, |l.price.toRat - best.toRat| ≤ 10 ^ g) :
    ∀ {remaining premium}, 0 ≤ remaining →
      (1 + slack) ^ levels.length * strain g remaining premium ≤ 6 * 10 ^ 28 →
      ∃ r p, consume best levels remaining premium = .ok (r, p) ∧ 0 ≤ r ∧ r ≤ remaining ∧
        strain g r p ≤ (1 + slack) ^ levels.length * strain g remaining premium := by
  have hgrow : ∀ n : Nat, 1 ≤ (1 + slack) ^ n := fun n => one_le_pow₀ (by linarith [slack_pos])
  induction levels with
  | nil =>
    intro remaining premium hremaining _
    exact ⟨remaining, premium, rfl, hremaining, le_rfl, by simp⟩
  | cons level rest ih =>
    intro remaining premium hremaining hroom
    have hnonneg : 0 ≤ strain g remaining premium := strain_nonneg hremaining
    have hstrain : strain g remaining premium ≤ (1 + slack) ^ (level :: rest).length * strain g remaining premium :=
      le_mul_of_one_le_left hnonneg (hgrow _)
    unfold consume
    by_cases hzero : remaining.isZero = true
    · rw [if_pos hzero]
      exact ⟨remaining, premium, rfl, hremaining, le_rfl, hstrain⟩
    rw [if_neg hzero]
    -- the factor of this level is spent on the step, those of the other levels on the rest of the walk
    obtain ⟨gap, cost, premium', remaining', hgap_eq, hcost, hpremium, hremaining_eq, hnonneg', hle, hstep⟩ :=
      strain_step hg hremaining (hsize level List.mem_cons_self) (hgap level List.mem_cons_self)
        (hstrain.trans hroom)
    have htotal : (1 + slack) ^ rest.length * strain g remaining' premium' ≤
        (1 + slack) ^ (level :: rest).length * strain g remaining premium := by
      have := hgrow rest.length
      calc (1 + slack) ^ rest.length * strain g remaining' premium'
          ≤ (1 + slack) ^ rest.length * ((1 + slack) * strain g remaining premium) := by gcongr
        _ = (1 + slack) ^ (level :: rest).length * strain g remaining premium := by
            rw [List.length_cons, pow_succ, mul_assoc]
    obtain ⟨r, p, hconsume, hr, hr', hp⟩ := ih (fun l hl => hsize l (List.mem_cons_of_mem _ hl))
      (fun l hl => hgap l (List.mem_cons_of_mem _ hl)) hnonneg' (htotal.trans hroom)
    refine ⟨r, p, ?_, hr, hr'.trans hle, hp.trans htotal⟩
    dsimp only
    rw [hgap_eq]
    simp only [bind, Except.bind, hcost, hpremium, hremaining_eq]
    exact hconsume

/-- The average price, from a premium that the widest gap would give. -/
theorem average_bounded {p : Nat} {target : Decimal} (hp : p + 1 ≤ 28) (htarget : 0 < target)
    (hbest : |best.toRat| ≤ 10 ^ p) (hpremium : |premium.toRat| ≤ 2 * (target.toRat * 10 ^ (p + 1))) :
    ∃ average price, premium.div target = .ok average ∧ best.add average = .ok price ∧
      |price.toRat| ≤ 3 * 10 ^ (p + 1) := by
  have htarget' := toRat_pos.2 htarget
  have hpow := ten_pow_pos p
  have hlimit : 7 * 10 ^ (p + 1) < limit := ten_pow_lt_limit hp
  have hquotient : |premium.toRat / target.toRat| ≤ 2 * 10 ^ (p + 1) := by
    rw [abs_div, abs_of_pos htarget', div_le_iff₀ htarget']
    linarith
  obtain ⟨average, haverage, haverage_le⟩ := div_bounded (a := premium) (b := target) (n := 2 * 10 ^ (p + 1))
    htarget'.ne' (by omega) (by exact_mod_cast hquotient)
  have haverage_le : |average.toRat| ≤ 2 * 10 ^ (p + 1) := by exact_mod_cast haverage_le
  have hsum : |best.toRat + average.toRat| ≤ 3 * 10 ^ (p + 1) := by
    have := abs_add_le best.toRat average.toRat
    rw [pow_succ] at haverage_le ⊢
    linarith
  obtain ⟨price, hprice, hprice_le⟩ := add_bounded (a := best) (b := average) (n := 3 * 10 ^ (p + 1))
    (by omega) (by exact_mod_cast hsum)
  exact ⟨average, price, haverage, hprice, by exact_mod_cast hprice_le⟩

/-- **A walk with room has a result**: an average price of at most three times the widest gap, or what can be filled. -/
theorem walk_bounded {p a : Nat} {levels : List Level} {target : Decimal} (hlevels : Roomy p levels)
    (hroom : p + a ≤ 27) (htarget : 0 < target) (hle : target.toRat ≤ 3 * 10 ^ a) :
    ∃ fill, walk levels target = .ok fill ∧ ∀ price, fill = .filled price → |price.toRat| ≤ 3 * 10 ^ (p + 1) := by
  have htarget' := toRat_pos.2 htarget
  have hpow := ten_pow_pos p
  cases levels with
  | nil => exact ⟨.short 0, rfl, nofun⟩
  | cons first rest =>
    have hfirst := hlevels.price_le first List.mem_cons_self
    have hgap : ∀ l ∈ first :: rest, |l.price.toRat - first.price.toRat| ≤ 10 ^ (p + 1) := by
      intro l hl
      have hl := hlevels.price_le l hl
      have := abs_sub l.price.toRat first.price.toRat
      rw [pow_succ]
      linarith
    have hstrain : (1 + slack) ^ (first :: rest).length * strain (p + 1) target 0 ≤
        2 * (target.toRat * 10 ^ (p + 1)) := by
      unfold strain
      rw [toRat_zero, abs_zero, zero_add]
      exact mul_le_mul_of_nonneg_right (slack_growth hlevels.length_le) (by positivity)
    -- twice the amount at the widest gap: the other half is for all roundings together
    have hwidest : 2 * (target.toRat * 10 ^ (p + 1)) ≤ 6 * 10 ^ 28 := by
      calc 2 * (target.toRat * 10 ^ (p + 1)) ≤ 2 * (3 * 10 ^ a * 10 ^ (p + 1)) := by gcongr
        _ = 6 * 10 ^ (a + (p + 1)) := by rw [pow_add]; ring
        _ ≤ 6 * 10 ^ 28 := by
            have := ten_pow_le (show a + (p + 1) ≤ 28 by omega)
            linarith
    obtain ⟨r, premium, hconsume, hr, hr', hend⟩ := consume_bounded (by omega) hlevels.size_pos hgap htarget.le
      (hstrain.trans hwidest)
    have hpremium_le : |premium.toRat| ≤ 2 * (target.toRat * 10 ^ (p + 1)) := by
      have hrest := toRat_nonneg.2 hr
      have hend := hend.trans hstrain
      unfold strain at hend
      nlinarith [ten_pow_pos (p + 1)]
    unfold walk
    by_cases hzero : r.isZero = true
    · by_cases hpremium : premium.isZero = true
      · refine ⟨.filled first.price, Outcome.bind_eq_ok.2 ⟨(r, premium), hconsume, ?_⟩, ?_⟩
        · dsimp only
          rw [if_pos hzero, if_pos hpremium]
          rfl
        · rintro price ⟨⟩
          rw [pow_succ]
          linarith
      · obtain ⟨average, price, haverage, hprice, hprice_le⟩ :=
          average_bounded (by omega) htarget hfirst hpremium_le
        refine ⟨.filled price, Outcome.bind_eq_ok.2 ⟨(r, premium), hconsume, ?_⟩, ?_⟩
        · dsimp only
          rw [if_pos hzero, if_neg hpremium]
          exact Outcome.bind_eq_ok.2 ⟨average, haverage, Outcome.bind_eq_ok.2 ⟨price, hprice, rfl⟩⟩
        · rintro price' ⟨⟩
          exact hprice_le
    · obtain ⟨available, havailable, -⟩ := sub_of_le hr hr'
      refine ⟨.short available, Outcome.bind_eq_ok.2 ⟨(r, premium), hconsume, ?_⟩, nofun⟩
      dsimp only
      rw [if_neg hzero]
      exact Outcome.bind_eq_ok.2 ⟨available, havailable, rfl⟩

/-- A walk only divides by the amount that it fills. -/
theorem consume_avoids {f : Fault} (hf : f.tooLarge = false) (levels : List Level) :
    ∀ remaining premium, Avoids f (consume best levels remaining premium) := by
  induction levels with
  | nil =>
    intro remaining premium
    exact .ok _ _
  | cons level rest ih =>
    intro remaining premium
    unfold consume
    split
    · exact .ok _ _
    · exact (sub_avoids hf _ _).bind fun _ _ => (mul_avoids hf _ _).bind fun _ _ =>
        (add_avoids hf _ _).bind fun _ _ => (sub_avoids hf _ _).bind fun remaining' _ => ih remaining' _

theorem walk_avoids {f : Fault} (hf : f.tooLarge = false) (levels : List Level) {target : Decimal}
    (htarget : 0 < target) : Avoids f (walk levels target) := by
  cases levels with
  | nil => exact .ok _ _
  | cons first rest =>
    unfold walk
    refine (consume_avoids hf _ _ _).bind fun ⟨remaining, premium⟩ _ => ?_
    dsimp only
    split
    · split
      · exact .ok _ _
      · exact (div_avoids hf _ (toRat_pos.2 htarget).ne').bind fun _ _ => (add_avoids hf _ _).bind fun _ _ => .ok _ _
    · exact (sub_avoids hf _ _).bind fun _ _ => .ok _ _

end Walk

/-! ## Quotes -/

namespace BookSource

variable {s : BookSource} {pair : String} {side : Side} {amount : Decimal}

/-- The arithmetic of a quote is that of its walk. -/
theorem quote_avoids_of_walk {f : Fault}
    (h : ∀ book, s.book = some book → 0 < amount → Avoids f (walk (levels book side) amount)) :
    Avoids (.fault f) (s.quote pair side amount) := by
  unfold quote
  have hread : ∀ x : Except QuoteError Book, Avoids (.fault f) (Outcome.ofCheck x : Outcome QuoteError Book) := by
    rintro (e | book) <;> nofun
  refine (hread _).bind fun book hbook => ?_
  split
  · nofun
  next hamount =>
  refine (h book ?_ (Decimal.not_le.1 hamount)).ofArithmetic.bind fun fill _ => ?_
  · exact book_of_read (Outcome.ofCheck_eq_ok.1 hbook)
  · cases fill <;> nofun

/-- **No quote has a fault but numbers that are too large**, so none divides by zero. -/
theorem quote_avoids {f : Fault} (hf : f.tooLarge = false) : Avoids (.fault f) (s.quote pair side amount) :=
  quote_avoids_of_walk fun _ _ hamount => walk_avoids hf _ hamount

/-- Whether a source holds a book that keeps to some digits, or no book. -/
def Within (d : Digits) (s : BookSource) : Prop :=
  ∀ book, s.book = some book → ∃ b : Book, book = b.normalized ∧ b.Within d

/-- **A quote within the digits**: no arithmetic fails, and the price is bounded. -/
theorem Within.quote_bounded {d : Digits} (h : s.Within d) (hle : amount.toRat ≤ 3 * 10 ^ d.amount) :
    (∀ f, Avoids (.fault f) (s.quote pair side amount)) ∧
      ∀ quote, s.quote pair side amount = .ok quote → |quote.price.toRat| ≤ 3 * 10 ^ (d.price + 1) := by
  refine ⟨fun f => quote_avoids_of_walk fun book hbook hamount => ?_, fun quote hquote => ?_⟩
  · obtain ⟨b, rfl, hb⟩ := h book hbook
    obtain ⟨fill, hwalk, -⟩ := walk_bounded (hb.roomy side) d.cost_room hamount hle
    rw [hwalk]
    exact .ok f fill
  · obtain ⟨book, hbook, hamount, hwalk, -⟩ := quote_eq_ok hquote
    obtain ⟨b, rfl, hb⟩ := h book hbook
    obtain ⟨fill, hwalk', hprice⟩ := walk_bounded (hb.roomy side) d.cost_room hamount hle
    cases hwalk.symm.trans hwalk'
    exact hprice _ rfl

/-- No purchase is cheaper than the smallest ask may be. -/
theorem Within.ask_ge {d : Digits} {quote : Quote} (h : s.Within d) (hquote : s.quote pair .buy amount = .ok quote) :
    1 ≤ quote.price.toRat * 10 ^ d.ask := by
  obtain ⟨book, hbook, -⟩ := quote_eq_ok hquote
  obtain ⟨b, rfl, hb⟩ := h book hbook
  obtain ⟨-, best, hbest, hworse⟩ := quote_worse hbook hquote
  have hle : best.toRat ≤ quote.price.toRat := sub_nonneg.1 hworse
  exact (hb.best_ask_ge hbest).trans (mul_le_mul_of_nonneg_right hle (ten_pow_pos _).le)

/-- No sale brings more than the prices may be. -/
theorem Within.bid_le {d : Digits} {quote : Quote} (h : s.Within d) (hquote : s.quote pair .sell amount = .ok quote) :
    quote.price.toRat ≤ 10 ^ d.price := by
  obtain ⟨book, hbook, -⟩ := quote_eq_ok hquote
  obtain ⟨b, rfl, hb⟩ := h book hbook
  obtain ⟨-, best, hbest, hworse⟩ := quote_worse hbook hquote
  have hle : quote.price.toRat ≤ best.toRat := sub_nonpos.1 hworse
  exact hle.trans ((le_abs_self _).trans (hb.best_le hbest))

/-- The best prices are those of the snapshot. -/
theorem topOfBook_eq_ok {top : TopOfBook} (h : s.topOfBook pair = .ok top) :
    ∃ book, s.book = some book ∧ top = ⟨book.best .sell, book.best .buy⟩ := by
  unfold topOfBook at h
  obtain ⟨book, hread, h⟩ := Outcome.bind_eq_ok.1 h
  cases h
  exact ⟨book, book_of_read (Outcome.ofCheck_eq_ok.1 hread), rfl⟩

/-- No arithmetic is needed to look at the best prices. -/
theorem topOfBook_avoids (f : Fault) : Avoids (.fault f) (s.topOfBook pair) := by
  unfold topOfBook
  cases s.read pair with
  | error e => exact .of_ne nofun
  | ok book => exact .ok _ _

end BookSource

/-- Whether both markets quote from books of some kind. -/
def FromBooks (P : BookSource → Prop) (sources : Market → Source) : Prop := ∀ m, ∃ s, P s ∧ sources m = .book s

end TwoVenue
