import TwoVenue.Proofs.Engine.Freshness

/-!
# The order of a book

A snapshot has the levels of its book that are not empty, best price first. The sort is stable and compares values, so
the order of a file only matters among levels of one price. Without such levels it does not matter at all.

- `Side.Prefers`: the order of levels on a side. `levels_normalized`: a snapshot is sorted by it.
- `count_normalized`, `atPrice_normalized`: **nothing but empty levels is lost**, and levels of one price stay in order.
- `normalized_normalized`: a snapshot is in order already.
- `Book.Rearranges`, `Rearranges.normalized_eq`: **two orders of the same levels have one snapshot**.
- `Book.normalized_sorted`: all that together, up to the cycles of an engine that reads the two files.
-/

namespace TwoVenue

open Decimal

/-! ## The order of levels -/

/-- Whether a taker on a side takes one level no later than another: the lower ask, the higher bid. -/
def Side.Prefers (side : Side) (x y : Level) : Prop :=
  match side with
  | .buy => x.price ≤ y.price
  | .sell => y.price ≤ x.price

instance (side : Side) : DecidableRel side.Prefers := fun x y =>
  match side with
  | .buy => inferInstanceAs (Decidable (x.price ≤ y.price))
  | .sell => inferInstanceAs (Decidable (y.price ≤ x.price))

namespace Side.Prefers

variable {side : Side} {x y z : Level}

theorem trans (hxy : side.Prefers x y) (hyz : side.Prefers y z) : side.Prefers x z := by
  cases side with
  | buy => exact le_trans (α := Decimal) hxy hyz
  | sell => exact le_trans (α := Decimal) hyz hxy

theorem total (side : Side) (x y : Level) : side.Prefers x y ∨ side.Prefers y x := by
  cases side with
  | buy => exact Decimal.le_total x.price y.price
  | sell => exact Decimal.le_total y.price x.price

/-- Levels of one price are preferred to each other, whatever digits the price is written in. -/
theorem of_equiv (h : x.price ≈ y.price) : side.Prefers x y := by
  have hvalue : x.price.toRat = y.price.toRat := toRat_inj.2 h
  cases side with
  | buy => exact toRat_le_toRat.1 hvalue.le
  | sell => exact toRat_le_toRat.1 hvalue.ge

theorem equiv (hxy : side.Prefers x y) (hyx : side.Prefers y x) : x.price ≈ y.price := by
  cases side with
  | buy => exact equiv_of_le_of_le hxy hyx
  | sell => exact equiv_of_le_of_le hyx hxy

end Side.Prefers

namespace Book

open BookSource (levels)

variable {b b' : Book} {side : Side} {price : Decimal}

theorem levels_normalized (b : Book) (side : Side) :
    levels b.normalized side = (offered (levels b side)).mergeSort fun x y => decide (side.Prefers x y) := by
  cases side <;> rfl

theorem levels_normalized_perm (b : Book) (side : Side) :
    (levels b.normalized side).Perm (offered (levels b side)) := by
  rw [levels_normalized]
  exact List.mergeSort_perm _ _

theorem levels_normalized_pairwise (b : Book) (side : Side) : (levels b.normalized side).Pairwise side.Prefers := by
  rw [levels_normalized]
  exact pairwise_sort side.Prefers (fun _ _ _ hxy hyz => hxy.trans hyz) (Side.Prefers.total side) _

/-- **Nothing but empty levels is lost**: a snapshot has every other level as often as its book. -/
theorem count_normalized (b : Book) (side : Side) (l : Level) :
    (levels b.normalized side).count l = if 0 < l.size then (levels b side).count l else 0 := by
  rw [(levels_normalized_perm b side).count_eq]
  by_cases hsize : 0 < l.size
  · rw [if_pos hsize]
    exact List.count_filter (decide_eq_true hsize)
  · rw [if_neg hsize]
    exact List.count_eq_zero.2 fun hl => hsize (mem_offered.1 hl).2

/-! ## Levels of one price -/

/-- The levels that have a price, in whatever digits it is written. -/
def atPrice (price : Decimal) (ls : List Level) : List Level := ls.filter fun l => decide (l.price ≈ price)

theorem mem_atPrice {ls : List Level} {l : Level} : l ∈ atPrice price ls ↔ l ∈ ls ∧ l.price ≈ price := by
  unfold atPrice
  rw [List.mem_filter, decide_eq_true_iff]

/-- Levels of one price are in order, however they stand. -/
theorem atPrice_pairwise (price : Decimal) (ls : List Level) : (atPrice price ls).Pairwise side.Prefers := by
  refine List.pairwise_of_forall_mem_list fun x hx y hy => .of_equiv ?_
  have hx' : x.price.toRat = price.toRat := toRat_inj.2 (mem_atPrice.1 hx).2
  have hy' : y.price.toRat = price.toRat := toRat_inj.2 (mem_atPrice.1 hy).2
  exact toRat_inj.1 (hx'.trans hy'.symm)

/-- **Levels of one price keep their order.** They are in order before the sort, so it leaves them a part of the list
that it sorts, and it adds none. -/
theorem atPrice_normalized (b : Book) (side : Side) (price : Decimal) :
    atPrice price (levels b.normalized side) = atPrice price (offered (levels b side)) := by
  have hpart : (atPrice price (offered (levels b side))).Sublist (levels b.normalized side) := by
    rw [levels_normalized]
    refine List.sublist_mergeSort (fun x y z hxy hyz => ?_) (fun x y => ?_) ?_ List.filter_sublist
    · exact decide_eq_true ((of_decide_eq_true hxy).trans (of_decide_eq_true hyz))
    · rw [Bool.or_eq_true, decide_eq_true_iff, decide_eq_true_iff]
      exact Side.Prefers.total side x y
    · exact (atPrice_pairwise price _).imp decide_eq_true
  have hsame : (atPrice price (offered (levels b side))).Sublist (atPrice price (levels b.normalized side)) := by
    have hfiltered := hpart.filter fun l => decide (l.price ≈ price)
    simpa only [atPrice, List.filter_filter, Bool.and_self] using hfiltered
  have hlength : (atPrice price (levels b.normalized side)).length = (atPrice price (offered (levels b side))).length :=
    ((levels_normalized_perm b side).filter _).length_eq
  exact (hsame.eq_of_length hlength.symm).symm

/-! ## Snapshots of one book -/

theorem offered_eq_self {ls : List Level} (h : ∀ l ∈ ls, 0 < l.size) : offered ls = ls :=
  List.filter_eq_self.2 fun l hl => decide_eq_true (h l hl)

theorem eq_of_levels (hlevels : ∀ side, levels b side = levels b' side) (hfee : b.feeRate = b'.feeRate) : b = b' := by
  cases b with
  | mk bids asks fee =>
    cases b' with
    | mk bids' asks' fee' =>
      have hasks : asks = asks' := hlevels .buy
      have hbids : bids = bids' := hlevels .sell
      rw [hasks, hbids, show fee = fee' from hfee]

/-- A snapshot is in order already. -/
theorem normalized_normalized (b : Book) : b.normalized.normalized = b.normalized := by
  refine eq_of_levels (fun side => ?_) rfl
  rw [levels_normalized b.normalized, offered_eq_self (offered_normalized b side).size_pos]
  exact List.mergeSort_of_pairwise ((levels_normalized_pairwise b side).imp decide_eq_true)

/-- Whether two books have the same levels in whatever order, and no two of them that are not empty have one price on one
side. -/
structure Rearranges (b b' : Book) : Prop where
  bids : b.bids.Perm b'.bids
  asks : b.asks.Perm b'.asks
  distinct_bids : (offered b.bids).Pairwise fun x y => ¬ x.price ≈ y.price
  distinct_asks : (offered b.asks).Pairwise fun x y => ¬ x.price ≈ y.price

theorem Rearranges.on (h : b.Rearranges b') (side : Side) :
    (levels b side).Perm (levels b' side) ∧ (offered (levels b side)).Pairwise fun x y => ¬ x.price ≈ y.price := by
  cases side with
  | buy => exact ⟨h.asks, h.distinct_asks⟩
  | sell => exact ⟨h.bids, h.distinct_bids⟩

/-- Of levels with different prices at most one has a given price. -/
theorem eq_of_distinct {ls : List Level} (h : ls.Pairwise fun x y => ¬ x.price ≈ y.price) {x y : Level} (hx : x ∈ ls)
    (hy : y ∈ ls) (hprice : x.price ≈ y.price) : x = y := by
  have hsymm : Std.Symm fun x y : Level => ¬ x.price ≈ y.price := by
    refine ⟨fun x y hxy hyx => hxy ?_⟩
    exact toRat_inj.1 (toRat_inj.2 hyx).symm
  by_contra hne
  exact h.forall hx hy hne hprice

/-- **Two orders of the same levels have one snapshot**, but for the fee rates. -/
theorem Rearranges.normalized_eq (h : b.Rearranges b') :
    b'.normalized = { b.normalized with feeRate := b'.feeRate } := by
  refine eq_of_levels (fun side => ?_) rfl
  obtain ⟨hperm, hdistinct⟩ := h.on side
  have hsorted : (levels b.normalized side).Perm (levels b'.normalized side) :=
    (levels_normalized_perm b side).trans ((hperm.filter _).trans (levels_normalized_perm b' side).symm)
  have hmem : ∀ l, l ∈ levels b.normalized side → l ∈ offered (levels b side) :=
    fun l hl => (levels_normalized_perm b side).subset hl
  -- sorted lists of the same levels differ only in levels of one price, and here these are one level
  have hequal : levels b.normalized side = levels b'.normalized side := by
    refine hsorted.eq_of_pairwise (fun x y hx hy hxy hyx => ?_) (levels_normalized_pairwise b side)
      (levels_normalized_pairwise b' side)
    exact eq_of_distinct hdistinct (hmem x hx) (hmem y (hsorted.symm.subset hy)) (hxy.equiv hyx)
  cases side <;> exact hequal.symm

end Book

/-! ## Files with the same levels -/

/-- Whether two sets of books have the same levels for a venue, in whatever order: none in both of them, or two
rearranged books with one fee rate. -/
def Books.Rearrange (books books' : Books) (venue : Venue) : Prop :=
  Option.Rel (fun b b' => b.Rearranges b' ∧ b.feeRate = b'.feeRate) (books.find? venue) (books'.find? venue)

/-- What a source holds does not depend on the order of the levels. -/
theorem Source.refresh_of_rearrange {books books' : Books} (source : Source) (h : books.Rearrange books' source.venue) :
    source.refresh books' = source.refresh books := by
  cases source with
  | scripted s => rfl
  | book s =>
    have h : Option.Rel _ (books.find? s.venue) (books'.find? s.venue) := h
    show Source.book (s.refresh books') = Source.book (s.refresh books)
    unfold BookSource.refresh
    generalize books.find? s.venue = before at h ⊢
    generalize books'.find? s.venue = after at h ⊢
    cases h with
    | none => rfl
    | some hbooks =>
      obtain ⟨hrearranges, hfee⟩ := hbooks
      dsimp only
      rw [BookSource.update, BookSource.update, hrearranges.normalized_eq, ← hfee]
      rfl

open BookSource (levels) in
/-- **The order of a book.** A snapshot has every level with a positive size as often as its book has it, digit for
digit, and the same fee rate. Its bids begin with the highest price and its asks with the lowest; levels of equal value
keep the order of the book; and it is in order already. Two books with the same levels in different orders, no two of
which have one price on one side, have the same snapshot up to the fee rate, so with one fee rate every quote and every
best price is the same. Two files of such books leave any engine in the same state, so whatever happens to it afterwards
is the same as well. -/
theorem Book.normalized_sorted (b : Book) :
    (∀ side l, (levels b.normalized side).count l = if 0 < l.size then (levels b side).count l else 0) ∧
      b.normalized.feeRate = b.feeRate ∧
      b.normalized.bids.Pairwise (fun x y => y.price ≤ x.price) ∧
      b.normalized.asks.Pairwise (fun x y => x.price ≤ y.price) ∧
      (∀ side price, atPrice price (levels b.normalized side) = atPrice price (offered (levels b side))) ∧
      b.normalized.normalized = b.normalized ∧
      (∀ b', b.Rearranges b' → b'.normalized = { b.normalized with feeRate := b'.feeRate } ∧
        (b.feeRate = b'.feeRate → b'.normalized = b.normalized ∧ ∀ (s : BookSource) (pair : String),
          (∀ side amount, (s.update b').quote pair side amount = (s.update b).quote pair side amount) ∧
            (s.update b').topOfBook pair = (s.update b).topOfBook pair)) ∧
      ∀ (e : Engine) (file file' : FileContents) (books books' : Books), Books.load file = .ok books →
        Books.load file' = .ok books' → (∀ m, books.Rearrange books' (e.source m).venue) →
        ∃ e', e.refresh file = .ok e' ∧ e.refresh file' = .ok e' := by
  refine ⟨b.count_normalized, rfl, b.levels_normalized_pairwise .sell, b.levels_normalized_pairwise .buy,
    b.atPrice_normalized, b.normalized_normalized, fun b' h => ⟨h.normalized_eq, fun hfee => ?_⟩, ?_⟩
  · have hsame : b'.normalized = b.normalized := by
      rw [h.normalized_eq, ← hfee]
      rfl
    have hupdate : ∀ s : BookSource, s.update b' = s.update b := by
      intro s
      rw [BookSource.update, BookSource.update, hsame]
    refine ⟨hsame, fun s pair => ?_⟩
    rw [hupdate s]
    exact ⟨fun _ _ => rfl, rfl⟩
  · intro e file file' books books' hload hload' hbooks
    have hfirst : e.first.refresh books' = e.first.refresh books := e.first.refresh_of_rearrange (hbooks .first)
    have hsecond : e.second.refresh books' = e.second.refresh books := e.second.refresh_of_rearrange (hbooks .second)
    refine ⟨e.refreshFrom books, Engine.refresh_of_load hload, ?_⟩
    rw [Engine.refresh_of_load hload', Engine.refreshFrom, hfirst, hsecond]
    rfl

-- 99 and 99.0 are one price, so the level that the file has first stays in front
example : (⟨[⟨98, 3⟩, ⟨99, 1⟩, ⟨99.5, 0⟩, ⟨99.0, 2⟩], [], 0⟩ : Book).normalized
    = ⟨[⟨99, 1⟩, ⟨99.0, 2⟩, ⟨98, 3⟩], [], 0⟩ := by
  cbv

/-- The text of `bothBooks` with the two asks in the other order. -/
def swappedBooks : String :=
  "\x7b\"binance\": \x7b\"BTC-USDT\": \x7b\"asks\": [[\"100\", \"1.5\"], [\"101\", \"1\"]]\x7d\x7d, " ++
    "\"kraken\": \x7b\"BTC-USDT\": \x7b\"bids\": [[\"105\", \"1\"]]\x7d\x7d\x7d"

theorem swappedBooks_load : Books.load (.ok swappedBooks.toUTF8) = .ok
    ⟨[("binance", ⟨[("BTC-USDT", ⟨[], [⟨100, 1.5⟩, ⟨101, 1⟩], 0⟩)]⟩), ("kraken", ⟨[("BTC-USDT", ⟨[⟨105, 1⟩], [], 0⟩)]⟩)]⟩ :=
  Books.load_toUTF8 (by decide +kernel)

/-- The asks of `bothBooks` and of `swappedBooks` are one snapshot, so it does not matter which of the two files an engine
is given. -/
theorem Book.normalized_sorted_swapped :
    (⟨[], [⟨101, 1⟩, ⟨100, 1.5⟩], 0⟩ : Book).Rearranges ⟨[], [⟨100, 1.5⟩, ⟨101, 1⟩], 0⟩ ∧
      (⟨[], [⟨100, 1.5⟩, ⟨101, 1⟩], 0⟩ : Book).normalized = (⟨[], [⟨101, 1⟩, ⟨100, 1.5⟩], 0⟩ : Book).normalized ∧
      ∃ e', Engine.unheldEngine.refresh (.ok Engine.bothBooks.toUTF8) = .ok e' ∧
        Engine.unheldEngine.refresh (.ok swappedBooks.toUTF8) = .ok e' := by
  have hasks : (⟨[], [⟨101, 1⟩, ⟨100, 1.5⟩], 0⟩ : Book).Rearranges ⟨[], [⟨100, 1.5⟩, ⟨101, 1⟩], 0⟩ :=
    ⟨.refl _, .swap _ _ _, by decide, by decide⟩
  have hbids : (⟨[⟨105, 1⟩], [], 0⟩ : Book).Rearranges ⟨[⟨105, 1⟩], [], 0⟩ := ⟨.refl _, .refl _, by decide, by decide⟩
  obtain ⟨-, -, -, -, -, -, hbook, hfiles⟩ := Book.normalized_sorted ⟨[], [⟨101, 1⟩, ⟨100, 1.5⟩], 0⟩
  refine ⟨hasks, ((hbook _ hasks).2 rfl).1, hfiles _ _ _ _ _ Engine.bothBooks_load swappedBooks_load fun m => ?_⟩
  cases m with
  | first => exact .some ⟨hasks, rfl⟩
  | second => exact .some ⟨hbids, rfl⟩

end TwoVenue
