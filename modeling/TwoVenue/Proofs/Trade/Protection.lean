import TwoVenue.Proofs.Search.Optimum
import TwoVenue.Proofs.Trade.Buffer

/-!
# What buffers protect

The limits of a pair of orders are on the safe side of the quotes, and each of them has the buffer of the market that it
is traded on. The buffer is looked up by connector, which tells the markets apart only if their connectors differ.

- `Settings.buffer`: the buffer of a market. `Settings.slippageBuffer_venue`: the one that its connector has.
- `candidates_protected`: **buffers only protect**, and every order has that of its own market.
-/

namespace TwoVenue

open Decimal

/-- The buffer of a market. -/
def Settings.buffer (s : Settings) : Market → Decimal
  | .first => s.market1SlippageBuffer
  | .second => s.market2SlippageBuffer

theorem Settings.slippageBuffer_venue {s : Settings} (hconnectors : s.market1.connector ≠ s.market2.connector)
    (m : Market) : s.slippageBuffer (s.venue m).connector = s.buffer m := by
  unfold Settings.slippageBuffer
  cases m with
  | first => exact if_pos rfl
  | second => exact if_neg hconnectors.symm

/-- The order for a leg that is traded on a market. -/
theorem Leg.candidate_of_venue {s : Settings} (hconnectors : s.market1.connector ≠ s.market2.connector) {l : Leg}
    {m : Market} (hvenue : l.venue = s.venue m) {o : Order} :
    l.candidate s = .ok o ↔ ∃ price, bufferedPrice l.price l.side (s.buffer m) = .ok price ∧
      o = .taker l.venue l.side l.amount price := by
  rw [Leg.candidate_eq_ok, hvenue, Settings.slippageBuffer_venue hconnectors]

/-- **Buffers only protect.** A buyer's limit is at least the quote, and a larger buffer never lowers it. A seller's limit
is between zero and the quote, a larger buffer never raises it, and a buffer of one or more makes it zero. With the same
buffer a higher quote never has a lower limit. If the connectors of the markets differ, then the two orders of a proposal
are its legs in order, with their venues, sides and amounts, and each has the buffer of the market of its leg. -/
theorem candidates_protected :
    (∀ quoted buffer buffer' : Decimal, 0 < quoted → 0 ≤ buffer → buffer ≤ buffer' →
      (∀ price, bufferedPrice quoted .buy buffer = .ok price →
        quoted ≤ price ∧ ∀ price', bufferedPrice quoted .buy buffer' = .ok price' → price ≤ price') ∧
      (∀ price, bufferedPrice quoted .sell buffer = .ok price →
        0 ≤ price ∧ price ≤ quoted ∧ (1 ≤ buffer → price ≈ 0) ∧
          ∀ price', bufferedPrice quoted .sell buffer' = .ok price' → price' ≤ price) ∧
      ∀ side quoted' price price', quoted ≤ quoted' → bufferedPrice quoted side buffer = .ok price →
        bufferedPrice quoted' side buffer = .ok price' → price ≤ price') ∧
    ∀ (s : Settings) (p : Proposal) (m m' : Market), s.market1.connector ≠ s.market2.connector →
      p.first.venue = s.venue m → p.second.venue = s.venue m' →
      ∀ orders, p.candidates s = .ok orders ↔ ∃ price price',
        bufferedPrice p.first.price p.first.side (s.buffer m) = .ok price ∧
        bufferedPrice p.second.price p.second.side (s.buffer m') = .ok price' ∧
        orders = [.taker p.first.venue p.first.side p.first.amount price,
          .taker p.second.venue p.second.side p.second.amount price'] := by
  constructor
  · intro quoted buffer buffer' hquoted hbuffer hle
    refine ⟨fun price h => ⟨?_, fun price' h' => ?_⟩, fun price h => ⟨bufferedPrice_nonneg h, ?_, fun hone => ?_,
      fun price' h' => ?_⟩, fun side quoted' price price' hquoted' h h' => bufferedPrice_mono hquoted hquoted' h h'⟩
    · exact (bufferedPrice_worse hquoted hbuffer h).le_of_buy
    · exact (bufferedPrice_anti hquoted hle h h').le_of_buy
    · exact (bufferedPrice_worse hquoted hbuffer h).le_of_sell
    · exact bufferedPrice_of_one_le hquoted hone h
    · exact (bufferedPrice_anti hquoted hle h h').le_of_sell
  · intro s p m m' hconnectors hfirst hsecond orders
    rw [Proposal.candidates_eq_ok]
    constructor
    · rintro ⟨first, second, h, h', rfl⟩
      obtain ⟨price, hprice, rfl⟩ := (Leg.candidate_of_venue hconnectors hfirst).1 h
      obtain ⟨price', hprice', rfl⟩ := (Leg.candidate_of_venue hconnectors hsecond).1 h'
      exact ⟨price, price', hprice, hprice', rfl⟩
    · rintro ⟨price, price', hprice, hprice', rfl⟩
      exact ⟨_, _, (Leg.candidate_of_venue hconnectors hfirst).2 ⟨price, hprice, rfl⟩,
        (Leg.candidate_of_venue hconnectors hsecond).2 ⟨price', hprice', rfl⟩, rfl⟩

/-- The settings of `threeAmounts` with a larger buffer for the second market. -/
def unevenBuffers : Settings :=
  { threeAmounts with market2SlippageBuffer := 0.02, buffer2_nonneg := by decide }

/-- Half a unit that is bought on the second market of `unevenBuffers` and sold on the first one. -/
def fromSecondMarket : Proposal where
  first := ⟨unevenBuffers.market2, .buy, 0.5, 100, 0.002⟩
  second := ⟨unevenBuffers.market1, .sell, 0.5, 105, 0.001⟩
  sides_ne := nofun
  amounts_equiv := rfl
  venues_ne := by decide

/-- The purchase has the buffer of the second market, and the sale that of the first one. -/
theorem candidates_protected_fromSecondMarket :
    bufferedPrice 100 .buy 0.01 = .ok 101.00 ∧ bufferedPrice 100 .buy 0.02 = .ok 102.00 ∧ (100 : Decimal) ≤ 101.00 ∧
      (101.00 : Decimal) ≤ 102.00 ∧ bufferedPrice 100 .sell 1 = .ok 0 ∧ bufferedPrice 100 .sell 1.5 = .ok 0 ∧
      (0 : Decimal) ≤ 0 ∧
      fromSecondMarket.candidates unevenBuffers = .ok
        [.taker ⟨"kraken", "BTC-USDT"⟩ .buy 0.5 102.00, .taker ⟨"binance", "BTC-USDT"⟩ .sell 0.5 103.95] := by
  obtain ⟨hprices, horders⟩ := candidates_protected
  have hbuy : bufferedPrice 100 .buy 0.01 = .ok 101.00 := by decide +kernel
  have hbuy' : bufferedPrice 100 .buy 0.02 = .ok 102.00 := by decide +kernel
  have hsell : bufferedPrice 100 .sell 1 = .ok 0 := by decide +kernel
  have hsell' : bufferedPrice 100 .sell 1.5 = .ok 0 := by decide +kernel
  obtain ⟨hbought, -⟩ := hprices 100 0.01 0.02 (by decide) (by decide) (by decide)
  obtain ⟨-, hsold, -⟩ := hprices 100 1 1.5 (by decide) (by decide) (by decide)
  obtain ⟨hge, hlarger⟩ := hbought _ hbuy
  obtain ⟨-, -, -, hsmaller⟩ := hsold _ hsell
  refine ⟨hbuy, hbuy', hge, hlarger _ hbuy', hsell, hsell', hsmaller _ hsell', ?_⟩
  refine (horders unevenBuffers fromSecondMarket .second .first (by decide) rfl rfl _).2 ⟨102.00, 103.95, ?_, ?_, rfl⟩
  · exact hbuy'
  · decide +kernel

end TwoVenue
