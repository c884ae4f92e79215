/-!
# Venues

A venue is a trading pair on a connector. The pair names the base asset, a dash, and the quote asset.

- `splitPair`: the two assets. Only the first dash counts, and a pair without one has an empty quote asset.
- `Market`: which of the two markets of the engine is meant.
-/

namespace TwoVenue

/-- The assets of a trading pair: what stands before and after its first dash. -/
def splitPair (pair : String) : String × String :=
  let cs := pair.toList
  (String.ofList (cs.takeWhile (· != '-')), String.ofList ((cs.dropWhile (· != '-')).drop 1))

/-- A trading pair on a connector. -/
structure Venue where
  connector : String
  tradingPair : String
deriving DecidableEq

namespace Venue

/-- The asset that is bought and sold. -/
def baseAsset (v : Venue) : String := (splitPair v.tradingPair).1

/-- The asset that prices are in. -/
def quoteAsset (v : Venue) : String := (splitPair v.tradingPair).2

/-- How a venue is shown. -/
def text (v : Venue) : String := v.connector ++ ":" ++ v.tradingPair

end Venue

/-- One of the two markets. -/
inductive Market where
  | first
  | second
deriving DecidableEq

/-- The other one. -/
def Market.other : Market → Market
  | .first => .second
  | .second => .first

/-- What differs between the two markets differs between each of them and the other one. -/
theorem Market.apply_ne_other {α : Type} {f : Market → α} (h : f .first ≠ f .second) (m : Market) : f m ≠ f m.other := by
  cases m with
  | first => exact h
  | second => exact h.symm

end TwoVenue
