import TwoVenue.Decimal.Division
import TwoVenue.Market.Book

/-!
# Walking the levels of a book

A trade takes the levels in order until its size is filled. Its price is the average over what it has taken, computed
as the best price and a premium: the part that every level costs on top of the best one. A trade within the first level
therefore has exactly that level's price.

- `consume`: what remains to be filled after some levels, and the premium so far.
- `walk`: the average price, or the size that could be filled.
-/

namespace TwoVenue

/-- How a walk ends. -/
inductive Fill where
  /-- The whole size is filled at this average price. -/
  | filled (price : Decimal)
  /-- Only this size can be filled. -/
  | short (available : Decimal)
deriving DecidableEq

/-- Takes levels until nothing remains. The result is what remains and the premium over `best`. -/
def consume (best : Decimal) : List Level → (remaining premium : Decimal) → Except Fault (Decimal × Decimal)
  | [], remaining, premium => .ok (remaining, premium)
  | level :: rest, remaining, premium =>
    if remaining.isZero then .ok (remaining, premium)
    else do
      let taken := remaining.min level.size
      let gap ← level.price.sub best
      let cost ← taken.mul gap
      let premium ← premium.add cost
      let remaining ← remaining.sub taken
      consume best rest remaining premium

/-- The average price at which `target` is filled by the levels in order. -/
def walk (levels : List Level) (target : Decimal) : Except Fault Fill :=
  match levels with
  | [] => .ok (.short 0)
  | best :: _ => do
    let (remaining, premium) ← consume best.price levels target 0
    if remaining.isZero then
      if premium.isZero then return .filled best.price
      let average ← premium.div target
      let price ← best.price.add average
      return .filled price
    let available ← target.sub remaining
    return .short available

end TwoVenue
