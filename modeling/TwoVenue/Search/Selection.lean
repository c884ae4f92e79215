import TwoVenue.Search.Direction

/-!
# Choosing between the two directions

- `selectBetter`: the first opportunity only wins with a larger profit.
- `findOptimal`: searches both directions, buying on the first market first, and chooses.
-/

namespace TwoVenue

/-- The better of two opportunities. -/
def selectBetter : Option Opportunity → Option Opportunity → Option Opportunity
  | some a, some b => if b.profit < a.profit then some a else some b
  | some a, none => some a
  | none, b => b

/-- The best opportunity of both directions. -/
def findOptimal (s : Settings) (quoters : Quoters) : Traced QuoteError (Option Opportunity) := do
  let first ← bestForDirection s quoters .first .second
  let second ← bestForDirection s quoters .second .first
  Traced.emit (.sweepsCompleted (first.map (·.profit)) (second.map (·.profit)))
  return selectBetter first second

end TwoVenue
