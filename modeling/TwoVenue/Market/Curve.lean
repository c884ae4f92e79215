import TwoVenue.Market.Source

/-!
# Price curves in segments

A curve is a list of segments. The first one that covers an amount gives its price: none, a fixed one, or one that
changes with the amount.
-/

namespace TwoVenue

/-- A part of a price curve. -/
structure Segment where
  /-- The largest amount that the segment covers; without it, all. -/
  upTo : Option Decimal
  /-- The price at amount zero, if the segment has prices. -/
  price : Option Decimal
  /-- What the price gains per unit. -/
  slope : Option Decimal

namespace Segment

/-- Whether the segment is meant for an amount. -/
def covers (s : Segment) (amount : Decimal) : Bool :=
  match s.upTo with
  | none => true
  | some limit => decide (amount ≤ limit)

/-- The price that the segment gives. A slope of zero leaves the digits of the price alone. -/
def priceAt (s : Segment) (amount : Decimal) : Except Fault (Option Decimal) :=
  match s.price, s.slope with
  | none, _ => .ok none
  | some price, none => .ok (some price)
  | some price, some slope =>
    if slope.isZero then .ok (some price)
    else do
      let gain ← slope.mul amount
      let total ← price.add gain
      return some total

/-- The curve of a list of segments. An amount that none covers has no price. -/
def curve (segments : List Segment) : PriceCurve := fun amount =>
  match segments.find? (·.covers amount) with
  | none => .ok none
  | some s => s.priceAt amount

end Segment

end TwoVenue
