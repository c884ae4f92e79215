/-!
# Sides and kinds of orders

A trade buys or sells the base asset, and an order takes liquidity or makes it.

- `Side.text`, `OrderType.text`: the names in reports and log lines.
- `Side.ofName?`, `OrderType.ofName?`: both spellings of a name, all upper or all lower case.
- `Side.ofText?`, `OrderType.ofText?`: the upper case spelling only, as data files have it.
-/

namespace TwoVenue

/-- Which way the base asset goes. -/
inductive Side where
  | buy
  | sell
deriving DecidableEq

namespace Side

/-- The name of a side. -/
def text : Side → String
  | .buy => "BUY"
  | .sell => "SELL"

/-- Whether base assets are bought. -/
def isBuy : Side → Bool
  | .buy => true
  | .sell => false

/-- The side with exactly this name. -/
def ofText? (s : String) : Option Side :=
  if s = "BUY" then some .buy else if s = "SELL" then some .sell else none

/-- The side with this name, written in upper or in lower case. -/
def ofName? (s : String) : Option Side :=
  if s = "buy" then some .buy else if s = "sell" then some .sell else ofText? s

end Side

/-- Whether an order executes at once or rests on the book. -/
inductive OrderType where
  | taker
  | maker
deriving DecidableEq

namespace OrderType

/-- The name of a kind of order. -/
def text : OrderType → String
  | .taker => "TAKER"
  | .maker => "MAKER"

/-- The kind with exactly this name. -/
def ofText? (s : String) : Option OrderType :=
  if s = "TAKER" then some .taker else if s = "MAKER" then some .maker else none

/-- The kind with this name, written in upper or in lower case. -/
def ofName? (s : String) : Option OrderType :=
  if s = "taker" then some .taker else if s = "maker" then some .maker else ofText? s

end OrderType

/-- What is said of a name that belongs to no side and no kind of order. -/
def unknownNameMessage : String := "Matching variant not found"

end TwoVenue
