import TwoVenue.Decimal.Text
import TwoVenue.Failure
import TwoVenue.Market.Side
import TwoVenue.Market.Venue

/-!
# Orders

- `Order`: an instruction to trade an amount on one venue at a limit price.
- `Order.notional`: what the whole order is worth at its limit price.
- `Order.check`: the rules that hold for every order, in the order in which they are tried.
- `TradingError`: why orders are refused.
-/

namespace TwoVenue

/-- An order for one leg of a trade. -/
structure Order where
  connector : String
  tradingPair : String
  side : Side
  orderType : OrderType
  /-- The amount of base asset. -/
  amount : Decimal
  /-- The worst price at which the order may be filled. -/
  price : Decimal
deriving DecidableEq

/-- A rule that an order breaks. -/
inductive OrderFlaw where
  | noConnector
  | noTradingPair
  | nonPositivePrice
  | nonPositiveAmount
deriving DecidableEq

/-- The text of a flaw. -/
def OrderFlaw.message : OrderFlaw → String
  | .noConnector => "connector is required"
  | .noTradingPair => "trading_pair is required"
  | .nonPositivePrice => "price must be positive"
  | .nonPositiveAmount => "amount must be positive"

/-- Why orders are refused. -/
inductive TradingError where
  /-- An order breaks a rule. -/
  | invalidParams (flaw : OrderFlaw)
  /-- A balance does not cover an order. -/
  | insufficientFunds (connector asset : String) (required available : Decimal)
deriving DecidableEq

/-- The text of an error. -/
def TradingError.message : TradingError → String
  | .invalidParams flaw => "invalid order parameters: " ++ flaw.message
  | .insufficientFunds connector asset required available =>
    "insufficient " ++ asset ++ " on " ++ connector ++ ": need " ++ required.toText ++ ", have " ++ available.toText

namespace Order

/-- An order that executes at once. -/
def taker (venue : Venue) (side : Side) (amount price : Decimal) : Order :=
  ⟨venue.connector, venue.tradingPair, side, .taker, amount, price⟩

/-- Whether the order would rest on the book. -/
def isMaker (o : Order) : Bool := o.orderType = .maker

/-- The amount of quote asset at the limit price. -/
def notional (o : Order) : Except Fault Decimal := o.amount.mul o.price

/-- The first rule that the order breaks. -/
def check (o : Order) : Except OrderFlaw Unit :=
  if o.connector = "" then .error .noConnector
  else if o.tradingPair = "" then .error .noTradingPair
  else if o.price ≤ 0 then .error .nonPositivePrice
  else if o.amount ≤ 0 then .error .nonPositiveAmount
  else .ok ()

end Order

end TwoVenue
