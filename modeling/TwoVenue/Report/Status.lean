import TwoVenue.Json.Basic
import TwoVenue.Text.Column
import TwoVenue.Trade.Executor

/-!
# Status reports

A report shows the prices of both markets, all balances, the active orders and the last opportunity.

- `StatusReport.text`: the report as a table for people.
- `StatusReport.toJson?`: the report as data, if its times can be written.
-/

namespace TwoVenue

/-- The prices of a market; there are none if it cannot be asked. -/
structure MarketSnapshot where
  venue : Venue
  /-- What a seller receives. -/
  sellPrice : Option Decimal
  /-- What a buyer pays. -/
  buyPrice : Option Decimal
  midPrice : Option Decimal

/-- A market without prices. -/
def MarketSnapshot.unpriced (venue : Venue) : MarketSnapshot := ⟨venue, none, none, none⟩

/-- The state of the engine at a time. -/
structure StatusReport where
  markets : List MarketSnapshot
  balances : List AssetBalance
  /-- Orders that are not filled yet. -/
  activeOrders : List (String × Order × Instant)
  /-- The text about the last opportunity. -/
  lastProposal : Option String
  generatedAt : Instant

namespace StatusReport

open Text (left right)

/-- A price without final zeros, or a dash. -/
def priceText : Option Decimal → String
  | some p => p.normalize.toText
  | none => "-"

/-- A line of the table of markets. -/
def marketLine (connector pair sell buy mid : String) : String :=
  "  " ++ left 12 connector ++ " " ++ left 12 pair ++ " " ++ right 16 sell ++ " " ++ right 16 buy ++ " " ++
    right 16 mid ++ "\n"

/-- A line of the table of balances. -/
def balanceLine (b : AssetBalance) : String :=
  "  " ++ left 12 b.account.connector ++ " " ++ left 8 b.account.asset ++ " " ++
    right 20 b.amount.normalize.toText ++ "\n"

/-- A line of the table of orders. -/
def orderLine (o : Order) : String :=
  "  " ++ left 12 o.connector ++ " " ++ left 12 o.tradingPair ++ " " ++ left 4 o.side.text ++ " " ++
    right 14 o.amount.normalize.toText ++ " " ++ right 16 o.price.normalize.toText ++ "\n"

/-- The lines of a table, or one line that says that it is empty. -/
def tableOr (whenEmpty : String) (lines : List String) : String :=
  if lines.isEmpty then "  " ++ whenEmpty ++ "\n" else String.join lines

/-- The report for people. -/
def text (r : StatusReport) : String :=
  "# Markets\n" ++ marketLine "Exchange" "Market" "Sell Price" "Buy Price" "Mid Price" ++
    String.join (r.markets.map fun m =>
      marketLine m.venue.connector m.venue.tradingPair (priceText m.sellPrice) (priceText m.buyPrice)
        (priceText m.midPrice)) ++
    "\n# Assets\n" ++ tableOr "No balances." (r.balances.map balanceLine) ++
    "\n# Active Orders\n" ++ tableOr "No active orders." (r.activeOrders.map fun (_, o, _) => orderLine o) ++
    "\n# Profitability\n" ++
    match r.lastProposal with
    | some msg => "  - " ++ msg
    | none => "  No arbitrage opportunities found yet."

end StatusReport

/-! ## Reports as data -/

/-- A decimal as data is its text. -/
def Decimal.toJson (d : Decimal) : Json := .text d.toText

/-- A value that may be missing. -/
def Json.ofOption {α : Type} (f : α → Json) : Option α → Json
  | some a => f a
  | none => .null

/-- The prices of a market as data. -/
def MarketSnapshot.toJson (m : MarketSnapshot) : Json :=
  .ofMembers
    [("connector", .text m.venue.connector), ("trading_pair", .text m.venue.tradingPair),
     ("sell_price", .ofOption Decimal.toJson m.sellPrice), ("buy_price", .ofOption Decimal.toJson m.buyPrice),
     ("mid_price", .ofOption Decimal.toJson m.midPrice)]

/-- A balance as data. -/
def AssetBalance.toJson (b : AssetBalance) : Json :=
  .ofMembers
    [("connector", .text b.account.connector), ("asset", .text b.account.asset), ("amount", b.amount.toJson)]

/-- An order as data. -/
def Order.toJson (o : Order) : Json :=
  .ofMembers
    [("connector", .text o.connector), ("trading_pair", .text o.tradingPair), ("side", .text o.side.text),
     ("order_type", .text o.orderType.text), ("amount", o.amount.toJson), ("price", o.price.toJson)]

/-- An active order as data, if its time can be written. -/
def ActiveOrder.toJson? (id : String) (o : Order) (submittedAt : Instant) : Option Json :=
  (Instant.text? submittedAt).map fun t =>
    .ofMembers [("order_id", .text id), ("candidate", o.toJson), ("submitted_at", .text t)]

/-- The report as data, if all its times can be written. -/
def StatusReport.toJson? (r : StatusReport) : Option Json := do
  let orders ← r.activeOrders.mapM fun (id, o, t) => ActiveOrder.toJson? id o t
  let time ← Instant.text? r.generatedAt
  return .ofMembers
    [("markets", .array (r.markets.map (·.toJson))), ("balances", .array (r.balances.map (·.toJson))),
     ("active_orders", .array orders), ("last_proposal", .ofOption .text r.lastProposal),
     ("generated_at", .text time)]

end TwoVenue
