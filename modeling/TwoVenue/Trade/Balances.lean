import TwoVenue.Trade.Order

/-!
# Balances

- `Account`: an asset on a connector. Accounts are ordered by connector, then by asset.
- `Balances`: the amounts of all accounts that were ever set or filled, in that order.
- `Balances.checkFunds`: whether an order can be paid for: a buy with the quote asset, a sell with the base asset.
- `Balances.applyFill`: what a filled order changes. The base account is changed first; if the quote account then
  overflows, that first change stays.
-/

namespace TwoVenue

/-- An asset on a connector. -/
structure Account where
  connector : String
  asset : String
deriving DecidableEq

/-- The order of accounts. -/
def Account.before (a b : Account) : Bool :=
  decide (a.connector < b.connector) || (a.connector == b.connector && decide (a.asset < b.asset))

/-- An account with the amount on it. -/
structure AssetBalance where
  account : Account
  amount : Decimal
deriving DecidableEq

/-- Accounts with their amounts, in the order of accounts. -/
structure Balances where
  entries : List AssetBalance

namespace Balances

/-- No account at all. -/
def empty : Balances := ⟨[]⟩

/-- The amount of an account in a list of entries. -/
def find? (account : Account) : List AssetBalance → Option Decimal
  | [] => none
  | e :: rest => if e.account = account then some e.amount else find? account rest

/-- The amount of an account; zero if it was never set. -/
def get (b : Balances) (account : Account) : Decimal := (find? account b.entries).getD 0

/-- Gives an account an amount, at its place in the order. -/
def put (account : Account) (amount : Decimal) : List AssetBalance → List AssetBalance
  | [] => [⟨account, amount⟩]
  | e :: rest =>
    if e.account = account then ⟨account, amount⟩ :: rest
    else if account.before e.account then ⟨account, amount⟩ :: e :: rest
    else e :: put account amount rest

/-- The balances in which an account has the given amount. -/
def set (b : Balances) (account : Account) (amount : Decimal) : Balances := ⟨put account amount b.entries⟩

/-- Gives the two assets of a venue their amounts. -/
def fund (b : Balances) (venue : Venue) (base quote : Decimal) : Balances :=
  (b.set ⟨venue.connector, venue.baseAsset⟩ base).set ⟨venue.connector, venue.quoteAsset⟩ quote

/-- The account that pays for an order and the amount that it has to hold. -/
def required (o : Order) : Except Fault (Account × Decimal) :=
  let (base, quote) := splitPair o.tradingPair
  match o.side with
  | .buy => do
    let notional ← o.notional
    return (⟨o.connector, quote⟩, notional)
  | .sell => .ok (⟨o.connector, base⟩, o.amount)

/-- Refuses an order that cannot be paid for. -/
def checkFunds (b : Balances) (o : Order) : Outcome TradingError Unit := do
  let (account, amount) ← required o
  let available := b.get account
  if available < amount then
    throw (.error (.insufficientFunds account.connector account.asset amount available))

/-- Adds to an account. -/
def adjust (b : Balances) (account : Account) (delta : Decimal) : Except Fault Balances := do
  let amount ← (b.get account).add delta
  return b.set account amount

/-- What a fill adds to the base account and to the quote account. -/
def deltas (side : Side) (amount notional : Decimal) : Decimal × Decimal :=
  match side with
  | .buy => (amount, -notional)
  | .sell => (-amount, notional)

/-- The balances after a fill, or after the part of it that came before a fault. -/
def applyFill (b : Balances) (connector tradingPair : String) (side : Side) (amount price : Decimal) :
    Except Fault Unit × Balances :=
  let (base, quote) := splitPair tradingPair
  match amount.mul price with
  | .error fault => (.error fault, b)
  | .ok notional =>
    let (baseDelta, quoteDelta) := deltas side amount notional
    match b.adjust ⟨connector, base⟩ baseDelta with
    | .error fault => (.error fault, b)
    | .ok b =>
      match b.adjust ⟨connector, quote⟩ quoteDelta with
      -- the base account has been changed already
      | .error fault => (.error fault, b)
      | .ok b => (.ok (), b)

end Balances

end TwoVenue
