import TwoVenue.Time.Instant
import TwoVenue.Trade.Balances

/-!
# Simulated execution

An executor keeps balances, accepts batches of orders, and fills every accepted order at its limit price.

- `Executor.submit`: all orders of a batch are accepted, or none.
- `Executor.fill`: an accepted order leaves the active ones and is booked. Orders may be filled one by one, in any order.
- `Executor.listing`: the active orders by the time of their submission.
-/

namespace TwoVenue

/-- The name of the order with this number. -/
def orderId (number : Nat) : String := "dry-" ++ toString number

/-- An accepted order that is not filled yet. -/
structure ActiveOrder where
  /-- Orders are numbered from one on. -/
  number : Nat
  order : Order
  submittedAt : Instant

/-- The name of an active order. -/
def ActiveOrder.id (o : ActiveOrder) : String := orderId o.number

/-- The report of a filled order. -/
structure Completion where
  number : Nat
  connector : String
  tradingPair : String
  side : Side
  amount : Decimal
  price : Decimal
deriving DecidableEq

/-- The name of the filled order. -/
def Completion.id (c : Completion) : String := orderId c.number

/-- The report of an order that was filled as it was submitted. -/
def Completion.ofOrder (number : Nat) (o : Order) : Completion :=
  ⟨number, o.connector, o.tradingPair, o.side, o.amount, o.price⟩

/-- Balances, accepted orders, and the number of the next order. -/
structure Executor where
  balances : Balances
  /-- Accepted orders that are not filled yet, the oldest first. -/
  active : List ActiveOrder
  nextNumber : Nat

namespace Executor

/-- Without balances and orders. -/
def empty : Executor := ⟨.empty, [], 1⟩

/-- Gives the two assets of a venue their amounts. -/
def fund (x : Executor) (venue : Venue) (base quote : Decimal) : Executor :=
  { x with balances := x.balances.fund venue base quote }

/-- Refuses an order that breaks a rule or cannot be paid for. -/
def accepts (x : Executor) (o : Order) : Outcome TradingError Unit := do
  match o.check with
  | .error flaw => throw (.error (.invalidParams flaw))
  | .ok () => x.balances.checkFunds o

/-- Checks the orders of a batch one after the other. -/
def acceptsAll (x : Executor) : List Order → Outcome TradingError Unit
  | [] => .ok ()
  | o :: rest => do
    x.accepts o
    acceptsAll x rest

/-- The orders with their numbers from `number` on; `clock` tells when the order of a number is accepted. -/
def enter (clock : Nat → Instant) (number : Nat) : List Order → List ActiveOrder
  | [] => []
  | o :: rest => ⟨number, o, clock number⟩ :: enter clock (number + 1) rest

/-- Accepts a batch: the new active orders, and the executor that has them. -/
def submit (x : Executor) (clock : Nat → Instant) (orders : List Order) :
    Outcome TradingError (List ActiveOrder × Executor) := do
  x.acceptsAll orders
  let entered := enter clock x.nextNumber orders
  return (entered, { x with active := x.active ++ entered, nextNumber := x.nextNumber + orders.length })

/-- Fills the active order of a number, if there is one. An order whose booking fails is lost. -/
def fill (x : Executor) (number : Nat) : Option (Except Fault Completion) × Executor :=
  match x.active.find? (·.number == number) with
  | none => (none, x)
  | some a =>
    let o := a.order
    -- the order is no longer active, whatever becomes of its booking
    let active := x.active.filter (·.number != number)
    match x.balances.applyFill o.connector o.tradingPair o.side o.amount o.price with
    | (.ok (), balances) => (some (.ok (.ofOrder number o)), { x with active, balances })
    | (.error fault, balances) => (some (.error fault), { x with active, balances })

/-- Whether `a` is listed no later than `b`: by time, and at the same time by name. -/
def listedBefore (a b : ActiveOrder) : Bool :=
  decide (a.submittedAt < b.submittedAt) || (decide (a.submittedAt = b.submittedAt) && !decide (b.id < a.id))

/-- The active orders by the time of their submission. -/
def listing (x : Executor) : List ActiveOrder := x.active.mergeSort listedBefore

end Executor

end TwoVenue
