import TwoVenue.Decimal.Basic

/-!
# Order books

- `Level`: a size that is offered at a price.
- `Book`: bids and asks of a venue, and its fee rate.
- `Book.normalized`: only levels with a positive size, best price first; levels of equal price keep their order.
-/

namespace TwoVenue

/-- A size that is offered at a price. -/
structure Level where
  price : Decimal
  size : Decimal
deriving DecidableEq

/-- The two sides of a book and the fee rate of its venue. -/
structure Book where
  bids : List Level
  asks : List Level
  feeRate : Decimal
deriving DecidableEq

namespace Book

/-- A book without levels and without fee. -/
def empty : Book := ⟨[], [], 0⟩

/-- The levels with a positive size. -/
def offered (levels : List Level) : List Level := levels.filter fun l => decide (0 < l.size)

/-- Asks in the order in which a buyer takes them: the lowest price first. -/
def sortAsks (levels : List Level) : List Level := levels.mergeSort fun a b => decide (a.price ≤ b.price)

/-- Bids in the order in which a seller takes them: the highest price first. -/
def sortBids (levels : List Level) : List Level := levels.mergeSort fun a b => decide (b.price ≤ a.price)

/-- The book without empty levels and with the best prices first. -/
def normalized (b : Book) : Book :=
  { b with bids := sortBids (offered b.bids), asks := sortAsks (offered b.asks) }

/-- The first bid. -/
def bestBid (b : Book) : Option Decimal := b.bids.head?.map (·.price)

/-- The first ask. -/
def bestAsk (b : Book) : Option Decimal := b.asks.head?.map (·.price)

end Book

end TwoVenue
