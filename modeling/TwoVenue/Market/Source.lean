import TwoVenue.Market.Quote
import TwoVenue.Market.Walk
import TwoVenue.Table

/-!
# Where quotes come from

- `BookSource`: a venue whose quotes come from the latest snapshot of its book.
- `ScriptedSource`: a venue whose prices are given functions of the amount, for simulations.
- `Source`: one of the two.
- `Quoter`: what a search needs of a source: its venue and its quotes for its own pair.
-/

namespace TwoVenue

/-- Snapshots of books by connector and trading pair. -/
abbrev Books := Table (Table Book)

/-- The book of a venue. -/
def Books.find? (books : Books) (venue : Venue) : Option Book :=
  (books.get? venue.connector).bind fun pairs => pairs.get? venue.tradingPair

/-! ## Books -/

/-- A venue with the latest snapshot of its book, if there is one. -/
structure BookSource where
  venue : Venue
  book : Option Book

namespace BookSource

/-- The source with a new snapshot. -/
def update (s : BookSource) (book : Book) : BookSource := { s with book := some book.normalized }

/-- The source without a snapshot. -/
def clear (s : BookSource) : BookSource := { s with book := none }

/-- The source with its own book of a set of books, and without any if the set has none. -/
def refresh (s : BookSource) (books : Books) : BookSource :=
  match books.find? s.venue with
  | some book => s.update book
  | none => s.clear

/-- The snapshot, for the venue's own pair. -/
def read (s : BookSource) (pair : String) : Except QuoteError Book :=
  if pair ≠ s.venue.tradingPair then
    .error (.unavailable s.venue.connector (.otherPair pair))
  else
    match s.book with
    | some book => .ok book
    | none => .error (.unavailable s.venue.connector .noSnapshot)

/-- The levels that an order takes: a buyer takes asks, a seller takes bids. -/
def levels (book : Book) : Side → List Level
  | .buy => book.asks
  | .sell => book.bids

/-- The average price of an amount on one side of the book. -/
def quote (s : BookSource) (pair : String) (side : Side) (amount : Decimal) : Outcome QuoteError Quote := do
  let book ← Outcome.ofCheck (s.read pair)
  if amount ≤ 0 then
    throw (.error (.invalidQuote s.venue.connector (.nonPositiveAmount amount)))
  match ← walk (levels book side) amount with
  | .filled price => return ⟨price, book.feeRate⟩
  | .short available => throw (.error (.insufficientLiquidity s.venue.connector amount available))

/-- The first level of either side. -/
def topOfBook (s : BookSource) (pair : String) : Outcome QuoteError TopOfBook := do
  let book ← Outcome.ofCheck (s.read pair)
  return ⟨book.bestBid, book.bestAsk⟩

end BookSource

/-! ## Scripted prices -/

/-- The price of an amount, if there is one. -/
abbrev PriceCurve := Decimal → Except Fault (Option Decimal)

/-- A venue with given prices. -/
structure ScriptedSource where
  venue : Venue
  /-- What a buyer pays. -/
  buyCurve : PriceCurve
  /-- What a seller receives. -/
  sellCurve : PriceCurve
  buyFee : Decimal
  sellFee : Decimal
  /-- Whether the venue refuses to answer. -/
  unavailable : Bool

namespace ScriptedSource

/-- What is said when the venue refuses to answer. -/
def unavailableError (s : ScriptedSource) : QuoteError :=
  .unavailable s.venue.connector .refused

/-- The prices of a side. -/
def curve (s : ScriptedSource) : Side → PriceCurve
  | .buy => s.buyCurve
  | .sell => s.sellCurve

/-- The fee rate of a side. -/
def fee (s : ScriptedSource) : Side → Decimal
  | .buy => s.buyFee
  | .sell => s.sellFee

/-- The price that the curve of a side gives. -/
def quote (s : ScriptedSource) (side : Side) (amount : Decimal) : Outcome QuoteError Quote := do
  if s.unavailable then throw (.error s.unavailableError)
  match ← s.curve side amount with
  | some price => return ⟨price, s.fee side⟩
  | none => throw (.error (.insufficientLiquidity s.venue.connector amount 0))

/-- The amount for which the best prices are asked. -/
def smallestAmount : Decimal := 0.00000001

/-- The prices of a very small amount. -/
def topOfBook (s : ScriptedSource) : Outcome QuoteError TopOfBook := do
  if s.unavailable then throw (.error s.unavailableError)
  let bid ← s.sellCurve smallestAmount
  let ask ← s.buyCurve smallestAmount
  return ⟨bid, ask⟩

end ScriptedSource

/-! ## Any source -/

/-- A venue that gives quotes. -/
inductive Source where
  | book (source : BookSource)
  | scripted (source : ScriptedSource)

/-- What a search needs of a venue. -/
structure Quoter where
  venue : Venue
  /-- The quote for an amount of the venue's own pair. -/
  quote : Side → Decimal → Outcome QuoteError Quote
  /-- Whether quotes are noted in the journal. -/
  announces : Bool

namespace Source

/-- The venue of a source. -/
def venue : Source → Venue
  | .book s => s.venue
  | .scripted s => s.venue

/-- A quote for a pair. Scripted sources take every pair. -/
def quote (s : Source) (pair : String) (side : Side) (amount : Decimal) : Outcome QuoteError Quote :=
  match s with
  | .book s => s.quote pair side amount
  | .scripted s => s.quote side amount

/-- The best prices for a pair. -/
def topOfBook (s : Source) (pair : String) : Outcome QuoteError TopOfBook :=
  match s with
  | .book s => s.topOfBook pair
  | .scripted s => s.topOfBook

/-- Whether quotes are noted in the journal. -/
def announces : Source → Bool
  | .book _ => true
  | .scripted _ => false

/-- The source as a search sees it. -/
def quoter (s : Source) : Quoter := ⟨s.venue, s.quote s.venue.tradingPair, s.announces⟩

/-- Whether a set of books has one for the source; scripted sources take none. -/
def found? (s : Source) (books : Books) : Option Bool :=
  match s with
  | .book s => some (books.find? s.venue).isSome
  | .scripted _ => none

/-- The source after a new set of books. Scripted sources stay as they are. -/
def refresh (s : Source) (books : Books) : Source :=
  match s with
  | .book s => .book (s.refresh books)
  | .scripted s => .scripted s

end Source

end TwoVenue
