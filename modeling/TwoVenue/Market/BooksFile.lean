import TwoVenue.Json.Basic
import TwoVenue.Market.Source

/-!
# Files of books

A file is a JSON object: connectors, in each of them trading pairs, in each of them a book.

- Books and levels are objects, of which unknown members are ignored and known ones come at most once, or arrays with
  the fields in order. All fields of a book may be missing; a level has both.
- Decimals are texts or numbers.
- `Books.ofText?`: the books of a file's text.
-/

namespace TwoVenue

namespace Json

/-- The decimal that a text or a number stands for. -/
def toDecimal? : Json → Option Decimal
  | .number l => l.toDecimal?
  | .string (some s) => Decimal.ofText? s
  | _ => none

/-- All items of an array, each read by `read`. -/
def toListOf? {α : Type} (read : Json → Option α) : Json → Option (List α)
  | .array items => items.mapM read
  | _ => none

/-- An object as a table, each value read by `read`. Of members with one name the last one counts, but all are read. -/
def toTableOf? {α : Type} (read : Json → Option α) : Json → Option (Table α)
  | .object members =>
    -- a later member replaces the value of an earlier one, at the place of the earlier one
    members.foldlM (fun t (name, v) =>
      match name with
      | some name => (read v).map (t.insert name)
      | none => none) Table.empty
  | _ => none

/-- The member with this name, which may come once: `some none` if there is none, `none` if there are several. -/
def single? (members : List (Option String × Json)) (name : String) : Option (Option Json) :=
  match members.filter (·.1 == some name) with
  | [] => some none
  | [(_, v)] => some (some v)
  | _ => none

/-- Whether every name of an object is a text. -/
def hasPlainNames (members : List (Option String × Json)) : Bool := members.all (·.1.isSome)

end Json

namespace Level

/-- A level as an object or as an array of price and size. -/
def ofJson? : Json → Option Level
  | .array [price, size] => do return ⟨← price.toDecimal?, ← size.toDecimal?⟩
  | .object members => do
    if !Json.hasPlainNames members then none
    let price ← ← Json.single? members "price"
    let size ← ← Json.single? members "size"
    return ⟨← price.toDecimal?, ← size.toDecimal?⟩
  | _ => none

end Level

namespace Book

/-- A book from the fields that are there. -/
def ofFields? (bids asks feeRate : Option Json) : Option Book := do
  let read {α : Type} (f : Json → Option α) (default : α) (v : Option Json) : Option α :=
    match v with
    | some v => f v
    | none => some default
  return ⟨← read (Json.toListOf? Level.ofJson?) [] bids, ← read (Json.toListOf? Level.ofJson?) [] asks,
    ← read Json.toDecimal? 0 feeRate⟩

/-- A book as an object or as an array of bids, asks and fee rate. -/
def ofJson? : Json → Option Book
  | .array items =>
    if items.length ≤ 3 then ofFields? items[0]? items[1]? items[2]? else none
  | .object members => do
    if !Json.hasPlainNames members then none
    ofFields? (← Json.single? members "bids") (← Json.single? members "asks") (← Json.single? members "fee_rate")
  | _ => none

end Book

namespace Books

/-- The books of a JSON value. -/
def ofJson? : Json → Option Books := Json.toTableOf? (Json.toTableOf? Book.ofJson?)

/-- The books of a file's text. -/
def ofText? (text : String) : Option Books := (Json.ofText? text).bind ofJson?

end Books

end TwoVenue
