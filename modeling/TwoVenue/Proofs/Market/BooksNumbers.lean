import TwoVenue.Proofs.Json.Numbers
import TwoVenue.Proofs.Market.BooksText

/-!
# The numbers of a file of books

Every decimal of a set of books has a place in the file, and is what is read there. So a number of the file is loaded
exactly if it is read exactly, wherever it stands.

- `Books.Position`: a fee rate, a price or a size, in a book of a venue. `Books.decimal?`: the decimal in this place.
- `Json.at?`: the value in this place of a file. An object may hold its fields under their names or an array in order,
  and of members with one name the last one counts.
- `Books.decimal?_of_at?`: **every value in its place is read, and is the decimal in that place**.
- `Books.load_exact`: **numbers of few digits are loaded exactly**. Others are not: they pass through a binary number,
  which does not have room for them.
-/

namespace TwoVenue

open Json

/-! ## Places -/

/-- A decimal of a book. -/
inductive Book.Entry where
  | feeRate
  | price (side : Side) (index : Nat)
  | size (side : Side) (index : Nat)

/-- A decimal of a set of books. -/
structure Books.Position where
  venue : Venue
  entry : Book.Entry

/-- The decimal in a place of a book. -/
def Book.decimal? (b : Book) : Book.Entry → Option Decimal
  | .feeRate => some b.feeRate
  | .price side index => (BookSource.levels b side)[index]?.map (·.price)
  | .size side index => (BookSource.levels b side)[index]?.map (·.size)

/-- The decimal in a place of a set of books. -/
def Books.decimal? (books : Books) (p : Books.Position) : Option Decimal :=
  (books.find? p.venue).bind fun b => b.decimal? p.entry

namespace Json

/-- The last member with a name. -/
def member? (name : String) : Json → Option Json
  | .object members => (members.reverse.find? (·.1 == some name)).map (·.2)
  | _ => none

/-- The item of an array. -/
def item? (index : Nat) : Json → Option Json
  | .array items => items[index]?
  | _ => none

/-- A field by its name in an object, or by its place in an array. -/
def field? (name : String) (place : Nat) (v : Json) : Option Json := (v.item? place).or (v.member? name)

/-- The levels that an order takes. -/
def levels? (v : Json) : Side → Option Json
  | .buy => v.field? "asks" 1
  | .sell => v.field? "bids" 0

/-- The value in a place of a book. -/
def entry? (v : Json) : Book.Entry → Option Json
  | .feeRate => v.field? "fee_rate" 2
  | .price side index => ((v.levels? side).bind (item? index)).bind (field? "price" 0)
  | .size side index => ((v.levels? side).bind (item? index)).bind (field? "size" 1)

/-- The value in a place of a set of books. -/
def at? (v : Json) (p : Books.Position) : Option Json :=
  ((v.member? p.venue.connector).bind (member? p.venue.tradingPair)).bind fun book => book.entry? p.entry

end Json

/-! ## Tables -/

section Tables

variable {α : Type} {read : Json → Option α} {name : String} {a : α} {v w : Json}

theorem member?_concat (members : List (Option String × Json)) (other : Option String) (u : Json) :
    member? name (.object (members ++ [(other, u)])) =
      if other = some name then some u else member? name (.object members) := by
  rw [member?, member?, List.reverse_append, List.reverse_singleton, List.singleton_append, List.find?_cons]
  by_cases h : other = some name
  · rw [if_pos h, beq_iff_eq.2 h]
    rfl
  · rw [if_neg h, beq_eq_false_iff_ne.2 h]

/-- **The value of a name is read from the last member with this name.** -/
theorem get?_of_member? {t : Table α} (h : toTableOf? read v = some t) (hmember : v.member? name = some w) :
    ∃ a, read w = some a ∧ t.get? name = some a := by
  cases v with
  | object members =>
    rw [Table.toTableOf?_object] at h
    -- by induction on the members, the last one first, since it replaces the ones before
    induction members using List.reverseRecOn generalizing t with
    | nil => cases hmember
    | append_singleton members member ih =>
      obtain ⟨other, u⟩ := member
      rw [List.foldlM_append] at h
      obtain ⟨before, hbefore, hlast⟩ := Option.bind_eq_some_iff.1 h
      have hadd : Table.addMember read before (other, u) = some t := by
        simpa only [List.foldlM_cons, List.foldlM_nil, bind_pure] using hlast
      rw [member?_concat] at hmember
      cases other with
      | none => cases hadd
      | some other =>
        obtain ⟨a, hread, rfl⟩ := Option.map_eq_some_iff.1 hadd
        by_cases heq : some other = some name
        · rw [if_pos heq] at hmember
          obtain rfl := Option.some.inj hmember
          exact ⟨a, hread, by rw [Table.get?_insert, if_pos (Option.some.inj heq)]⟩
        · rw [if_neg heq] at hmember
          obtain ⟨b, hb, hget⟩ := ih hbefore hmember
          refine ⟨b, hb, ?_⟩
          rw [Table.get?_insert, if_neg fun hname => heq (congrArg some hname), hget]
  | null | bool | number | string | array => cases hmember

end Tables

/-! ## Books -/

section Fields

variable {name : String} {place : Nat} {field : Option Json} {v w : Json} {items : List Json}
  {members : List (Option String × Json)}

/-- A field that comes at most once is its last one. -/
theorem member?_of_single? (h : single? members name = some field) : member? name (.object members) = field := by
  unfold single? at h
  rw [member?, ← List.head?_filter, List.filter_reverse, List.head?_reverse]
  split at h
  · next hnone =>
    cases h
    rw [hnone]
    rfl
  · next other u hsome =>
    cases h
    rw [hsome]
    rfl
  · cases h

theorem field?_object (h : single? members name = some field) : field? name place (.object members) = field :=
  member?_of_single? h

theorem field?_array : field? name place (.array items) = items[place]? := Option.or_none

/-- A level is read from the two fields of its value. -/
theorem Level.ofJson?_fields {l : Level} (h : Level.ofJson? v = some l) :
    (∃ w, v.field? "price" 0 = some w ∧ w.toDecimal? = some l.price) ∧
      ∃ w, v.field? "size" 1 = some w ∧ w.toDecimal? = some l.size := by
  unfold ofJson? at h
  split at h
  · next price size =>
    simp only [Option.bind_eq_bind, Option.bind_eq_some_iff] at h
    obtain ⟨p, hp, s, hs, hl⟩ := h
    cases hl
    exact ⟨⟨price, field?_array, hp⟩, size, field?_array, hs⟩
  · next members =>
    split at h
    · cases h
    · simp only [Option.bind_eq_bind, Option.bind_eq_some_iff] at h
      obtain ⟨price, hprice, w, hw, size, hsize, u, hu, p, hp, s, hs, hl⟩ := h
      subst hw hu
      cases hl
      exact ⟨⟨w, field?_object hprice, hp⟩, u, field?_object hsize, hs⟩
  · cases h

/-- A book is read from the three fields of its value. -/
theorem Book.ofFields?_of_ofJson? {b : Book} (h : Book.ofJson? v = some b) :
    ofFields? (v.field? "bids" 0) (v.field? "asks" 1) (v.field? "fee_rate" 2) = some b := by
  unfold ofJson? at h
  split at h
  · rw [field?_array, field?_array, field?_array]
    exact (Option.ite_none_right_eq_some.1 h).2
  · split at h
    · cases h
    · simp only [Option.bind_eq_bind, Option.bind_eq_some_iff] at h
      obtain ⟨bids, hbids, asks, hasks, fee, hfee, hfields⟩ := h
      rwa [field?_object hbids, field?_object hasks, field?_object hfee]
  · cases h

theorem Book.ofFields?_inv {b : Book} {bids asks fee : Option Json} (h : ofFields? bids asks fee = some b) :
    readField (toListOf? Level.ofJson?) [] bids = some b.bids ∧ readField (toListOf? Level.ofJson?) [] asks = some b.asks ∧
      readField Json.toDecimal? 0 fee = some b.feeRate := by
  simp only [ofFields?_eq, Option.bind_eq_some_iff] at h
  obtain ⟨bids, hbids, asks, hasks, fee, hfee, hb⟩ := h
  cases hb
  exact ⟨hbids, hasks, hfee⟩

/-- The items of an array are read in their places. -/
theorem getElem?_of_toListOf? {α : Type} {read : Json → Option α} {as : List α} {index : Nat}
    (h : toListOf? read v = some as) (hitem : v.item? index = some w) : ∃ a, read w = some a ∧ as[index]? = some a := by
  cases v with
  | array items =>
    have hitems : items.mapM read = some as := h
    have hw : items[index]? = some w := hitem
    clear h hitem
    induction items generalizing as index with
    | nil => cases hw
    | cons item items ih =>
      rw [List.mapM_cons] at hitems
      simp only [Option.bind_eq_bind, Option.bind_eq_some_iff] at hitems
      obtain ⟨a, ha, as, has, heq⟩ := hitems
      cases heq
      cases index with
      | zero =>
        cases hw
        exact ⟨a, ha, rfl⟩
      | succ index =>
        rw [List.getElem?_cons_succ] at hw ⊢
        exact ih has hw
  | null | bool | number | string | object => cases hitem

/-- The levels of a side are read in their places. -/
theorem Book.level_of_levels? {b : Book} {side : Side} {index : Nat} (h : Book.ofJson? v = some b)
    (hlevel : ((v.levels? side).bind (item? index)) = some w) :
    ∃ l, Level.ofJson? w = some l ∧ (BookSource.levels b side)[index]? = some l := by
  obtain ⟨hbids, hasks, -⟩ := Book.ofFields?_inv (Book.ofFields?_of_ofJson? h)
  obtain ⟨levels, hlevels, hitem⟩ := Option.bind_eq_some_iff.1 hlevel
  cases side with
  | buy =>
    have hfield : v.field? "asks" 1 = some levels := hlevels
    rw [hfield] at hasks
    exact getElem?_of_toListOf? hasks hitem
  | sell =>
    have hfield : v.field? "bids" 0 = some levels := hlevels
    rw [hfield] at hbids
    exact getElem?_of_toListOf? hbids hitem

/-- **Every value in a place of a book is read, and is the decimal in that place.** -/
theorem Book.decimal?_of_entry? {b : Book} {entry : Book.Entry} (h : Book.ofJson? v = some b)
    (hentry : v.entry? entry = some w) : ∃ d, w.toDecimal? = some d ∧ b.decimal? entry = some d := by
  cases entry with
  | feeRate =>
    obtain ⟨-, -, hfee⟩ := Book.ofFields?_inv (Book.ofFields?_of_ofJson? h)
    have hfield : v.field? "fee_rate" 2 = some w := hentry
    rw [hfield] at hfee
    exact ⟨_, hfee, rfl⟩
  | price side index =>
    obtain ⟨level, hlevel, hprice⟩ := Option.bind_eq_some_iff.1 hentry
    obtain ⟨l, hl, hplace⟩ := Book.level_of_levels? h hlevel
    obtain ⟨⟨u, hu, hread⟩, -⟩ := Level.ofJson?_fields hl
    rw [hprice] at hu
    cases hu
    exact ⟨_, hread, by rw [Book.decimal?, hplace]; rfl⟩
  | size side index =>
    obtain ⟨level, hlevel, hsize⟩ := Option.bind_eq_some_iff.1 hentry
    obtain ⟨l, hl, hplace⟩ := Book.level_of_levels? h hlevel
    obtain ⟨-, u, hu, hread⟩ := Level.ofJson?_fields hl
    rw [hsize] at hu
    cases hu
    exact ⟨_, hread, by rw [Book.decimal?, hplace]; rfl⟩

end Fields

/-! ## Files -/

namespace Books

variable {books : Books} {v w : Json} {p : Books.Position} {l : Literal} {file : FileContents} {text : String}

/-- **Every value in its place is read, and is the decimal in that place.** -/
theorem decimal?_of_at? (h : Books.ofJson? v = some books) (hat : v.at? p = some w) :
    ∃ d, w.toDecimal? = some d ∧ books.decimal? p = some d := by
  obtain ⟨book, hbook, hentry⟩ := Option.bind_eq_some_iff.1 hat
  obtain ⟨pairs, hpairs, hpair⟩ := Option.bind_eq_some_iff.1 hbook
  obtain ⟨table, htable, hconnector⟩ := get?_of_member? h hpairs
  obtain ⟨b, hb, hget⟩ := get?_of_member? htable hpair
  obtain ⟨d, hread, hplace⟩ := Book.decimal?_of_entry? hb hentry
  refine ⟨d, hread, ?_⟩
  have hfind : books.find? p.venue = some b := Option.bind_eq_some_iff.2 ⟨table, hconnector, hget⟩
  rw [Books.decimal?, hfind]
  exact hplace

/-- What is loaded is what the text of a file spells. -/
theorem ofJson?_of_load (h : Books.load file = .ok books) (htext : file.text = .ok text) (hjson : Json.ofText? text = some v) :
    Books.ofJson? v = some books := by
  unfold Books.load at h
  rw [htext] at h
  dsimp only at h
  split at h
  · next found hfound =>
    cases h
    rwa [ofText?, hjson] at hfound
  · cases h

/-- **Numbers of few digits are loaded exactly**, and so are integers of 64 bits: whatever file is loaded, and wherever in
it a price, a size or a fee rate is written as a number of at most fifteen digits and a small power of ten, the decimal
in this place has the value that is written, if any decimal has it. -/
theorem load_exact (hload : Books.load file = .ok books) (htext : file.text = .ok text)
    (hjson : Json.ofText? text = some v) (hat : v.at? p = some (.number l)) (hdigits : l.Short ∨ l.Word)
    (hvalue : Decimal.Representable l.value) : ∃ d, books.decimal? p = some d ∧ d.toRat = l.value := by
  obtain ⟨d, hread, hplace⟩ := decimal?_of_at? (ofJson?_of_load hload htext hjson) hat
  obtain ⟨d', hread', hexact⟩ := l.toDecimal?_exact hdigits hvalue
  have hsame : some d = some d' := hread.symm.trans hread'
  cases hsame
  exact ⟨d, hplace, hexact⟩

/-- A price with an exponent in an array, and an object with a size before the price. -/
def shortNumbers : String :=
  "\x7b\"k\": \x7b\"p\": \x7b\"asks\": [[1.25e-3, 12]], \"bids\": [\x7b\"size\": 3, \"price\": 0.00124\x7d]\x7d\x7d\x7d"

/-- The books of that file. -/
def shortNumbersBooks : Books := ⟨[("k", ⟨[("p", ⟨[⟨0.00124, 3⟩], [⟨0.00125, 12⟩], 0⟩)]⟩)]⟩

/-- Its value. -/
def shortNumbersJson : Json :=
  .object [(some "k", .object [(some "p", .object
    [(some "asks", .array [.array [.number ⟨false, [1], some [2, 5], some (true, [3])⟩, .number ⟨false, [1, 2], none, none⟩]]),
      (some "bids", .array [.object [(some "size", .number ⟨false, [3], none, none⟩),
        (some "price", .number ⟨false, [0], some [0, 0, 1, 2, 4], none⟩)]])])])]

/-- The price of the ask is `0.00125`, and the size of the bid is `3`. -/
theorem load_exact_shortNumbers :
    Books.load (.ok shortNumbers.toUTF8) = .ok shortNumbersBooks ∧
      (∃ d, shortNumbersBooks.decimal? ⟨⟨"k", "p"⟩, .price .buy 0⟩ = some d ∧ d.toRat = 1 / 800) ∧
        ∃ d, shortNumbersBooks.decimal? ⟨⟨"k", "p"⟩, .size .sell 0⟩ = some d ∧ d.toRat = 3 := by
  have htext : FileContents.text (.ok shortNumbers.toUTF8) = .ok shortNumbers := FileContents.text_toUTF8 _
  have hjson : Json.ofText? shortNumbers = some shortNumbersJson := ofText?_of_scan (by decide +kernel)
  have hload : Books.load (.ok shortNumbers.toUTF8) = .ok shortNumbersBooks := by
    refine load_toUTF8 ?_
    rw [ofText?, hjson]
    decide +kernel
  have hprice : Literal.value ⟨false, [1], some [2, 5], some (true, [3])⟩ = 1 / 800 := by decide +kernel
  have hsize : Literal.value ⟨false, [3], none, none⟩ = 3 := by decide +kernel
  refine ⟨hload, ?_, ?_⟩
  · rw [← hprice]
    refine load_exact hload htext hjson (by rfl) (Or.inl ⟨by decide, by decide, by decide, by decide⟩) ⟨0.00125, ?_⟩
    rw [hprice]
    decide +kernel
  · rw [← hsize]
    refine load_exact hload htext hjson (by rfl) (Or.inr ⟨rfl, rfl, by decide⟩) ⟨3, ?_⟩
    rw [hsize]
    decide +kernel

/-- A price of nineteen digits. -/
def longNumber : String := "\x7b\"k\": \x7b\"p\": \x7b\"asks\": [[0.1234567890123456789, 1]]\x7d\x7d\x7d"

/-- That number. -/
def nineteenDigits : Literal := ⟨false, [0], some [1, 2, 3, 4, 5, 6, 7, 8, 9, 0, 1, 2, 3, 4, 5, 6, 7, 8, 9], none⟩

/-- **A number of nineteen digits is changed**, although there is a decimal for it: the last two of them are lost. -/
theorem longNumber_changed :
    ¬ ∀ (file : FileContents) (text : String) (v : Json) (books : Books) (p : Books.Position) (l : Literal),
      Books.load file = .ok books → file.text = .ok text → Json.ofText? text = some v → v.at? p = some (.number l) →
        Decimal.Representable l.value → ∃ d, books.decimal? p = some d ∧ d.toRat = l.value := by
  intro h
  have hjson : Json.ofText? longNumber = some (.object [(some "k", .object [(some "p", .object
      [(some "asks", .array [.array [.number nineteenDigits, .number ⟨false, [1], none, none⟩]])])])]) :=
    ofText?_of_scan (by decide +kernel)
  have hload : Books.load (.ok longNumber.toUTF8) = .ok ⟨[("k", ⟨[("p", ⟨[], [⟨0.12345678901234568, 1⟩], 0⟩)]⟩)]⟩ := by
    refine load_toUTF8 ?_
    rw [ofText?, hjson]
    decide +kernel
  have hvalue : (0.1234567890123456789 : Decimal).toRat = nineteenDigits.value := by decide +kernel
  obtain ⟨d, hplace, hexact⟩ := h _ _ _ _ ⟨⟨"k", "p"⟩, .price .buy 0⟩ nineteenDigits hload (FileContents.text_toUTF8 _)
    hjson rfl ⟨_, hvalue⟩
  cases hplace
  rw [← hvalue] at hexact
  exact absurd hexact (by decide +kernel)

end Books

end TwoVenue
