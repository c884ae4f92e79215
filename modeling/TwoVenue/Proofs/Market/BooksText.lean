import TwoVenue.Engine.BooksLoad
import TwoVenue.Proofs.Decimal.RoundTrip
import TwoVenue.Proofs.Json.Document
import TwoVenue.Report.Status

/-!
# Books survive their file

A file of books is written by hand or by other programs: the fields of an object in any order, some of them missing,
others unknown, and white space anywhere. None of that changes what is read.

- `Level.Renders`, `Book.Renders`, `Books.Renders`: the JSON values of levels, books and sets of books.
- `Books.Regular`: no name comes twice, and no decimal is a zero with a minus sign.
- `single?_of_perm`: **a field is found wherever it stands**.
- `ofJson?_renders`: each value is read as what it renders: a level, a book, a table and a whole set of books.
- `Books.load_renders`: **every file of a set of books is loaded as this set**, digit for digit.
-/

namespace TwoVenue

open Json

/-! ## What is written -/

/-- Members whose names are texts and none of the known ones. -/
def Unknown (known : List String) (members : List (Option String × Json)) : Prop :=
  ∀ member ∈ members, ∃ name, member.1 = some name ∧ name ∉ known

/-- The values that render a level. -/
inductive Level.Renders (l : Level) : Json → Prop
  | object {members extras : List (Option String × Json)} (hextras : Unknown ["price", "size"] extras)
      (h : members.Perm ((some "price", l.price.toJson) :: (some "size", l.size.toJson) :: extras)) :
      Renders l (.object members)

/-- The values that render some levels, in their order. -/
inductive RendersLevels (levels : List Level) : Json → Prop
  | array {items : List Json} (h : List.Forall₂ Level.Renders levels items) : RendersLevels levels (.array items)

/-- The members that render a field, which may be left out if it has its default. -/
inductive RendersField (name : String) (isDefault : Prop) (value : Json → Prop) : List (Option String × Json) → Prop
  | written {v : Json} (h : value v) : RendersField name isDefault value [(some name, v)]
  | omitted (h : isDefault) : RendersField name isDefault value []

/-- The values that render a book. -/
inductive Book.Renders (b : Book) : Json → Prop
  | object {members bids asks fee extras : List (Option String × Json)}
      (hbids : RendersField "bids" (b.bids = []) (RendersLevels b.bids) bids)
      (hasks : RendersField "asks" (b.asks = []) (RendersLevels b.asks) asks)
      (hfee : RendersField "fee_rate" (b.feeRate = 0) (· = b.feeRate.toJson) fee)
      (hextras : Unknown ["bids", "asks", "fee_rate"] extras) (h : members.Perm (bids ++ (asks ++ (fee ++ extras)))) :
      Renders b (.object members)

/-- The values that render a table. The order of its names is any order, as it is part of the table. -/
inductive Table.Renders {α : Type} (value : α → Json → Prop) (t : Table α) : Json → Prop
  | object {members : List (Option String × Json)}
      (h : List.Forall₂ (fun entry member => member.1 = some entry.1 ∧ value entry.2 member.2) t.entries members) :
      Renders value t (.object members)

/-- The values that render a set of books. -/
def Books.Renders (books : Books) : Json → Prop := Table.Renders (Table.Renders Book.Renders) books

/-- Whether no decimal of a level is a zero with a minus sign. -/
def Level.Plain (l : Level) : Prop := ¬ l.price.NegativeZero ∧ ¬ l.size.NegativeZero

/-- Whether no decimal of a book is a zero with a minus sign. -/
structure Book.Plain (b : Book) : Prop where
  bids : ∀ l ∈ b.bids, l.Plain
  asks : ∀ l ∈ b.asks, l.Plain
  feeRate : ¬ b.feeRate.NegativeZero

/-- Whether no name comes twice, neither among the connectors nor among the pairs of one of them, and all books are
plain. -/
structure Books.Regular (books : Books) : Prop where
  connectors : books.names.Nodup
  pairs : ∀ entry ∈ books.entries, entry.2.names.Nodup
  plain : ∀ entry ∈ books.entries, ∀ pair ∈ entry.2.entries, pair.2.Plain

/-! ## Members in any order -/

section Members

variable {members fields extras : List (Option String × Json)} {known : List String} {name : String}

/-- The members with a name. -/
def named (name : String) (members : List (Option String × Json)) : List (Option String × Json) :=
  members.filter (·.1 == some name)

theorem named_append (name : String) (members extras : List (Option String × Json)) :
    named name (members ++ extras) = named name members ++ named name extras := List.filter_append ..

theorem Unknown.named (h : Unknown known extras) (hname : name ∈ known) : named name extras = [] := by
  refine List.filter_eq_nil_iff.2 fun member hmember => ?_
  obtain ⟨other, hother, hunknown⟩ := h member hmember
  rw [hother, beq_iff_eq]
  rintro heq
  exact hunknown (Option.some.inj heq ▸ hname)

/-- **A field is found wherever it stands**, and a missing one is missed. -/
theorem single?_of_perm {field : Option Json} (h : members.Perm fields)
    (hfield : named name fields = field.toList.map fun v => (some name, v)) : single? members name = some field := by
  have hnamed : (named name members).Perm (named name fields) := h.filter _
  rw [hfield] at hnamed
  unfold single?
  cases field with
  | none =>
    have hnone : members.filter (·.1 == some name) = [] := List.perm_nil.1 hnamed
    rw [hnone]
  | some v =>
    have hone : members.filter (·.1 == some name) = [(some name, v)] := List.perm_singleton.1 hnamed
    rw [hone]

theorem hasPlainNames_of_perm (h : members.Perm fields) (hfields : hasPlainNames fields = true) :
    hasPlainNames members = true := by
  unfold hasPlainNames at hfields ⊢
  rw [h.all_eq, hfields]

theorem hasPlainNames_append :
    hasPlainNames (members ++ extras) = (hasPlainNames members && hasPlainNames extras) := List.all_append

theorem Unknown.hasPlainNames (h : Unknown known extras) : hasPlainNames extras = true := by
  refine List.all_eq_true.2 fun member hmember => ?_
  obtain ⟨other, hother, -⟩ := h member hmember
  rw [hother]
  rfl

namespace RendersField

variable {isDefault : Prop} {value : Json → Prop}

/-- A field is there or not. -/
theorem exists_eq (h : RendersField name isDefault value members) :
    ∃ field : Option Json, members = (field.toList.map fun v => (some name, v)) ∧ (field = none → isDefault) ∧
      ∀ v, field = some v → value v := by
  cases h with
  | @written v h => exact ⟨some v, rfl, fun hnone => (nomatch hnone), fun w hw => Option.some.inj hw ▸ h⟩
  | omitted h => exact ⟨none, rfl, fun _ => h, fun w hw => (nomatch hw)⟩

end RendersField

/-- The members of a field have its name, and no other. -/
theorem named_field (name other : String) (field : Option Json) :
    named other (field.toList.map fun v => (some name, v))
      = if name = other then field.toList.map fun v => (some name, v) else [] := by
  unfold named
  by_cases h : name = other
  · rw [if_pos h, h]
    cases field with
    | none => rfl
    | some v => exact List.filter_eq_self.2 fun member hmember => by simp_all
  · rw [if_neg h]
    cases field with
    | none => rfl
    | some v => simp [h]

theorem hasPlainNames_field (name : String) (field : Option Json) :
    hasPlainNames (field.toList.map fun v => (some name, v)) = true := by
  cases field <;> rfl

end Members

/-! ## What is read -/

theorem Decimal.toDecimal?_toJson {d : Decimal} (h : ¬ d.NegativeZero) : d.toJson.toDecimal? = some d := ofText?_toText h

theorem Level.ofJson?_renders {l : Level} {v : Json} (hplain : l.Plain) (h : l.Renders v) : Level.ofJson? v = some l := by
  obtain ⟨hextras, hperm⟩ := h
  next members extras =>
  have hnames : hasPlainNames members = true := hasPlainNames_of_perm hperm hextras.hasPlainNames
  have hprice : single? members "price" = some (some l.price.toJson) := by
    refine single?_of_perm hperm ?_
    show (some "price", l.price.toJson) :: named "price" extras = _
    rw [hextras.named (by simp)]
    rfl
  have hsize : single? members "size" = some (some l.size.toJson) := by
    refine single?_of_perm hperm ?_
    show (some "size", l.size.toJson) :: named "size" extras = _
    rw [hextras.named (by simp)]
    rfl
  unfold ofJson?
  simp [hnames, hprice, hsize, Decimal.toDecimal?_toJson hplain.1, Decimal.toDecimal?_toJson hplain.2]

/-- The levels of an array, one after the other. -/
theorem toListOf?_renders {levels : List Level} {v : Json} (hplain : ∀ l ∈ levels, l.Plain) (h : RendersLevels levels v) :
    toListOf? Level.ofJson? v = some levels := by
  obtain ⟨h⟩ := h
  next items =>
  show items.mapM Level.ofJson? = some levels
  induction h with
  | nil => rfl
  | @cons l item levels items hitem _ ih =>
    rw [List.mapM_cons, Level.ofJson?_renders (hplain l List.mem_cons_self) hitem,
      ih fun l hl => hplain l (List.mem_cons_of_mem _ hl)]
    rfl

/-- What is read of a field that may be missing. -/
def readField {α : Type} (read : Json → Option α) (default : α) : Option Json → Option α
  | some v => read v
  | none => some default

theorem readField_renders {α : Type} {read : Json → Option α} {default a : α} {field : Option Json}
    (hnone : field = none → a = default) (hsome : ∀ v, field = some v → read v = some a) :
    readField read default field = some a := by
  cases field with
  | none => rw [hnone rfl]; rfl
  | some v => exact hsome v rfl

theorem Book.ofFields?_eq (bids asks fee : Option Json) :
    ofFields? bids asks fee =
      (readField (toListOf? Level.ofJson?) [] bids).bind fun bids =>
        (readField (toListOf? Level.ofJson?) [] asks).bind fun asks =>
          (readField Json.toDecimal? 0 fee).bind fun fee => some (Book.mk bids asks fee) := by
  unfold ofFields?
  cases bids <;> cases asks <;> cases fee <;> rfl

theorem Book.ofFields?_eq_some {b : Book} {bids asks fee : Option Json}
    (hbids : readField (toListOf? Level.ofJson?) [] bids = some b.bids)
    (hasks : readField (toListOf? Level.ofJson?) [] asks = some b.asks)
    (hfee : readField Json.toDecimal? 0 fee = some b.feeRate) : ofFields? bids asks fee = some b := by
  rw [ofFields?_eq, hbids, hasks, hfee]
  rfl

theorem Book.ofJson?_renders {b : Book} {v : Json} (hplain : b.Plain) (h : b.Renders v) : Book.ofJson? v = some b := by
  obtain ⟨hbids, hasks, hfee, hextras, hperm⟩ := h
  next members bids asks fee extras =>
  obtain ⟨bidsField, rfl, hnoBids, hbids⟩ := hbids.exists_eq
  obtain ⟨asksField, rfl, hnoAsks, hasks⟩ := hasks.exists_eq
  obtain ⟨feeField, rfl, hnoFee, hfee⟩ := hfee.exists_eq
  have hnames : hasPlainNames members = true := by
    refine hasPlainNames_of_perm hperm ?_
    simp only [hasPlainNames_append, hasPlainNames_field, hextras.hasPlainNames, Bool.and_self]
  have hfind : ∀ name field, named name (bidsField.toList.map (fun v => (some "bids", v)) ++
      (asksField.toList.map (fun v => (some "asks", v)) ++ (feeField.toList.map (fun v => (some "fee_rate", v)) ++ extras)))
      = field.toList.map (fun v => (some name, v)) → single? members name = some field :=
    fun name field => single?_of_perm hperm
  have hbidsField : single? members "bids" = some bidsField := by
    refine hfind _ _ ?_
    simp [named_append, named_field, hextras.named]
  have hasksField : single? members "asks" = some asksField := by
    refine hfind _ _ ?_
    simp [named_append, named_field, hextras.named]
  have hfeeField : single? members "fee_rate" = some feeField := by
    refine hfind _ _ ?_
    simp [named_append, named_field, hextras.named]
  have hfields : ofFields? bidsField asksField feeField = some b :=
    ofFields?_eq_some (readField_renders hnoBids fun v hv => toListOf?_renders hplain.bids (hbids v hv))
      (readField_renders hnoAsks fun v hv => toListOf?_renders hplain.asks (hasks v hv))
      (readField_renders hnoFee fun v hv => by rw [hfee v hv]; exact Decimal.toDecimal?_toJson hplain.feeRate)
  unfold ofJson?
  simp [hnames, hbidsField, hasksField, hfeeField, hfields]

/-! ## Tables -/

namespace Table

variable {α : Type}

/-- A new name comes last. -/
theorem put_of_new {name : String} {a : α} {entries : List (String × α)} (h : ∀ entry ∈ entries, entry.1 ≠ name) :
    put name a entries = entries ++ [(name, a)] := by
  induction entries with
  | nil => rfl
  | cons entry rest ih =>
    rw [put, if_neg (h entry List.mem_cons_self), ih fun entry hentry => h entry (List.mem_cons_of_mem _ hentry)]
    rfl

/-- One more member of a table that is read. -/
def addMember (read : Json → Option α) (t : Table α) (member : Option String × Json) : Option (Table α) :=
  match member.1 with
  | some name => (read member.2).map (t.insert name)
  | none => none

theorem toTableOf?_object (read : Json → Option α) (members : List (Option String × Json)) :
    toTableOf? read (.object members) = members.foldlM (addMember read) empty := rfl

/-- Members with new names are added one after the other, by induction on those that are left. -/
theorem addMembers_renders {read : Json → Option α} {value : α → Json → Prop} {entries : List (String × α)}
    {members : List (Option String × Json)}
    (h : List.Forall₂ (fun entry member => member.1 = some entry.1 ∧ value entry.2 member.2) entries members)
    (hread : ∀ entry ∈ entries, ∀ v, value entry.2 v → read v = some entry.2) :
    ∀ done : List (String × α), ((done ++ entries).map (·.1)).Nodup →
      members.foldlM (addMember read) ⟨done⟩ = some ⟨done ++ entries⟩ := by
  induction h with
  | nil =>
    intro done _
    rw [List.append_nil]
    rfl
  | @cons entry member entries members hmember _ ih =>
    intro done hnames
    obtain ⟨name, a⟩ := entry
    obtain ⟨other, v⟩ := member
    obtain ⟨rfl, hv⟩ := hmember
    -- otherwise the member would replace the one before, in its place
    have hnew : ∀ entry ∈ done, entry.1 ≠ name := by
      rw [List.map_append, List.nodup_append] at hnames
      exact fun entry hentry => hnames.2.2 _ (List.mem_map_of_mem hentry) _ List.mem_cons_self
    have hadd : addMember read ⟨done⟩ (some name, v) = some ⟨done ++ [(name, a)]⟩ := by
      show (read v).map _ = _
      rw [hread _ List.mem_cons_self v hv]
      show some (Table.mk (put name a done)) = _
      rw [put_of_new hnew]
    rw [List.append_cons] at hnames
    rw [List.append_cons done (name, a) entries, List.foldlM_cons, hadd]
    exact ih (fun entry hentry => hread entry (List.mem_cons_of_mem _ hentry)) _ hnames

/-- **A table is read as itself** if no name comes twice and each of its values is read as itself. -/
theorem toTableOf?_renders {read : Json → Option α} {value : α → Json → Prop} {t : Table α} {v : Json}
    (hread : ∀ entry ∈ t.entries, ∀ v, value entry.2 v → read v = some entry.2) (hnames : t.names.Nodup)
    (h : Renders value t v) : toTableOf? read v = some t := by
  obtain ⟨h⟩ := h
  next members =>
  rw [toTableOf?_object]
  exact addMembers_renders h hread [] hnames

end Table

namespace Books

/-- **A set of books is read as itself**, by the same lemma for both of its levels. -/
theorem ofJson?_renders {books : Books} {v : Json} (hbooks : books.Regular) (h : books.Renders v) :
    Books.ofJson? v = some books := by
  refine Table.toTableOf?_renders (fun entry hentry v hv => ?_) hbooks.connectors h
  refine Table.toTableOf?_renders (fun pair hpair v hv => ?_) (hbooks.pairs entry hentry) hv
  exact Book.ofJson?_renders (hbooks.plain entry hentry pair hpair) hv

/-- **Books survive their file.** Whatever the names of a set of books are, and in whatever order, spelling and layout
its fields are written, with fields of default values left out and unknown ones added: the file is loaded as this set,
with the digits of every decimal and the order of all levels. -/
theorem load_renders (books : Books) (hbooks : books.Regular) (v : Json) (hv : books.Renders v) (text : String)
    (htext : Json.Written v.tokens text.toList) : Books.load (.ok text.toUTF8) = .ok books := by
  refine load_toUTF8 ?_
  unfold ofText?
  rw [Json.ofText?_written htext]
  exact ofJson?_renders hbooks hv

/-- One ask, and a fee of two digits. -/
def oneAsk : Books := ⟨[("k", ⟨[("p", ⟨[], [⟨1, 2.50⟩], 0.10⟩)]⟩)]⟩

theorem oneAsk_regular : oneAsk.Regular := by
  have hzero : ∀ d ∈ [(1 : Decimal), 2.50, 0.10], ¬ d.NegativeZero := by decide
  refine ⟨by decide, ?_, ?_⟩
  · intro entry hentry
    rw [List.mem_singleton.1 hentry]
    decide
  · intro entry hentry pair hpair
    rw [List.mem_singleton.1 hentry] at hpair
    rw [List.mem_singleton.1 hpair]
    refine ⟨fun l hl => absurd hl List.not_mem_nil, fun l hl => ?_, hzero _ (by simp)⟩
    rw [List.mem_singleton.1 hl]
    exact ⟨hzero _ (by simp), hzero _ (by simp)⟩

/-- A file of `oneAsk` with an escape, a blank, an unknown field, fields in another order, and no bids. -/
def oneAskText : String :=
  "\x7b \"\\u006b\":\x7b\"p\":\x7b\"x\":[null],\"fee_rate\":\"0.10\",\"asks\":[\x7b\"size\":\"2.50\",\"price\":\"1\"\x7d]\x7d\x7d\x7d"

/-- That file is loaded as `oneAsk`, digit for digit. -/
theorem load_renders_oneAsk : ∃ v, oneAsk.Regular ∧ oneAsk.Renders v ∧ Json.Written v.tokens oneAskText.toList ∧
    Books.load (.ok oneAskText.toUTF8) = .ok oneAsk := by
  have hlevel : Level.Renders ⟨1, 2.50⟩ (.object [(some "size", .text "2.50"), (some "price", .text "1")]) :=
    .object (fun member hmember => absurd hmember List.not_mem_nil) (List.Perm.swap _ _ [])
  have hbook : Book.Renders ⟨[], [⟨1, 2.50⟩], 0.10⟩ (.object [(some "x", .array [.null]), (some "fee_rate", .text "0.10"),
      (some "asks", .array [.object [(some "size", .text "2.50"), (some "price", .text "1")]])]) := by
    refine .object (.omitted rfl) (.written (.array (.cons hlevel .nil))) (.written rfl) ?_
      (List.reverse_perm [(some "asks", _), (some "fee_rate", _), (some "x", _)])
    intro member hmember
    rw [List.mem_singleton.1 hmember]
    exact ⟨"x", rfl, by decide⟩
  have hpairs : Table.Renders Book.Renders ⟨[("p", ⟨[], [⟨1, 2.50⟩], 0.10⟩)]⟩ (.object [(some "p", _)]) :=
    .object (.cons ⟨rfl, hbook⟩ .nil)
  have hbooks : oneAsk.Renders (.object [(some "k", _)]) := .object (.cons ⟨rfl, hpairs⟩ .nil)
  have hescaped : Token.Spelled (.string (some "k")) ('"' :: (['\\', 'u', '0', '0', '6', 'b'] ++ ['"'])) :=
    .string [.unit '0' '0' '6' 'b' 0x6b rfl]
  have hwritten : Json.Written _ oneAskText.toList :=
    .next .openBrace <| .space rfl <| .next hescaped <| .next .colon <|
    .next .openBrace <| .next (.plain (s := "p") rfl) <| .next .colon <|
    .next .openBrace <| .next (.plain (s := "x") rfl) <| .next .colon <|
    .next .openBracket <| .next .wordNull <| .next .closeBracket <| .next .comma <|
    .next (.plain (s := "fee_rate") rfl) <| .next .colon <| .next (.plain (s := "0.10") rfl) <|
    .next .comma <| .next (.plain (s := "asks") rfl) <| .next .colon <|
    .next .openBracket <| .next .openBrace <|
    .next (.plain (s := "size") rfl) <| .next .colon <| .next (.plain (s := "2.50") rfl) <| .next .comma <|
    .next (.plain (s := "price") rfl) <| .next .colon <| .next (.plain (s := "1") rfl) <|
    .next .closeBrace <| .next .closeBracket <| .next .closeBrace <| .next .closeBrace <| .next .closeBrace <|
    .nil
  exact ⟨_, oneAsk_regular, hbooks, hwritten, load_renders oneAsk oneAsk_regular _ hbooks oneAskText hwritten⟩

end Books

end TwoVenue
