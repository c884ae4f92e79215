import TwoVenue.Json.Basic
import TwoVenue.Proofs.Json.Spelling

/-!
# JSON values survive their text

A value has one list of tokens, but many texts: tokens can be spelled differently, and white space may stand between
them. Every such text is read as the value.

- `Json.tokens`: the tokens of a value. `build_tokens`: **they are read as this value**, by induction on the value.
- `Separated`: no number is followed by what could continue it. `separated_tokens`: so it is within every value.
- `Written`: the texts of tokens. `scanFrom_written`: **they are read as these tokens**.
- `ofText?_written`: both together.
-/

namespace TwoVenue.Json

/-! ## The tokens of a value -/

mutual

/-- The tokens of a value. -/
def tokens : Json → List Token
  | .null => [.wordNull]
  | .bool true => [.wordTrue]
  | .bool false => [.wordFalse]
  | .number l => [.number l]
  | .string s => [.string s]
  | .array [] => [.openBracket, .closeBracket]
  | .array (v :: rest) => .openBracket :: (v.tokens ++ moreItems rest)
  | .object [] => [.openBrace, .closeBrace]
  | .object ((name, v) :: rest) => .openBrace :: .string name :: .colon :: (v.tokens ++ moreMembers rest)

/-- The tokens of an array from the end of an item on. -/
def moreItems : List Json → List Token
  | [] => [.closeBracket]
  | v :: rest => .comma :: (v.tokens ++ moreItems rest)

/-- The tokens of an object from the end of a member on. -/
def moreMembers : List (Option String × Json) → List Token
  | [] => [.closeBrace]
  | (name, v) :: rest => .comma :: .string name :: .colon :: (v.tokens ++ moreMembers rest)

end

/-- No value begins with the end of an array, so an item is read as any other value. -/
theorem build_itemOrEnd (v : Json) (ts : List Token) (stack : List Frame) :
    build (v.tokens ++ ts) .itemOrEnd stack = build (v.tokens ++ ts) .value stack := by
  cases v with
  | null => rfl
  | bool value => cases value <;> rfl
  | number => rfl
  | string => rfl
  | array items => cases items <;> rfl
  | object members => rcases members with _ | ⟨⟨name, v⟩, rest⟩ <;> rfl

mutual

/-- **The tokens of a value are read as this value**, whatever stands around it. -/
theorem build_tokens : ∀ (v : Json) (ts : List Token) (stack : List Frame),
    build (v.tokens ++ ts) .value stack = build ts (.follow v) stack
  | .null, _, _ => rfl
  | .bool true, _, _ => rfl
  | .bool false, _, _ => rfl
  | .number _, _, _ => rfl
  | .string _, _, _ => rfl
  | .array [], _, _ => rfl
  | .array (v :: rest), ts, stack => by
    rw [tokens, List.cons_append, List.append_assoc]
    show build (v.tokens ++ (moreItems rest ++ ts)) .itemOrEnd (.array [] :: stack) = _
    rw [build_itemOrEnd, build_tokens v, build_moreItems rest v]
    rfl
  | .object [], _, _ => rfl
  | .object ((name, v) :: rest), ts, stack => by
    rw [tokens, List.cons_append, List.cons_append, List.cons_append, List.append_assoc]
    show build (v.tokens ++ (moreMembers rest ++ ts)) .value (.member [] name :: stack) = _
    rw [build_tokens v, build_moreMembers rest name v]
    rfl

/-- The items that are left are added behind those that have been read. -/
theorem build_moreItems : ∀ (rest : List Json) (v : Json) (items : List Json) (ts : List Token) (stack : List Frame),
    build (moreItems rest ++ ts) (.follow v) (.array items :: stack)
      = build ts (.follow (.array (items.reverse ++ v :: rest))) stack
  | [], v, items, ts, stack => by
    show build ts (.follow (.array (v :: items).reverse)) stack = _
    rw [List.reverse_cons]
  | w :: rest, v, items, ts, stack => by
    rw [moreItems, List.cons_append, List.append_assoc]
    show build (w.tokens ++ (moreItems rest ++ ts)) .value (.array (v :: items) :: stack) = _
    rw [build_tokens w, build_moreItems rest w, List.reverse_cons, List.append_assoc]
    rfl

/-- The members that are left are added behind those that have been read. -/
theorem build_moreMembers : ∀ (rest : List (Option String × Json)) (name : Option String) (v : Json)
    (members : List (Option String × Json)) (ts : List Token) (stack : List Frame),
    build (moreMembers rest ++ ts) (.follow v) (.member members name :: stack)
      = build ts (.follow (.object (members.reverse ++ (name, v) :: rest))) stack
  | [], name, v, members, ts, stack => by
    show build ts (.follow (.object ((name, v) :: members).reverse)) stack = _
    rw [List.reverse_cons]
  | (next, w) :: rest, name, v, members, ts, stack => by
    rw [moreMembers, List.cons_append, List.cons_append, List.cons_append, List.append_assoc]
    show build (w.tokens ++ (moreMembers rest ++ ts)) .value (.member ((name, v) :: members) next :: stack) = _
    rw [build_tokens w, build_moreMembers rest next w, List.reverse_cons, List.append_assoc]
    rfl

end

theorem ofTokens?_tokens (v : Json) : ofTokens? v.tokens = some v := by
  have h := build_tokens v [] []
  rw [List.append_nil] at h
  unfold ofTokens?
  rw [h]
  rfl

/-! ## Numbers among tokens -/

/-- Whether nothing follows, or a mark that ends a value. -/
def Ends : List Token → Prop
  | [] => True
  | t :: _ => t = .comma ∨ t = .closeBracket ∨ t = .closeBrace

/-- Whether every number is followed by the end of its value, so that no digits meet. -/
def Separated : List Token → Prop
  | [] => True
  | .number _ :: ts => Ends ts ∧ Separated ts
  | _ :: ts => Separated ts

mutual

theorem separated_tokens : ∀ (v : Json) (ts : List Token), Ends ts → Separated ts → Separated (v.tokens ++ ts)
  | .null, _, _, h => h
  | .bool true, _, _, h => h
  | .bool false, _, _, h => h
  | .number _, _, hends, h => ⟨hends, h⟩
  | .string _, _, _, h => h
  | .array [], _, _, h => h
  | .array (v :: rest), ts, _, h => by
    rw [tokens, List.cons_append, List.append_assoc]
    have hrest := separated_moreItems rest ts h
    exact separated_tokens v _ hrest.1 hrest.2
  | .object [], _, _, h => h
  | .object ((name, v) :: rest), ts, _, h => by
    rw [tokens, List.cons_append, List.cons_append, List.cons_append, List.append_assoc]
    have hrest := separated_moreMembers rest ts h
    exact separated_tokens v _ hrest.1 hrest.2

theorem separated_moreItems : ∀ (rest : List Json) (ts : List Token), Separated ts →
    Ends (moreItems rest ++ ts) ∧ Separated (moreItems rest ++ ts)
  | [], _, h => ⟨.inr (.inl rfl), h⟩
  | v :: rest, ts, h => by
    rw [moreItems, List.cons_append, List.append_assoc]
    have hrest := separated_moreItems rest ts h
    exact ⟨.inl rfl, separated_tokens v _ hrest.1 hrest.2⟩

theorem separated_moreMembers : ∀ (rest : List (Option String × Json)) (ts : List Token), Separated ts →
    Ends (moreMembers rest ++ ts) ∧ Separated (moreMembers rest ++ ts)
  | [], _, h => ⟨.inr (.inr rfl), h⟩
  | (name, v) :: rest, ts, h => by
    rw [moreMembers, List.cons_append, List.cons_append, List.cons_append, List.append_assoc]
    have hrest := separated_moreMembers rest ts h
    exact ⟨.inl rfl, separated_tokens v _ hrest.1 hrest.2⟩

end

/-! ## Texts of tokens -/

/-- The texts of tokens: each token in one of its spellings, with any white space around it. -/
inductive Written : List Token → List Char → Prop
  | done {space : List Char} (hspace : ∀ c ∈ space, isSpace c = true) : Written [] space
  | token {space cs rest : List Char} {t : Token} {ts : List Token} (hspace : ∀ c ∈ space, isSpace c = true)
      (ht : t.Spelled cs) (hrest : Written ts rest) : Written (t :: ts) (space ++ (cs ++ rest))

theorem Written.nil : Written [] [] := .done fun _ hc => absurd hc List.not_mem_nil

/-- More white space. -/
theorem Written.space {c : Char} {cs : List Char} {ts : List Token} (hc : isSpace c = true) (h : Written ts cs) :
    Written ts (c :: cs) := by
  cases h with
  | done hspace => exact .done (List.forall_mem_cons.2 ⟨hc, hspace⟩)
  | token hspace ht hrest => exact .token (List.forall_mem_cons.2 ⟨hc, hspace⟩) ht hrest

/-- A token without white space before it. -/
theorem Written.next {cs rest : List Char} {t : Token} {ts : List Token} (ht : t.Spelled cs) (hrest : Written ts rest) :
    Written (t :: ts) (cs ++ rest) := .token (fun _ hc => absurd hc List.not_mem_nil) ht hrest

/-- White space is passed over. -/
theorem scanFrom_space {space : List Char} (hspace : ∀ c ∈ space, isSpace c = true) (found : List Token)
    (rest : List Char) : Token.scanFrom found (space ++ rest) = Token.scanFrom found rest := by
  induction space with
  | nil => rfl
  | cons c space ih =>
    rw [List.cons_append, Token.scanFrom, if_pos (hspace c List.mem_cons_self)]
    exact ih fun c hc => hspace c (List.mem_cons_of_mem _ hc)

/-- No token begins with white space. -/
theorem Token.Spelled.exists_head {t : Token} {cs : List Char} (h : t.Spelled cs) :
    ∃ c tail, cs = c :: tail ∧ isSpace c = false := by
  cases h with
  | openBracket | closeBracket | openBrace | closeBrace | comma | colon | wordNull | wordTrue | wordFalse | string =>
    exact ⟨_, _, rfl, rfl⟩
  | number h =>
    cases h with
    | signed => exact ⟨_, _, rfl, rfl⟩
    | unsigned _ h =>
      obtain ⟨hwhole, -, -, -⟩ := h
      obtain ⟨d, tail, hd, -, hchars⟩ := hwhole.exists_head (_ ++ _)
      refine ⟨_, _, hchars, ?_⟩
      interval_cases d <;> rfl

/-- A token is added to those that have been found. -/
theorem scanFrom_token {t : Token} {cs rest : List Char} (ht : t.Spelled cs) (hrest : ∀ l, t = .number l → Apart rest)
    (found : List Token) : Token.scanFrom found (cs ++ rest) = Token.scanFrom (t :: found) rest := by
  have hfirst := Token.first?_spelled ht hrest
  obtain ⟨c, tail, rfl, hc⟩ := ht.exists_head
  rw [List.cons_append] at hfirst ⊢
  rw [Token.scanFrom, if_neg (by rw [hc]; exact Bool.false_ne_true)]
  split
  · next r hr =>
    rw [hfirst] at hr
    cases hr
    rfl
  · next hr =>
    rw [hfirst] at hr
    cases hr

/-- What ends a value cannot continue a number. -/
theorem Written.apart {ts : List Token} {cs : List Char} (h : Written ts cs) (hends : Ends ts) : Apart cs := by
  have hspaces : ∀ c, isSpace c = true → c.isDigit = false ∧ c ≠ '.' ∧ c ≠ 'e' ∧ c ≠ 'E' := by
    intro c hc
    simp only [isSpace, Bool.or_eq_true, beq_iff_eq] at hc
    rcases hc with ((rfl | rfl) | rfl) | rfl <;> decide
  have hhead : ∀ c ∈ cs.head?, c.isDigit = false ∧ c ≠ '.' ∧ c ≠ 'e' ∧ c ≠ 'E' := by
    intro c hc
    cases h with
    | done hspace => exact hspaces c (hspace c (List.mem_of_mem_head? hc))
    | @token space _ rest t ts hspace ht =>
      cases space with
      | cons c' space =>
        cases hc
        exact hspaces c (hspace c List.mem_cons_self)
      | nil =>
        rcases hends with rfl | rfl | rfl
        all_goals
          cases ht
          cases hc
          decide
  exact ⟨fun c hc => (hhead c hc).1, fun c hc => (hhead c hc).2⟩

/-- **The texts of tokens are read as these tokens.** -/
theorem scanFrom_written {ts : List Token} {cs : List Char} (h : Written ts cs) :
    ∀ found, Separated ts → Token.scanFrom found cs = some (found.reverse ++ ts) := by
  induction h with
  | done hspace =>
    intro found _
    have hscan := scanFrom_space hspace found []
    rw [List.append_nil] at hscan
    rw [hscan, Token.scanFrom, List.append_nil]
  | @token space cs rest t ts hspace ht hrest ih =>
    intro found hseparated
    -- the marks and the strings end by themselves, whatever follows them
    have htail : (∀ l, t = .number l → Ends ts) ∧ Separated ts := by
      cases t with
      | number l => exact ⟨fun _ _ => hseparated.1, hseparated.2⟩
      | _ =>
        refine ⟨fun _ hnumber => ?_, hseparated⟩
        cases hnumber
    rw [scanFrom_space hspace, scanFrom_token ht (fun l hl => hrest.apart (htail.1 l hl)), ih _ htail.2,
      List.reverse_cons, List.append_assoc]
    rfl

/-- A text with the tokens of a value is read as this value. -/
theorem ofText?_of_scan {v : Json} {text : String} (h : Token.scan? text.toList = some v.tokens) :
    ofText? text = some v := by
  unfold ofText?
  rw [h]
  exact ofTokens?_tokens v

/-- **Every text of a value is read as this value.** -/
theorem ofText?_written {v : Json} {text : String} (h : Written v.tokens text.toList) : ofText? text = some v := by
  have hseparated := separated_tokens v [] trivial trivial
  rw [List.append_nil] at hseparated
  exact ofText?_of_scan (scanFrom_written h [] hseparated)

end TwoVenue.Json
