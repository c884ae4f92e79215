import TwoVenue.Json.Literal

/-!
# Tokens of JSON texts

- `Token`: brackets, marks, words, numbers and strings. A string in which half of a surrogate pair stands alone is a
  token too, but has no text.
- `Token.scan?`: the tokens of a text. White space is blank, tab, line feed and carriage return.
-/

namespace TwoVenue.Json

/-- A token. -/
inductive Token where
  | openBracket | closeBracket | openBrace | closeBrace | comma | colon
  | wordNull | wordTrue | wordFalse
  | number (literal : Literal)
  | string (text : Option String)
deriving DecidableEq

/-! ## Strings -/

/-- The characters of a string so far. -/
structure Contents where
  /-- The characters, the last one first. -/
  reversed : List Char
  /-- A first half of a surrogate pair that waits for the second one. -/
  lead : Option Nat
  /-- Whether every half has met its partner. -/
  whole : Bool

namespace Contents

/-- Nothing yet. -/
def empty : Contents := ⟨[], none, true⟩

/-- One more character. -/
def push (s : Contents) (c : Char) : Contents :=
  { reversed := c :: s.reversed, lead := none, whole := s.whole && s.lead.isNone }

/-- One more escaped code unit of 16 bits. -/
def pushUnit (s : Contents) (unit : Nat) : Contents :=
  if 0xd800 ≤ unit ∧ unit < 0xdc00 then
    { s with lead := some unit, whole := s.whole && s.lead.isNone }
  else if 0xdc00 ≤ unit ∧ unit < 0xe000 then
    match s.lead with
    -- both halves together are one character beyond the first 65536
    | some lead =>
      { s with
        reversed := Char.ofNat (0x10000 + (lead - 0xd800) * 0x400 + (unit - 0xdc00)) :: s.reversed
        lead := none }
    | none => { s with whole := false }
  else s.push (Char.ofNat unit)

/-- The text, if no half of a pair stands alone. -/
def text? (s : Contents) : Option String :=
  if s.whole && s.lead.isNone then some (String.ofList s.reversed.reverse) else none

end Contents

/-- Where in a string the reader is. -/
inductive StringMode where
  /-- Between characters. -/
  | plain
  /-- After a backslash. -/
  | escape
  /-- Within the four digits of a code unit: how many follow after the next one, and the value so far. -/
  | unit (more value : Nat)

/-- The character of a short escape. -/
def shortEscape? : Char → Option Char
  | '"' => some '"'
  | '\\' => some '\\'
  | '/' => some '/'
  | 'b' => some '\x08'
  | 'f' => some '\x0c'
  | 'n' => some '\n'
  | 'r' => some '\r'
  | 't' => some '\t'
  | _ => none

/-- The value of a digit in base sixteen. -/
def hexValue? (c : Char) : Option Nat :=
  if c.isDigit then some (c.toNat - '0'.toNat)
  else if 'a' ≤ c ∧ c ≤ 'f' then some (c.toNat - 'a'.toNat + 10)
  else if 'A' ≤ c ∧ c ≤ 'F' then some (c.toNat - 'A'.toNat + 10)
  else none

/-- The rest of a string up to its closing quote, and what follows the quote. -/
def scanString (s : Contents) : StringMode → List Char → Option (Option String × List Char)
  | _, [] => none
  | .plain, c :: rest =>
    if c = '"' then some (s.text?, rest)
    else if c = '\\' then scanString s .escape rest
    else if c.toNat < 0x20 then none
    else scanString (s.push c) .plain rest
  | .escape, c :: rest =>
    if c = 'u' then scanString s (.unit 3 0) rest
    else
      match shortEscape? c with
      | some d => scanString (s.push d) .plain rest
      | none => none
  | .unit more value, c :: rest =>
    match hexValue? c with
    | none => none
    | some d =>
      match more with
      | 0 => scanString (s.pushUnit (value * 16 + d)) .plain rest
      | more + 1 => scanString s (.unit more (value * 16 + d)) rest

theorem length_scanString {s : Contents} {mode : StringMode} {cs : List Char} {r : Option String × List Char}
    (h : scanString s mode cs = some r) : r.2.length < cs.length := by
  induction cs generalizing s mode with
  | nil => cases mode <;> simp [scanString] at h
  | cons c rest ih =>
    have step {s' : Contents} {mode' : StringMode} (h' : scanString s' mode' rest = some r) :
        r.2.length < (c :: rest).length := Nat.lt_succ_of_lt (ih h')
    cases mode with
    | plain =>
      simp only [scanString] at h
      split at h
      · cases h; simp
      · split at h
        · exact step h
        · split at h
          · cases h
          · exact step h
    | escape =>
      simp only [scanString] at h
      split at h
      · exact step h
      · split at h
        · exact step h
        · cases h
    | unit more value =>
      simp only [scanString] at h
      split at h
      · cases h
      · cases more with
        | zero => exact step h
        | succ more => exact step h

/-! ## Numbers -/

/-- The values of the digits at the start of a text, and the rest. -/
def scanDigits : List Char → List Nat × List Char
  | [] => ([], [])
  | c :: rest =>
    match digitValue? c with
    | some d => let r := scanDigits rest; (d :: r.1, r.2)
    | none => ([], c :: rest)

theorem length_scanDigits (cs : List Char) : (scanDigits cs).1.length + (scanDigits cs).2.length = cs.length := by
  induction cs with
  | nil => rfl
  | cons c rest ih =>
    unfold scanDigits
    cases digitValue? c with
    | none => simp
    | some d => simp only [List.length_cons]; omega

/-- The digits before the point: a single zero, or digits that begin with another one. -/
def scanWhole? (cs : List Char) : Option (List Nat × List Char) :=
  match cs with
  | [] => none
  | c :: rest =>
    if c = '0' then some ([0], rest)
    else
      let r := scanDigits cs
      if r.1.isEmpty then none else some r

/-- The digits after a point, at least one, if a point follows. -/
def scanFraction? (cs : List Char) : Option (Option (List Nat) × List Char) :=
  match cs with
  | '.' :: rest =>
    let r := scanDigits rest
    if r.1.isEmpty then none else some (some r.1, r.2)
  | _ => some (none, cs)

/-- Sign and digits of an exponent, at least one digit, if an exponent follows. -/
def scanExponent? (cs : List Char) : Option (Option (Bool × List Nat) × List Char) :=
  match cs with
  | [] => some (none, [])
  | c :: rest =>
    if c = 'e' ∨ c = 'E' then
      let signed := Decimal.splitSign rest
      let r := scanDigits signed.2
      if r.1.isEmpty then none else some (some (signed.1, r.1), r.2)
    else some (none, cs)

/-- A number at the start of a text, after its sign. -/
def scanNumber? (negative : Bool) (cs : List Char) : Option (Literal × List Char) := do
  let (whole, cs) ← scanWhole? cs
  let (fraction, cs) ← scanFraction? cs
  let (exponent, cs) ← scanExponent? cs
  return (⟨negative, whole, fraction, exponent⟩, cs)

theorem length_scanWhole {cs : List Char} {r : List Nat × List Char} (h : scanWhole? cs = some r) :
    r.2.length < cs.length := by
  unfold scanWhole? at h
  split at h
  · cases h
  · rename_i c rest
    split at h
    · cases h; simp
    · have := length_scanDigits (c :: rest)
      dsimp only at h
      split at h
      · cases h
      · rename_i hne
        cases h
        cases hd : (scanDigits (c :: rest)).1 with
        | nil => simp [hd] at hne
        | cons a t => rw [hd] at this; simp only [List.length_cons] at this ⊢; omega

theorem length_scanFraction {cs : List Char} {r : Option (List Nat) × List Char} (h : scanFraction? cs = some r) :
    r.2.length ≤ cs.length := by
  unfold scanFraction? at h
  split at h
  · rename_i rest
    have := length_scanDigits rest
    dsimp only at h
    split at h
    · cases h
    · cases h; simp only [List.length_cons]; omega
  · cases h; exact Nat.le_refl _

theorem length_splitSign (cs : List Char) : (Decimal.splitSign cs).2.length ≤ cs.length := by
  unfold Decimal.splitSign
  split <;> simp

theorem length_scanExponent {cs : List Char} {r : Option (Bool × List Nat) × List Char}
    (h : scanExponent? cs = some r) : r.2.length ≤ cs.length := by
  unfold scanExponent? at h
  split at h
  · cases h; exact Nat.le_refl _
  · rename_i c rest
    split at h
    · have h1 := length_scanDigits (Decimal.splitSign rest).2
      have h2 := length_splitSign rest
      dsimp only at h
      split at h
      · cases h
      · cases h; simp only [List.length_cons]; omega
    · cases h; exact Nat.le_refl _

theorem length_scanNumber {negative : Bool} {cs : List Char} {r : Literal × List Char}
    (h : scanNumber? negative cs = some r) : r.2.length < cs.length := by
  simp only [scanNumber?, Option.bind_eq_bind, Option.bind_eq_some_iff] at h
  obtain ⟨a, ha, b, hb, c, hc, hr⟩ := h
  cases hr
  have h1 := length_scanWhole ha
  have h2 := length_scanFraction hb
  have h3 := length_scanExponent hc
  show c.2.length < cs.length
  omega

/-! ## Texts -/

/-- White space between tokens. -/
def isSpace (c : Char) : Bool := c == ' ' || c == '\n' || c == '\t' || c == '\r'

/-- A token at the start of a text that does not begin with white space, and the rest. -/
def Token.first? : List Char → Option (Token × List Char)
  | '[' :: rest => some (.openBracket, rest)
  | ']' :: rest => some (.closeBracket, rest)
  | '\x7b' :: rest => some (.openBrace, rest)
  | '\x7d' :: rest => some (.closeBrace, rest)
  | ',' :: rest => some (.comma, rest)
  | ':' :: rest => some (.colon, rest)
  | '"' :: rest => (scanString .empty .plain rest).map fun r => (.string r.1, r.2)
  | '-' :: rest => (scanNumber? true rest).map fun r => (.number r.1, r.2)
  | 'n' :: 'u' :: 'l' :: 'l' :: rest => some (.wordNull, rest)
  | 't' :: 'r' :: 'u' :: 'e' :: rest => some (.wordTrue, rest)
  | 'f' :: 'a' :: 'l' :: 's' :: 'e' :: rest => some (.wordFalse, rest)
  | cs => (scanNumber? false cs).map fun r => (.number r.1, r.2)

theorem Token.length_first {cs : List Char} {r : Token × List Char} (h : Token.first? cs = some r) :
    r.2.length < cs.length := by
  unfold Token.first? at h
  split at h
  all_goals first
    | (cases h; simp only [List.length_cons]; omega)
    | (obtain ⟨p, hp, rfl⟩ := Option.map_eq_some_iff.1 h
       first
         | exact Nat.lt_succ_of_lt (length_scanString hp)
         | exact Nat.lt_succ_of_lt (length_scanNumber hp)
         | exact length_scanNumber hp)

/-- The tokens of a text after those in `found`, of which the last one comes first. -/
def Token.scanFrom (found : List Token) (cs : List Char) : Option (List Token) :=
  match cs with
  | [] => some found.reverse
  | c :: rest =>
    if isSpace c then scanFrom found rest
    else
      match _ : Token.first? (c :: rest) with
      | some r => scanFrom (r.1 :: found) r.2
      | none => none
termination_by cs.length
decreasing_by
  · simp
  · exact Token.length_first ‹_›

/-- The tokens of a text. -/
def Token.scan? (cs : List Char) : Option (List Token) := Token.scanFrom [] cs

end TwoVenue.Json
