import Mathlib.Tactic
import TwoVenue.Json.Token

/-!
# Spellings of tokens

A token can be written in many ways: a character of a string as itself, by a short escape or by its code units, a number
with either sign of its exponent. All of them are read as the token.

- `Piece`: one element of a string as it is written. `decode` is the text of pieces, if no half of a surrogate pair
  stands alone.
- `scanString_pieces`: **the pieces of a string are read as their text**.
- `SpellsNumber`, `Token.Spelled`: how numbers and all other tokens are written.
- `Token.first?_spelled`: **every spelling of a token is read as this token**.
-/

namespace TwoVenue.Json

/-! ## Strings -/

/-- Two spellings of a character within a string: as itself, or by a backslash and a letter. -/
inductive Writes (c : Char) : List Char → Prop
  | plain (hquote : c ≠ '"') (hescape : c ≠ '\\') (hprintable : 0x20 ≤ c.toNat) : Writes c [c]
  | short {mark : Char} (h : shortEscape? mark = some c) : Writes c ['\\', mark]

/-- The value of four digits in base sixteen. -/
def unitValue? (a b c d : Char) : Option Nat := do
  let a ← hexValue? a
  let b ← hexValue? b
  let c ← hexValue? c
  let d ← hexValue? d
  return ((a * 16 + b) * 16 + c) * 16 + d

/-- One element of a string as it is written: a character, or a code unit of 16 bits. -/
inductive Piece where
  | char (c : Char) (written : List Char) (h : Writes c written)
  | unit (a b c d : Char) (value : Nat) (h : unitValue? a b c d = some value)

/-- What is written for a piece. -/
def Piece.written : Piece → List Char
  | .char _ written _ => written
  | .unit a b c d _ _ => ['\\', 'u', a, b, c, d]

/-- Whether a code unit is the first half of a surrogate pair. -/
def isLead (unit : Nat) : Prop := 0xd800 ≤ unit ∧ unit < 0xdc00

/-- Whether a code unit is the second half of a surrogate pair. -/
def isTrail (unit : Nat) : Prop := 0xdc00 ≤ unit ∧ unit < 0xe000

instance (unit : Nat) : Decidable (isLead unit) := inferInstanceAs (Decidable (_ ∧ _))
instance (unit : Nat) : Decidable (isTrail unit) := inferInstanceAs (Decidable (_ ∧ _))

/-- The character of a surrogate pair. -/
def pairChar (lead trail : Nat) : Char := Char.ofNat (0x10000 + (lead - 0xd800) * 0x400 + (trail - 0xdc00))

/-- The characters of pieces, after the first half of a pair if there is one. -/
def decode : Option Nat → List Piece → Option (List Char)
  | none, [] => some []
  | some _, [] => none
  | none, .char c _ _ :: rest => (decode none rest).map (c :: ·)
  | some _, .char _ _ _ :: _ => none
  | none, .unit _ _ _ _ unit _ :: rest =>
    if isLead unit then decode (some unit) rest
    else if isTrail unit then none
    else (decode none rest).map (Char.ofNat unit :: ·)
  | some lead, .unit _ _ _ _ unit _ :: rest =>
    if isTrail unit then (decode none rest).map (pairChar lead unit :: ·) else none

/-- The text of pieces, if no half of a pair stands alone. -/
def textOf (pieces : List Piece) : Option String := (decode none pieces).map String.ofList

/-- A character is pushed, in whichever way it is written. -/
theorem scanString_writes {c : Char} {written : List Char} (h : Writes c written) (s : Contents) (rest : List Char) :
    scanString s .plain (written ++ rest) = scanString (s.push c) .plain rest := by
  cases h with
  | plain hquote hescape hprintable =>
    rw [List.singleton_append, scanString, if_neg hquote, if_neg hescape, if_neg (Nat.not_lt.2 hprintable)]
  | @short mark hmark =>
    have hu : mark ≠ 'u' := by
      rintro rfl
      cases hmark
    show scanString s .escape (mark :: rest) = _
    rw [scanString, if_neg hu, hmark]

/-- The four digits of a code unit are pushed as the unit. -/
theorem scanString_unit {a b c d : Char} {unit : Nat} (h : unitValue? a b c d = some unit) (s : Contents)
    (rest : List Char) :
    scanString s .plain ('\\' :: 'u' :: a :: b :: c :: d :: rest) = scanString (s.pushUnit unit) .plain rest := by
  unfold unitValue? at h
  simp only [Option.bind_eq_bind, Option.bind_eq_some_iff] at h
  obtain ⟨a', ha, b', hb, c', hc, d', hd, hunit⟩ := h
  cases hunit
  show scanString s (.unit 3 0) (a :: b :: c :: d :: rest) = _
  simp only [scanString, ha, hb, hc, hd, Nat.zero_mul, Nat.zero_add]

/-- What a reader makes of pieces, from what it has read before. -/
def Contents.after (s : Contents) (pieces : List Piece) : Option String :=
  if s.whole then (decode s.lead pieces).map fun cs => String.ofList (s.reversed.reverse ++ cs) else none

theorem Contents.after_nil (s : Contents) : s.after [] = s.text? := by
  unfold after text?
  cases s.whole <;> cases s.lead <;> simp [decode]

/-- A character ends the wait for a second half. -/
theorem Contents.after_char (s : Contents) {c : Char} {written : List Char} (h : Writes c written) (rest : List Piece) :
    s.after (.char c written h :: rest) = (s.push c).after rest := by
  unfold after push
  cases s.whole <;> cases s.lead <;> simp [decode, Function.comp_def]

/-- A code unit completes a pair, begins one, or is a character of its own. -/
theorem Contents.after_unit (s : Contents) {a b c d : Char} {unit : Nat} (h : unitValue? a b c d = some unit)
    (rest : List Piece) : s.after (.unit a b c d unit h :: rest) = (s.pushUnit unit).after rest := by
  by_cases hlead : isLead unit
  · -- a first half is kept, and spoils the text if there was one before
    have htrail : ¬ isTrail unit := fun h => absurd hlead.2 (Nat.not_lt.2 h.1)
    have hpush : s.pushUnit unit = { s with lead := some unit, whole := s.whole && s.lead.isNone } := if_pos hlead
    rw [hpush]
    unfold after
    cases s.whole <;> cases s.lead <;> simp [decode, hlead, htrail]
  · have hpush : s.pushUnit unit = if isTrail unit then _ else _ := if_neg hlead
    rw [hpush]
    unfold after
    by_cases htrail : isTrail unit
    · rw [if_pos htrail]
      cases s.whole <;> cases s.lead <;> simp [decode, hlead, htrail, pairChar, Function.comp_def]
    · rw [if_neg htrail]
      unfold push
      cases s.whole <;> cases s.lead <;> simp [decode, hlead, htrail, Function.comp_def]

/-- **The pieces of a string are read as their text**, by induction on the pieces. -/
theorem scanString_pieces (pieces : List Piece) (rest : List Char) :
    ∀ s : Contents, scanString s .plain (pieces.flatMap Piece.written ++ '"' :: rest) = some (s.after pieces, rest) := by
  induction pieces with
  | nil =>
    intro s
    rw [Contents.after_nil]
    rfl
  | cons piece pieces ih =>
    intro s
    rw [List.flatMap_cons, List.append_assoc]
    cases piece with
    | char c written h =>
      rw [Contents.after_char, ← ih]
      exact scanString_writes h s _
    | unit a b c d value h =>
      rw [Contents.after_unit, ← ih]
      exact scanString_unit h s _

/-! ## Numbers -/

/-- The characters of digits. -/
def digitChars (digits : List Nat) : List Char := digits.map Nat.digitChar

/-- Digits in base ten, at least one. -/
structure Digits (digits : List Nat) : Prop where
  ne_nil : digits ≠ []
  lt_ten : ∀ d ∈ digits, d < 10

/-- How the part after the point is written. -/
inductive SpellsFraction : Option (List Nat) → List Char → Prop
  | absent : SpellsFraction none []
  | point {digits : List Nat} (h : Digits digits) : SpellsFraction (some digits) ('.' :: digitChars digits)

/-- How the sign of an exponent is written. -/
inductive SpellsSign : Bool → List Char → Prop
  | absent : SpellsSign false []
  | plus : SpellsSign false ['+']
  | minus : SpellsSign true ['-']

/-- How an exponent is written. -/
inductive SpellsExponent : Option (Bool × List Nat) → List Char → Prop
  | absent : SpellsExponent none []
  | mark {mark : Char} {negative : Bool} {sign : List Char} {digits : List Nat} (hmark : mark = 'e' ∨ mark = 'E')
      (hsign : SpellsSign negative sign) (h : Digits digits) :
      SpellsExponent (some (negative, digits)) (mark :: (sign ++ digitChars digits))

/-- How a number is written, without its sign: no zero stands before other digits. -/
inductive SpellsUnsigned (l : Literal) : List Char → Prop
  | parts {fraction exponent : List Char} (hwhole : Digits l.whole) (hzero : ∀ rest, l.whole = 0 :: rest → rest = [])
      (hfraction : SpellsFraction l.fraction fraction) (hexponent : SpellsExponent l.exponent exponent) :
      SpellsUnsigned l (digitChars l.whole ++ (fraction ++ exponent))

/-- How a number is written. -/
inductive SpellsNumber (l : Literal) : List Char → Prop
  | signed {cs : List Char} (hsign : l.negative = true) (h : SpellsUnsigned l cs) : SpellsNumber l ('-' :: cs)
  | unsigned {cs : List Char} (hsign : l.negative = false) (h : SpellsUnsigned l cs) : SpellsNumber l cs

/-- Whether a text does not begin with a digit. -/
def NoDigit (cs : List Char) : Prop := ∀ c ∈ cs.head?, c.isDigit = false

/-- Whether a text cannot continue a number. -/
structure Apart (cs : List Char) : Prop where
  noDigit : NoDigit cs
  noMark : ∀ c ∈ cs.head?, c ≠ '.' ∧ c ≠ 'e' ∧ c ≠ 'E'

section Numbers

variable {digits : List Nat} {cs rest : List Char}

theorem digitValue?_digitChar {d : Nat} (h : d < 10) : digitValue? d.digitChar = some d := by
  unfold digitValue?
  rw [Nat.isDigit_digitChar, if_pos (decide_eq_true h), Nat.toNat_digitChar_of_lt_ten h]
  exact congrArg some (Nat.add_sub_cancel_left ..)

theorem scanDigits_digitChars (hlt : ∀ d ∈ digits, d < 10) (hrest : NoDigit rest) :
    scanDigits (digitChars digits ++ rest) = (digits, rest) := by
  induction digits with
  | nil =>
    cases rest with
    | nil => rfl
    | cons c rest =>
      have hc : digitValue? c = none := if_neg (by rw [hrest c rfl]; exact Bool.false_ne_true)
      show scanDigits (c :: rest) = _
      rw [scanDigits, hc]
  | cons d digits ih =>
    have hd : digitValue? d.digitChar = some d := digitValue?_digitChar (hlt d List.mem_cons_self)
    show scanDigits (d.digitChar :: (digitChars digits ++ rest)) = _
    rw [scanDigits, hd]
    dsimp only
    rw [ih fun d hd => hlt d (List.mem_cons_of_mem _ hd)]

/-- Digits begin with a digit. -/
theorem Digits.exists_head (h : Digits digits) (rest : List Char) :
    ∃ d tail, d < 10 ∧ digits = d :: tail ∧ digitChars digits ++ rest = d.digitChar :: (digitChars tail ++ rest) := by
  obtain ⟨d, tail, rfl⟩ := List.exists_cons_of_ne_nil h.ne_nil
  exact ⟨d, tail, h.lt_ten d List.mem_cons_self, rfl, rfl⟩

theorem scanWhole?_digitChars (h : Digits digits) (hzero : ∀ rest, digits = 0 :: rest → rest = [])
    (hrest : NoDigit rest) : scanWhole? (digitChars digits ++ rest) = some (digits, rest) := by
  obtain ⟨d, tail, -, htail, hchars⟩ := h.exists_head rest
  have hscan := scanDigits_digitChars h.lt_ten hrest
  rw [hchars] at hscan ⊢
  unfold scanWhole?
  dsimp only
  by_cases hd : d = 0
  · subst hd
    rw [if_pos (show Nat.digitChar 0 = '0' from rfl), htail, hzero tail htail]
    rfl
  · rw [if_neg (fun h => hd (Nat.digitChar_eq_zero.1 h)), hscan, htail]
    rfl

theorem SpellsExponent.noDigit {exponent : Option (Bool × List Nat)} (h : SpellsExponent exponent cs)
    (hrest : Apart rest) : NoDigit (cs ++ rest) := by
  cases h with
  | absent => exact hrest.noDigit
  | mark hmark hsign h =>
    intro c hc
    cases hc
    rcases hmark with rfl | rfl <;> rfl

theorem SpellsExponent.noPoint {exponent : Option (Bool × List Nat)} (h : SpellsExponent exponent cs)
    (hrest : Apart rest) : ∀ c ∈ (cs ++ rest).head?, c ≠ '.' := by
  cases h with
  | absent => exact fun c hc => (hrest.noMark c hc).1
  | mark hmark hsign h =>
    intro c hc
    cases hc
    rcases hmark with rfl | rfl <;> decide

theorem SpellsFraction.noDigit {fraction : Option (List Nat)} (h : SpellsFraction fraction cs)
    (hrest : NoDigit rest) : NoDigit (cs ++ rest) := by
  cases h with
  | absent => exact hrest
  | point h =>
    intro c hc
    cases hc
    rfl

theorem splitSign_spelled {negative : Bool} {sign : List Char} (hsign : SpellsSign negative sign) (h : Digits digits)
    (rest : List Char) :
    Decimal.splitSign (sign ++ (digitChars digits ++ rest)) = (negative, digitChars digits ++ rest) := by
  cases hsign with
  | plus => rfl
  | minus => rfl
  | absent =>
    -- no digit is a sign
    obtain ⟨d, tail, hd, -, hchars⟩ := h.exists_head rest
    rw [List.nil_append, hchars]
    have hdigit : d.digitChar.isDigit = true := by
      rw [Nat.isDigit_digitChar]
      exact decide_eq_true hd
    unfold Decimal.splitSign
    split
    · next heq =>
      rw [(List.cons.inj heq).1] at hdigit
      cases hdigit
    · next heq =>
      rw [(List.cons.inj heq).1] at hdigit
      cases hdigit
    · rfl

theorem scanExponent?_spelled {exponent : Option (Bool × List Nat)} (h : SpellsExponent exponent cs)
    (hrest : Apart rest) : scanExponent? (cs ++ rest) = some (exponent, rest) := by
  cases h with
  | absent =>
    cases rest with
    | nil => rfl
    | cons c rest =>
      obtain ⟨-, he, hE⟩ := hrest.noMark c rfl
      show scanExponent? (c :: rest) = _
      unfold scanExponent?
      dsimp only
      rw [if_neg (not_or.2 ⟨he, hE⟩)]
  | @mark mark negative sign digits hmark hsign h =>
    have hsplit := splitSign_spelled hsign h rest
    rw [List.cons_append, List.append_assoc]
    unfold scanExponent?
    dsimp only
    rw [if_pos hmark, hsplit, scanDigits_digitChars h.lt_ten hrest.noDigit,
      if_neg (by simpa using h.ne_nil)]

theorem scanFraction?_spelled {fraction : Option (List Nat)} (h : SpellsFraction fraction cs) (hrest : NoDigit rest)
    (hpoint : ∀ c ∈ rest.head?, c ≠ '.') : scanFraction? (cs ++ rest) = some (fraction, rest) := by
  cases h with
  | absent =>
    rw [List.nil_append]
    unfold scanFraction?
    split
    · exact absurd rfl (hpoint '.' rfl)
    · rfl
  | point h =>
    show scanFraction? ('.' :: (digitChars _ ++ rest)) = _
    have hscan := scanDigits_digitChars h.lt_ten hrest
    show (let r := scanDigits (digitChars _ ++ rest); if r.1.isEmpty then none else some (some r.1, r.2)) = _
    rw [hscan]
    exact if_neg (by simpa using h.ne_nil)

theorem scanNumber?_spelled {l : Literal} (h : SpellsUnsigned l cs) (hrest : Apart rest) :
    scanNumber? l.negative (cs ++ rest) = some (l, rest) := by
  obtain ⟨hwhole, hzero, hfraction, hexponent⟩ := h
  next fraction exponent =>
  have hexp := hexponent.noDigit hrest
  rw [List.append_assoc, List.append_assoc]
  unfold scanNumber?
  rw [scanWhole?_digitChars hwhole hzero (hfraction.noDigit hexp)]
  show ((scanFraction? (fraction ++ (exponent ++ rest))).bind _) = _
  rw [scanFraction?_spelled hfraction hexp (hexponent.noPoint hrest)]
  show ((scanExponent? (exponent ++ rest)).bind _) = _
  rw [scanExponent?_spelled hexponent hrest]
  rfl

end Numbers

/-! ## All tokens -/

/-- How a token is written. -/
inductive Token.Spelled : Token → List Char → Prop
  | openBracket : Spelled .openBracket ['[']
  | closeBracket : Spelled .closeBracket [']']
  | openBrace : Spelled .openBrace ['\x7b']
  | closeBrace : Spelled .closeBrace ['\x7d']
  | comma : Spelled .comma [',']
  | colon : Spelled .colon [':']
  | wordNull : Spelled .wordNull ['n', 'u', 'l', 'l']
  | wordTrue : Spelled .wordTrue ['t', 'r', 'u', 'e']
  | wordFalse : Spelled .wordFalse ['f', 'a', 'l', 's', 'e']
  | number {l : Literal} {cs : List Char} (h : SpellsNumber l cs) : Spelled (.number l) cs
  | string (pieces : List Piece) : Spelled (.string (textOf pieces)) ('"' :: (pieces.flatMap Piece.written ++ ['"']))

/-- Whether a character of a string can stand for itself. -/
def isPlain (c : Char) : Bool := c != '"' && c != '\\' && decide (0x20 ≤ c.toNat)

theorem Writes.of_isPlain {c : Char} (h : isPlain c = true) : Writes c [c] := by
  simp only [isPlain, Bool.and_eq_true, bne_iff_ne, decide_eq_true_eq] at h
  exact .plain h.1.1 h.1.2 h.2

/-- Characters that can stand for themselves are written as they are. -/
theorem exists_pieces_of_isPlain {cs : List Char} (h : ∀ c ∈ cs, isPlain c = true) :
    ∃ pieces : List Piece, pieces.flatMap Piece.written = cs ∧ decode none pieces = some cs := by
  induction cs with
  | nil => exact ⟨[], rfl, rfl⟩
  | cons c cs ih =>
    obtain ⟨pieces, hwritten, hdecode⟩ := ih fun c hc => h c (List.mem_cons_of_mem _ hc)
    refine ⟨.char c [c] (.of_isPlain (h c List.mem_cons_self)) :: pieces, ?_, ?_⟩
    · rw [List.flatMap_cons, hwritten]
      rfl
    · rw [decode, hdecode]
      rfl

/-- A text without quotes, backslashes and control characters is written as it is. -/
theorem Token.Spelled.plain {s : String} (h : s.toList.all isPlain = true) :
    Spelled (.string (some s)) ('"' :: (s.toList ++ ['"'])) := by
  obtain ⟨pieces, hwritten, hdecode⟩ := exists_pieces_of_isPlain (List.all_eq_true.1 h)
  have htext : textOf pieces = some s := by
    unfold textOf
    rw [hdecode]
    exact congrArg some String.ofList_toList
  rw [← hwritten, ← htext]
  exact .string pieces

/-- A text that begins with a digit is read as a number. -/
theorem Token.first?_digit {d : Nat} (hd : d < 10) (cs : List Char) :
    Token.first? (d.digitChar :: cs) = (scanNumber? false (d.digitChar :: cs)).map fun r => (.number r.1, r.2) := by
  interval_cases d <;> rfl

/-- **Every spelling of a token is read as this token**, if nothing behind a number continues it. -/
theorem Token.first?_spelled {t : Token} {cs rest : List Char} (h : t.Spelled cs)
    (hrest : ∀ l, t = .number l → Apart rest) : Token.first? (cs ++ rest) = some (t, rest) := by
  cases h with
  | openBracket | closeBracket | openBrace | closeBrace | comma | colon | wordNull | wordTrue | wordFalse => rfl
  | @number l cs h =>
    have hapart := hrest l rfl
    cases h with
    | signed hsign h =>
      have hscan := scanNumber?_spelled h hapart
      rw [hsign] at hscan
      show (scanNumber? true (_ ++ rest)).map _ = _
      rw [hscan]
      rfl
    | unsigned hsign h =>
      have hscan := scanNumber?_spelled h hapart
      rw [hsign] at hscan
      obtain ⟨hwhole, -, -, -⟩ := h
      obtain ⟨d, tail, hd, -, hchars⟩ := hwhole.exists_head (_ ++ _ ++ rest)
      rw [List.append_assoc, hchars] at hscan ⊢
      rw [first?_digit hd, hscan]
      rfl
  | string pieces =>
    show (scanString .empty .plain (pieces.flatMap Piece.written ++ ['"'] ++ rest)).map _ = _
    rw [List.append_assoc, List.singleton_append, scanString_pieces]
    show some (Token.string (Contents.empty.after pieces), rest) = _
    have hafter : Contents.empty.after pieces = textOf pieces := rfl
    rw [hafter]

end TwoVenue.Json
