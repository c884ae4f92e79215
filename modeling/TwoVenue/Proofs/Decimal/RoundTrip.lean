import Mathlib.Tactic
import TwoVenue.Decimal.Reader

/-!
# Decimals survive their text

The text of a decimal has all of its digits, at most 29 of them, so nothing is rounded when it is read. Only the sign of
a zero is lost.

- `readWhole_digits`, `readFraction_digits`: **digits that fit are read as their number**.
- `ofText?_toText`: the text of a decimal is read as the same digits.
-/

namespace TwoVenue

/-- The value of digits after a number. -/
theorem ofDigitChars_ge (cs : List Char) (m : Nat) : m ≤ Nat.ofDigitChars 10 cs m := by
  rw [Nat.ofDigitChars_eq_ofDigitChars_zero]
  have hpos : 1 ≤ 10 ^ cs.length := Nat.one_le_pow _ _ (by decide)
  calc m = 1 * m := (Nat.one_mul m).symm
    _ ≤ 10 ^ cs.length * m := Nat.mul_le_mul_right m hpos
    _ ≤ _ := Nat.le_add_right _ _

theorem digitValue?_of_isDigit {c : Char} (h : c.isDigit = true) : digitValue? c = some (c.toNat - '0'.toNat) :=
  if_pos h

namespace Decimal

variable {m scale : Nat} {seen : Bool} {cs rest : List Char}

/-- Digits before the point. -/
theorem readWhole_digits (hdigits : ∀ c ∈ cs, c.isDigit = true) :
    ∀ {m seen}, Nat.ofDigitChars 10 cs m < limit →
      readWhole m seen (cs ++ rest) = readWhole (Nat.ofDigitChars 10 cs m) (seen || !cs.isEmpty) rest := by
  induction cs with
  | nil =>
    intro m seen _
    rw [List.isEmpty_nil, Bool.not_true, Bool.or_false]
    rfl
  | cons c cs ih =>
    intro m seen hfits
    rw [Nat.ofDigitChars_cons, Nat.mul_comm] at hfits
    have hstep : m * 10 + (c.toNat - '0'.toNat) < limit := Nat.lt_of_le_of_lt (ofDigitChars_ge cs _) hfits
    rw [List.cons_append, readWhole, digitValue?_of_isDigit (hdigits c List.mem_cons_self)]
    dsimp only
    rw [if_pos hstep, ih (fun c hc => hdigits c (List.mem_cons_of_mem _ hc)) hfits, Nat.ofDigitChars_cons, Nat.mul_comm]
    simp

/-- Digits after the point, as many as the scale has room for. -/
theorem readFraction_digits (hdigits : ∀ c ∈ cs, c.isDigit = true) :
    ∀ {m scale seen}, Nat.ofDigitChars 10 cs m < limit → scale + cs.length ≤ maxScale → (cs = [] → seen = true) →
      readFraction m scale seen cs = some (Nat.ofDigitChars 10 cs m, scale + cs.length) := by
  induction cs with
  | nil =>
    intro m scale seen _ _ hseen
    rw [hseen rfl]
    rfl
  | cons c cs ih =>
    intro m scale seen hfits hroom _
    rw [Nat.ofDigitChars_cons, Nat.mul_comm] at hfits
    have hstep : m * 10 + (c.toNat - '0'.toNat) < limit := Nat.lt_of_le_of_lt (ofDigitChars_ge cs _) hfits
    rw [List.length_cons] at hroom ⊢
    rw [readFraction, digitValue?_of_isDigit (hdigits c List.mem_cons_self)]
    dsimp only
    rw [if_pos ⟨by omega, hstep⟩, ih (fun c hc => hdigits c (List.mem_cons_of_mem _ hc)) hfits (by omega) fun _ => rfl,
      Nat.ofDigitChars_cons, Nat.mul_comm]
    congr 2
    omega

/-! ## Padded digits -/

theorem isDigit_of_mem_zeroPadded {width n : Nat} {c : Char} (h : c ∈ zeroPadded width n) : c.isDigit = true := by
  unfold zeroPadded at h
  rcases List.mem_append.1 h with h | h
  · rw [List.eq_of_mem_replicate h]
    rfl
  · exact Nat.isDigit_of_mem_toDigits (by decide) (by decide) h

theorem zeroPadded_length {width n : Nat} (hwidth : 0 < width) (h : n < 10 ^ width) :
    (zeroPadded width n).length = width := by
  have hlength := (Nat.length_toDigits_le_iff (b := 10) (by decide) hwidth).2 h
  unfold zeroPadded
  rw [List.length_append, List.length_replicate, Nat.sub_add_cancel hlength]

theorem ofDigitChars_zeroPadded {width n : Nat} (hwidth : 0 < width) (h : n < 10 ^ width) (m : Nat) :
    Nat.ofDigitChars 10 (zeroPadded width n) m = 10 ^ width * m + n := by
  rw [Nat.ofDigitChars_eq_ofDigitChars_zero, zeroPadded_length hwidth h]
  unfold zeroPadded
  rw [Nat.ofDigitChars_append, Nat.ofDigitChars_replicate_zero, Nat.mul_zero, Nat.ofDigitChars_ten_toDigits]

/-! ## The whole text -/

/-- Whether a decimal is a zero with a minus sign. -/
def NegativeZero (d : Decimal) : Prop := d.negative = true ∧ d.mantissa = 0

instance (d : Decimal) : Decidable d.NegativeZero := inferInstanceAs (Decidable (_ ∧ _))

/-- The digits of a text without sign are read as mantissa and scale. -/
theorem readWhole_unsignedChars (hm : m < limit) (hscale : scale ≤ maxScale) :
    readWhole 0 false (unsignedChars m scale) = some (m, scale) := by
  have hwhole : ∀ c ∈ Nat.toDigits 10 (m / tenPow scale), c.isDigit = true := fun c hc =>
    Nat.isDigit_of_mem_toDigits (by decide) (by decide) hc
  have hvalue : Nat.ofDigitChars 10 (Nat.toDigits 10 (m / tenPow scale)) 0 = m / tenPow scale :=
    Nat.ofDigitChars_ten_toDigits
  have hfits : Nat.ofDigitChars 10 (Nat.toDigits 10 (m / tenPow scale)) 0 < limit := by
    rw [hvalue]
    exact Nat.lt_of_le_of_lt (Nat.div_le_self _ _) hm
  have hseen : (false || !(Nat.toDigits 10 (m / tenPow scale)).isEmpty) = true := by
    rw [Bool.false_or, Bool.not_eq_true', List.isEmpty_eq_false_iff]
    exact Nat.toDigits_ne_nil
  unfold unsignedChars
  rw [readWhole_digits hwhole hfits, hvalue, hseen]
  by_cases hzero : scale = 0
  · rw [if_pos hzero, hzero]
    show some (m / tenPow 0, 0) = _
    rw [show tenPow 0 = 1 from rfl, Nat.div_one]
  · -- the digits after the point complete the mantissa
    have hpos : 0 < scale := Nat.pos_of_ne_zero hzero
    have hlt : m % tenPow scale < 10 ^ scale := Nat.mod_lt _ (tenPow_pos scale)
    have hpow : 10 ^ scale = tenPow scale := rfl
    have hall : Nat.ofDigitChars 10 (zeroPadded scale (m % tenPow scale)) (m / tenPow scale) = m := by
      rw [ofDigitChars_zeroPadded hpos hlt, hpow, Nat.div_add_mod]
    rw [if_neg hzero]
    show readFraction (m / tenPow scale) 0 true (zeroPadded scale (m % tenPow scale)) = _
    rw [readFraction_digits (fun c hc => isDigit_of_mem_zeroPadded hc) (by rw [hall]; exact hm)
        (by rw [zeroPadded_length hpos hlt, Nat.zero_add]; exact hscale) fun _ => rfl,
      hall, zeroPadded_length hpos hlt, Nat.zero_add]

/-- A text without sign has nothing that could be one. -/
theorem splitSign_unsignedChars (m scale : Nat) :
    splitSign (unsignedChars m scale) = (false, unsignedChars m scale) := by
  unfold unsignedChars
  cases hdigits : Nat.toDigits 10 (m / tenPow scale) with
  | nil => exact absurd hdigits Nat.toDigits_ne_nil
  | cons c cs =>
    have hc : c.isDigit = true := by
      refine Nat.isDigit_of_mem_toDigits (by decide : 0 < 10) (by decide) (n := m / tenPow scale) ?_
      rw [hdigits]
      exact List.mem_cons_self
    rw [List.cons_append]
    unfold splitSign
    split
    · next heq =>
      cases heq
      cases hc
    · next heq =>
      cases heq
      cases hc
    · rfl

/-- **The text of a decimal is read digit for digit**, be it a price, a size or a fee. -/
theorem ofText?_toText {d : Decimal} (h : ¬ d.NegativeZero) : ofText? d.toText = some d := by
  have hread := readWhole_unsignedChars d.mantissa_lt d.scale_le
  have hsign : (d.negative && d.mantissa != 0) = d.negative := by
    cases hnegative : d.negative with
    | false => rfl
    | true =>
      have hne : d.mantissa ≠ 0 := fun hzero => h ⟨hnegative, hzero⟩
      simpa using hne
  have hparts : ofParts? d.negative d.mantissa d.scale = some d := dif_pos ⟨d.mantissa_lt, d.scale_le⟩
  have hplain : readPlain? d.toChars = some d := by
    unfold readPlain? toChars
    cases hnegative : d.negative with
    | false =>
      rw [if_neg Bool.false_ne_true, splitSign_unsignedChars]
      dsimp only
      rw [hread, Option.bind_some, Bool.false_and, ← hnegative, hparts]
    | true =>
      have hsplit : splitSign ('-' :: unsignedChars d.mantissa d.scale) = (true, unsignedChars d.mantissa d.scale) := rfl
      rw [if_pos rfl, hsplit]
      dsimp only
      rw [hread, Option.bind_some, ← hnegative, hsign, hparts]
  unfold ofText? ofChars? toText
  rw [String.toList_ofList, hplain]
  rfl

/-- All 28 places and all 96 bits come back. -/
example : ofText? (Decimal.toText ⟨true, limit - 1, 28, by decide, by decide⟩)
    = some ⟨true, limit - 1, 28, by decide, by decide⟩ :=
  ofText?_toText fun h => absurd h.2 (by decide)

end Decimal

end TwoVenue
