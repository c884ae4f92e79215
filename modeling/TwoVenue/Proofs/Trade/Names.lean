import Mathlib.Data.Nat.Log
import Mathlib.Data.String.Basic
import TwoVenue.Trade.Executor

/-!
# The order of names

The name of an order ends with its number, and names are compared as texts: character by character, so that `dry-10`
stands before `dry-9`.

- `toDigits_lt_iff_of_log_eq`: numbers with as many digits are in the order of their digits.
- `toDigits_split`: the first digits of a number are those of a smaller one.
- `orderId_injective`: different numbers give different names.
- `orderId_lt_iff`: **two names are in the order of their numbers** exactly if the smaller number is not above the first
  digits of the larger one.
-/

namespace TwoVenue

/-! ## Texts that begin alike -/

/-- Texts are compared by their first characters, and by the others if these are the same. -/
theorem lt_append_iff_of_length_eq {s t s' t' : List Char} (h : s.length = t.length) :
    s ++ s' < t ++ t' ↔ s < t ∨ s = t ∧ s' < t' := by
  induction s generalizing t with
  | nil =>
    rw [List.eq_nil_of_length_eq_zero h.symm]
    simp
  | cons c s ih =>
    cases t with
    | nil => cases h
    | cons d t =>
      rw [List.cons_append, List.cons_append, List.cons_lt_cons_iff, List.cons_lt_cons_iff, ih (Nat.succ.inj h),
        List.cons.injEq]
      tauto

/-! ## Digits -/

theorem digitChar_lt_iff {m n : Nat} (hm : m < 10) (hn : n < 10) : m.digitChar < n.digitChar ↔ m < n := by
  have hchars : m.digitChar < n.digitChar ↔ m.digitChar.toNat < n.digitChar.toNat := Iff.rfl
  rw [hchars, Nat.toNat_digitChar_of_lt_ten hm, Nat.toNat_digitChar_of_lt_ten hn]
  omega

/-- The last digit of a number with several digits. -/
theorem toDigits_ten_of_le {n : Nat} (h : 10 ≤ n) :
    Nat.toDigits 10 n = Nat.toDigits 10 (n / 10) ++ [(n % 10).digitChar] := by
  rw [Nat.toDigits_eq_if (by decide), if_neg (Nat.not_lt.2 h)]

theorem length_toDigits_ten (n : Nat) : (Nat.toDigits 10 n).length = Nat.log 10 n + 1 := by
  induction n using Nat.strongRecOn with
  | ind n ih =>
    by_cases h : n < 10
    · rw [Nat.toDigits_of_lt_base h, Nat.log_of_lt h]
      rfl
    · have hlt : n / 10 < n := by omega
      rw [toDigits_ten_of_le (Nat.not_lt.1 h), List.length_append, ih _ hlt,
        Nat.log_of_one_lt_of_le (by decide) (Nat.not_lt.1 h)]
      rfl

theorem toDigits_ten_inj {m n : Nat} : Nat.toDigits 10 m = Nat.toDigits 10 n ↔ m = n := by
  refine ⟨fun h => ?_, fun h => h ▸ rfl⟩
  rw [← @Nat.ofDigitChars_ten_toDigits m, h, Nat.ofDigitChars_ten_toDigits]

/-- **Numbers with as many digits are in the order of their digits.** -/
theorem toDigits_lt_iff_of_log_eq {m n : Nat} (h : Nat.log 10 m = Nat.log 10 n) :
    Nat.toDigits 10 m < Nat.toDigits 10 n ↔ m < n := by
  induction m using Nat.strongRecOn generalizing n with
  | ind m ih =>
    by_cases hm : m < 10
    · have hn : n < 10 := by
        rw [Nat.log_of_lt hm, eq_comm, Nat.log_eq_zero_iff] at h
        omega
      rw [Nat.toDigits_of_lt_base hm, Nat.toDigits_of_lt_base hn, List.cons_lt_cons_iff, digitChar_lt_iff hm hn]
      simp
    · have hn : ¬ n < 10 := by
        intro hn
        rw [Nat.log_of_lt hn, Nat.log_eq_zero_iff] at h
        omega
      have hlog : Nat.log 10 (m / 10) = Nat.log 10 (n / 10) := by
        rw [Nat.log_div_base, Nat.log_div_base, h]
      have hlength : (Nat.toDigits 10 (m / 10)).length = (Nat.toDigits 10 (n / 10)).length := by
        rw [length_toDigits_ten, length_toDigits_ten, hlog]
      have hlast : [(m % 10).digitChar] < [(n % 10).digitChar] ↔ m % 10 < n % 10 := by
        rw [List.cons_lt_cons_iff, digitChar_lt_iff (Nat.mod_lt _ (by decide)) (Nat.mod_lt _ (by decide))]
        simp
      rw [toDigits_ten_of_le (Nat.not_lt.1 hm), toDigits_ten_of_le (Nat.not_lt.1 hn),
        lt_append_iff_of_length_eq hlength, ih (m / 10) (by omega) hlog, toDigits_ten_inj, hlast]
      omega

/-- The first digits of a number, without the last `d` ones. -/
theorem toDigits_split (n : Nat) : ∀ d ≤ Nat.log 10 n, ∃ last : List Char, last.length = d ∧
    Nat.toDigits 10 n = Nat.toDigits 10 (n / 10 ^ d) ++ last := by
  intro d
  induction d with
  | zero => exact fun _ => ⟨[], rfl, by rw [Nat.pow_zero, Nat.div_one, List.append_nil]⟩
  | succ d ih =>
    intro hd
    obtain ⟨last, hlength, hsplit⟩ := ih (Nat.le_of_succ_le hd)
    have hlong : 10 ≤ n / 10 ^ d := by
      by_contra hshort
      have hlog := Nat.log_div_base_pow 10 n d
      rw [Nat.log_of_lt (Nat.not_le.1 hshort)] at hlog
      omega
    refine ⟨(n / 10 ^ d % 10).digitChar :: last, by rw [List.length_cons, hlength], ?_⟩
    rw [hsplit, toDigits_ten_of_le hlong, Nat.pow_succ, Nat.div_div_eq_div_mul, List.append_assoc]
    rfl

/-- Digits are compared as a text: a number stands before a larger one if it is not above what remains of that after the
digits that it has in excess are cut off. -/
theorem toDigits_lt_iff {m n : Nat} (h : m < n) :
    Nat.toDigits 10 m < Nat.toDigits 10 n ↔ m ≤ n / 10 ^ (Nat.log 10 n - Nat.log 10 m) := by
  have hmono : Nat.log 10 m ≤ Nat.log 10 n := Nat.log_mono_right h.le
  obtain ⟨last, hlast, hsplit⟩ := toDigits_split n (Nat.log 10 n - Nat.log 10 m) (Nat.sub_le _ _)
  generalize hd : Nat.log 10 n - Nat.log 10 m = d at hlast hsplit ⊢
  have hlog : Nat.log 10 m = Nat.log 10 (n / 10 ^ d) := by
    rw [Nat.log_div_base_pow]
    omega
  have hlength : (Nat.toDigits 10 m).length = (Nat.toDigits 10 (n / 10 ^ d)).length := by
    rw [length_toDigits_ten, length_toDigits_ten, hlog]
  rw [hsplit, ← List.append_nil (Nat.toDigits 10 m), lt_append_iff_of_length_eq hlength, toDigits_lt_iff_of_log_eq hlog,
    toDigits_ten_inj]
  cases last with
  | nil =>
    -- no digit is cut off, so the larger number is compared as a whole
    cases hlast
    simp [h, h.le]
  | cons c last =>
    simp only [List.nil_lt_cons, and_true]
    exact Nat.le_iff_lt_or_eq.symm

/-! ## Names -/

/-- A name is a fixed text and the digits of a number. -/
theorem orderId_toList (n : Nat) : (orderId n).toList = "dry-".toList ++ Nat.toDigits 10 n := by
  unfold orderId
  rw [String.toList_append, Nat.toString_eq_ofList_toDigits]
  exact congrArg _ String.toList_ofList

/-- Orders with different numbers have different names. -/
theorem orderId_injective {m n : Nat} (h : orderId m = orderId n) : m = n := by
  have hchars := congrArg String.toList h
  rw [orderId_toList, orderId_toList] at hchars
  exact toDigits_ten_inj.1 (List.append_cancel_left hchars)

/-- **Two names are in the order of their numbers** exactly if the smaller number is not above the first digits of the
larger one. -/
theorem orderId_lt_iff {m n : Nat} (h : m < n) :
    orderId m < orderId n ↔ m ≤ n / 10 ^ (Nat.log 10 n - Nat.log 10 m) := by
  rw [String.lt_iff_toList_lt, orderId_toList, orderId_toList, lt_append_iff_of_length_eq rfl, toDigits_lt_iff h]
  simp

example : orderId 10 < orderId 9 := by decide +kernel

end TwoVenue
