import TwoVenue.Proofs.Decimal.RoundTrip
import TwoVenue.Proofs.Sequence
import TwoVenue.Settings.DotEnv

/-!
# What variables say about a configuration

Variables are read one after the other, and each sets one field of the configuration. Here the whole is described at
once and without an order: which configurations a list of variables stands for.

- `Setting`: the value of a field, by its type. `Setting.text` writes it, and `Setting.ReadsFrom` says which texts stand
  for it. `Setting.readsFrom_text`: what is written is read.
- `Field.Names`: a variable is meant for a field, whatever the case of its letters.
- `Field.assign_eq_ok`: **all that one variable does**.
- `Config.ofVariables_eq_ok`: **a configuration is read from variables exactly if** no field is given twice, each given
  one is read from its text, and all others have their defaults.
- `Config.load_of_renders`: **a configuration survives its variables**, whichever defaults are left out, and in
  whatever order and case the names are written.
-/

namespace TwoVenue

/-! ## Fields and their values -/

/-- The value of a field. -/
inductive Setting where
  | string (value : String)
  | decimal (value : Decimal)
  | word (value : UInt64)
  | port (value : UInt16)
  | flag (value : Bool)

/-- The value that a configuration has for a field. -/
def Config.setting (c : Config) : Field → Setting
  | .connector1 => .string c.connector1
  | .tradingPair1 => .string c.tradingPair1
  | .connector2 => .string c.connector2
  | .tradingPair2 => .string c.tradingPair2
  | .minOrderAmount => .decimal c.minOrderAmount
  | .maxOrderAmount => .decimal c.maxOrderAmount
  | .minProfitability => .decimal c.minProfitability
  | .sweepSteps => .word c.sweepSteps
  | .market1SlippageBuffer => .decimal c.market1SlippageBuffer
  | .market2SlippageBuffer => .decimal c.market2SlippageBuffer
  | .booksPath => .string c.booksPath
  | .cycleIntervalMs => .word c.cycleIntervalMs
  | .simFillDelayMs => .word c.simFillDelayMs
  | .simBaseBalance => .decimal c.simBaseBalance
  | .simQuoteBalance => .decimal c.simQuoteBalance
  | .port => .port c.port
  | .logFilter => .string c.logFilter
  | .verbose => .flag c.verbose

/-- A configuration is what it has for each field. -/
theorem Config.eq_of_setting {c d : Config} (h : ∀ f, c.setting f = d.setting f) : c = d := by
  cases c
  cases d
  have := h .connector1
  have := h .tradingPair1
  have := h .connector2
  have := h .tradingPair2
  have := h .minOrderAmount
  have := h .maxOrderAmount
  have := h .minProfitability
  have := h .sweepSteps
  have := h .market1SlippageBuffer
  have := h .market2SlippageBuffer
  have := h .booksPath
  have := h .cycleIntervalMs
  have := h .simFillDelayMs
  have := h .simBaseBalance
  have := h .simQuoteBalance
  have := h .port
  have := h .logFilter
  have := h .verbose
  simp_all [setting]

namespace Setting

/-- The text that is written for a value. -/
def text : Setting → String
  | .string value => value
  | .decimal value => value.toText
  | .word value => toString value.toNat
  | .port value => toString value.toNat
  | .flag value => toString value

/-- Whether a value is read from a text. -/
def ReadsFrom (text : String) : Setting → Prop
  | .string value => value = text
  | .decimal value => Decimal.ofText? text = some value
  | .word value => readNatural UInt64.size text = .ok value.toNat
  | .port value => readNatural UInt16.size text = .ok value.toNat
  | .flag value => toString value = text

instance (text : String) : ∀ value : Setting, Decidable (value.ReadsFrom text)
  | .string value => inferInstanceAs (Decidable (value = text))
  | .decimal value => inferInstanceAs (Decidable (Decimal.ofText? text = some value))
  | .word value => inferInstanceAs (Decidable (readNatural UInt64.size text = .ok value.toNat))
  | .port value => inferInstanceAs (Decidable (readNatural UInt16.size text = .ok value.toNat))
  | .flag value => inferInstanceAs (Decidable (toString value = text))

/-- Whether a value is a zero with a minus sign, which no text stands for. -/
def NegativeZero : Setting → Prop
  | .decimal value => value.NegativeZero
  | .string _ | .word _ | .port _ | .flag _ => False

instance : ∀ value : Setting, Decidable value.NegativeZero
  | .decimal value => inferInstanceAs (Decidable value.NegativeZero)
  | .string _ | .word _ | .port _ | .flag _ => inferInstanceAs (Decidable False)

end Setting

/-! ## Numbers -/

theorem readDigits_digits {limit : Nat} {cs : List Char} (hdigits : ∀ c ∈ cs, c.isDigit = true) :
    ∀ {n}, Nat.ofDigitChars 10 cs n < limit → readDigits limit n cs = .ok (Nat.ofDigitChars 10 cs n) := by
  induction cs with
  | nil =>
    intro n _
    rfl
  | cons c cs ih =>
    intro n hfits
    rw [Nat.ofDigitChars_cons, Nat.mul_comm] at hfits ⊢
    have hstep : n * 10 + (c.toNat - '0'.toNat) < limit := Nat.lt_of_le_of_lt (ofDigitChars_ge cs _) hfits
    rw [readDigits, if_pos (hdigits c List.mem_cons_self)]
    dsimp only
    rw [if_pos hstep]
    exact ih (fun c hc => hdigits c (List.mem_cons_of_mem _ hc)) hfits

/-- **A number is read from its digits**, if it is below the limit. -/
theorem readNatural_toString {limit n : Nat} (h : n < limit) : readNatural limit (toString n) = .ok n := by
  have hread : readDigits limit 0 (Nat.toDigits 10 n) = .ok n := by
    have hdigits : ∀ c ∈ Nat.toDigits 10 n, c.isDigit = true := fun c hc =>
      Nat.isDigit_of_mem_toDigits (by decide) (by decide) hc
    rw [readDigits_digits hdigits (by rwa [Nat.ofDigitChars_ten_toDigits]), Nat.ofDigitChars_ten_toDigits]
  have hchars : (toString n).toList = Nat.toDigits 10 n := Nat.toList_repr
  unfold readNatural
  rw [hchars]
  split
  · next heq => exact absurd heq Nat.toDigits_ne_nil
  · next heq =>
    rw [heq] at hread
    cases hread
  · next digits _ heq =>
    rw [heq] at hread
    cases hread
  · exact hread

theorem readDigits_lt {limit : Nat} {cs : List Char} :
    ∀ {n m}, n < limit → readDigits limit n cs = .ok m → m < limit := by
  induction cs with
  | nil =>
    intro n m hn h
    cases h
    exact hn
  | cons c cs ih =>
    intro n m _ h
    rw [readDigits] at h
    split at h
    · dsimp only at h
      split at h
      · next hlt => exact ih hlt h
      · cases h
    · cases h

/-- What is read is below the limit. -/
theorem readNatural_lt {limit n : Nat} {text : String} (hlimit : 0 < limit) (h : readNatural limit text = .ok n) :
    n < limit := by
  unfold readNatural at h
  split at h
  · cases h
  · cases h
  · exact readDigits_lt hlimit h
  · exact readDigits_lt hlimit h

namespace Setting

variable {value other : Setting} {s : String}

/-- **Every value is read from the text that is written for it**, a zero with a minus sign apart. -/
theorem readsFrom_text (h : ¬ value.NegativeZero) : value.ReadsFrom value.text := by
  cases value with
  | string value => rfl
  | decimal value => exact Decimal.ofText?_toText h
  | word value => exact readNatural_toString value.toNat_lt_size
  | port value => exact readNatural_toString value.toNat_lt_size
  | flag value => rfl

end Setting

/-! ## One variable -/

namespace Field

variable {f g : Field} {name value : String} {c d : Config}

/-- Whether a variable is meant for a field. The case of its letters does not count. -/
def Names (f : Field) (name : String) : Prop := name.toList.map lower = f.name.toList

instance (f : Field) (name : String) : Decidable (f.Names name) := inferInstanceAs (Decidable (_ = _))

theorem mem_all (f : Field) : f ∈ all := by
  cases f <;> decide

/-- No two fields have one name. -/
theorem name_injective (h : f.name = g.name) : f = g :=
  List.inj_on_of_nodup_map (f := Field.name) (l := all) (by decide) (mem_all f) (mem_all g) h

theorem Names.unique (hf : f.Names name) (hg : g.Names name) : f = g :=
  name_injective (String.toList_injective (hf.symm.trans hg))

/-- The field that a variable is meant for is found. -/
theorem ofVariable?_eq_some : ofVariable? name = some f ↔ f.Names name := by
  have names_of_find : ∀ {g : Field}, ofVariable? name = some g → g.Names name := by
    intro g h
    have hequal := List.find?_some h
    exact (eq_of_beq hequal).symm
  constructor
  · exact names_of_find
  · intro h
    have hfound : (ofVariable? name).isSome := List.find?_isSome.2 ⟨f, mem_all f, beq_iff_eq.2 h.symm⟩
    obtain ⟨g, hg⟩ := Option.isSome_iff_exists.1 hfound
    rw [hg, (names_of_find hg).unique h]

theorem ofVariable?_eq_none : ofVariable? name = none ↔ ∀ f : Field, ¬ f.Names name := by
  simp only [Option.eq_none_iff_forall_ne_some, ne_eq, ofVariable?_eq_some]

/-- Characters that are each a letter of the name or its upper case. -/
def MixedCase (f : Field) (name : String) : Prop :=
  List.Forall₂ (fun c d => d = c ∨ d = c.toUpper) f.name.toList name.toList

theorem map_lower {cs ds : List Char} (h : List.Forall₂ (fun c d => d = c ∨ d = c.toUpper) cs ds)
    (hcs : ∀ c ∈ cs, lower c = c ∧ lower c.toUpper = c) : ds.map lower = cs := by
  induction h with
  | nil => rfl
  | cons hc _ ih =>
    have hsame := hcs _ List.mem_cons_self
    rw [List.map_cons, ih fun c hc => hcs c (List.mem_cons_of_mem _ hc)]
    rcases hc with rfl | rfl
    · rw [hsame.1]
    · rw [hsame.2]

/-- A name in any mix of upper and lower case is meant for the field. -/
theorem MixedCase.names (h : f.MixedCase name) : f.Names name :=
  map_lower h (List.forall_iff_forall_mem.1 (by cases f <;> decide))

theorem setDecimal_eq_ok {set : Decimal → Config} :
    setDecimal value set = .ok d ↔ ∃ x, Decimal.ofText? value = some x ∧ set x = d := by
  unfold setDecimal
  split <;> simp_all

theorem setNatural_eq_ok {limit : Nat} {set : Nat → Config} :
    setNatural limit name value set = .ok d ↔ ∃ n, readNatural limit value = .ok n ∧ set n = d := by
  unfold setNatural
  split <;> simp_all

/-- What a variable is read as stands in its field. -/
theorem readsFrom_of_assign (h : f.assign name value c = .ok d) : (d.setting f).ReadsFrom value := by
  have hword : ∀ {n}, readNatural UInt64.size value = .ok n →
      readNatural UInt64.size value = .ok n.toUInt64.toNat := fun hn => by
    rwa [UInt64.toNat_ofNat_of_lt' (readNatural_lt (by decide) hn)]
  have hport : ∀ {n}, readNatural UInt16.size value = .ok n →
      readNatural UInt16.size value = .ok n.toUInt16.toNat := fun hn => by
    rwa [UInt16.toNat_ofNat_of_lt' (readNatural_lt (by decide) hn)]
  cases f
  case connector1 | tradingPair1 | connector2 | tradingPair2 | booksPath | logFilter =>
    cases h
    rfl
  case minOrderAmount | maxOrderAmount | minProfitability | market1SlippageBuffer | market2SlippageBuffer
      | simBaseBalance | simQuoteBalance =>
    obtain ⟨x, hx, rfl⟩ := setDecimal_eq_ok.1 h
    exact hx
  case sweepSteps | cycleIntervalMs | simFillDelayMs =>
    obtain ⟨n, hn, rfl⟩ := setNatural_eq_ok.1 h
    exact hword hn
  case port =>
    obtain ⟨n, hn, rfl⟩ := setNatural_eq_ok.1 h
    exact hport hn
  case verbose =>
    rw [assign] at h
    split at h
    · next htrue =>
      cases h
      exact htrue.symm
    · split at h
      · next hfalse =>
        cases h
        exact hfalse.symm
      · cases h

/-- A variable leaves the other fields alone. -/
theorem setting_of_assign (h : f.assign name value c = .ok d) (hg : g ≠ f) : d.setting g = c.setting g := by
  cases f
  case connector1 | tradingPair1 | connector2 | tradingPair2 | booksPath | logFilter =>
    cases h
    cases g <;> first | rfl | exact absurd rfl hg
  case minOrderAmount | maxOrderAmount | minProfitability | market1SlippageBuffer | market2SlippageBuffer
      | simBaseBalance | simQuoteBalance =>
    obtain ⟨x, -, rfl⟩ := setDecimal_eq_ok.1 h
    cases g <;> first | rfl | exact absurd rfl hg
  case sweepSteps | cycleIntervalMs | simFillDelayMs | port =>
    obtain ⟨n, -, rfl⟩ := setNatural_eq_ok.1 h
    cases g <;> first | rfl | exact absurd rfl hg
  case verbose =>
    rw [assign] at h
    split at h
    · cases h
      cases g <;> first | rfl | exact absurd rfl hg
    · split at h
      · cases h
        cases g <;> first | rfl | exact absurd rfl hg
      · cases h

/-- A text that some value is read from is accepted, and that value is what the field gets. -/
theorem exists_assign (name : String) (c : Config) (h : (d.setting f).ReadsFrom value) :
    ∃ e, f.assign name value c = .ok e ∧ e.setting f = d.setting f := by
  cases f
  case connector1 | tradingPair1 | connector2 | tradingPair2 | booksPath | logFilter =>
    exact ⟨_, rfl, congrArg Setting.string h.symm⟩
  case minOrderAmount | maxOrderAmount | minProfitability | market1SlippageBuffer | market2SlippageBuffer
      | simBaseBalance | simQuoteBalance =>
    exact ⟨_, setDecimal_eq_ok.2 ⟨_, h, rfl⟩, rfl⟩
  case sweepSteps | cycleIntervalMs | simFillDelayMs =>
    exact ⟨_, setNatural_eq_ok.2 ⟨_, h, rfl⟩, congrArg Setting.word UInt64.ofNat_toNat⟩
  case port =>
    exact ⟨_, setNatural_eq_ok.2 ⟨_, h, rfl⟩, congrArg Setting.port UInt16.ofNat_toNat⟩
  case verbose =>
    change toString d.verbose = value at h
    subst h
    cases hd : d.verbose
    · exact ⟨_, rfl, congrArg Setting.flag hd.symm⟩
    · exact ⟨_, rfl, congrArg Setting.flag hd.symm⟩

/-- **All that one variable does**: its field is read from the text, and the others stay as they are. -/
theorem assign_eq_ok :
    f.assign name value c = .ok d ↔ (d.setting f).ReadsFrom value ∧ ∀ g ≠ f, d.setting g = c.setting g := by
  constructor
  · intro h
    exact ⟨readsFrom_of_assign h, fun g => setting_of_assign h⟩
  · rintro ⟨hread, hothers⟩
    obtain ⟨e, he, hfield⟩ := exists_assign name c hread
    have hsame : e = d := by
      refine Config.eq_of_setting fun g => ?_
      by_cases hg : g = f
      · rw [hg, hfield]
      · rw [setting_of_assign he hg, hothers g hg]
    rw [he, hsame]

end Field

/-! ## All variables -/

namespace Variables

/-- The fields that variables are meant for, in order. -/
def given (vars : Variables) : List Field := vars.filterMap fun v => Field.ofVariable? v.1

theorem mem_given {vars : Variables} {f : Field} : f ∈ vars.given ↔ ∃ v ∈ vars, f.Names v.1 := by
  simp only [given, List.mem_filterMap, Field.ofVariable?_eq_some]

theorem given_perm {vars others : Variables} (h : vars.Perm others) : vars.given.Perm others.given :=
  h.filterMap _

end Variables

namespace Config

variable {c d : Config} {vars : Variables}

/-- A variable that is not meant for any field is passed over. -/
theorem readVariables_unknown {seen : List Field} {name : String} (value : String) (h : Field.ofVariable? name = none) :
    readVariables seen c ((name, value) :: vars) = readVariables seen c vars := by
  rw [readVariables, h]

/-- A variable that is meant for a field is the first one, and sets it before the others are read. -/
theorem readVariables_known {seen : List Field} {name value : String} {f : Field} (h : Field.ofVariable? name = some f) :
    readVariables seen c ((name, value) :: vars) = .ok d ↔
      f ∉ seen ∧ ∃ e, f.assign name value c = .ok e ∧ readVariables (f :: seen) e vars = .ok d := by
  rw [readVariables, h]
  dsimp only
  by_cases hseen : f ∈ seen
  · rw [if_pos hseen]
    constructor
    · nofun
    · rintro ⟨hnew, -⟩
      exact absurd hseen hnew
  · rw [if_neg hseen, Outcome.bind_eq_ok]
    exact (and_iff_right hseen).symm

/-- What variables do to a configuration, if the fields in `seen` have been given already. -/
theorem readVariables_eq_ok {seen : List Field} :
    readVariables seen c vars = .ok d ↔
      vars.given.Nodup ∧ (∀ f ∈ vars.given, f ∉ seen) ∧
        (∀ v ∈ vars, ∀ f, f.Names v.1 → (d.setting f).ReadsFrom v.2) ∧
        ∀ f ∉ vars.given, d.setting f = c.setting f := by
  induction vars generalizing seen c with
  | nil =>
    constructor
    · intro h
      cases h
      exact ⟨List.nodup_nil, nofun, nofun, fun _ _ => rfl⟩
    · rintro ⟨-, -, -, hsame⟩
      exact congrArg Except.ok (eq_of_setting fun f => (hsame f List.not_mem_nil).symm)
  | cons v rest ih =>
    obtain ⟨name, value⟩ := v
    cases hname : Field.ofVariable? name with
    | none =>
      have hgiven : Variables.given ((name, value) :: rest) = Variables.given rest := List.filterMap_cons_none hname
      have hnone := Field.ofVariable?_eq_none.1 hname
      rw [readVariables_unknown value hname, ih, hgiven, List.forall_mem_cons]
      grind
    | some f =>
      have hgiven : Variables.given ((name, value) :: rest) = f :: Variables.given rest := List.filterMap_cons_some hname
      have hfield : ∀ g : Field, g.Names name ↔ g = f := fun g =>
        ⟨fun hg => hg.unique (Field.ofVariable?_eq_some.1 hname), fun hg => hg ▸ Field.ofVariable?_eq_some.1 hname⟩
      rw [readVariables_known hname, hgiven, List.nodup_cons, List.forall_mem_cons, List.forall_mem_cons]
      simp only [ih, hfield, forall_eq]
      constructor
      · rintro ⟨hseen, e, hassign, hnodup, hnew, hread, hsame⟩
        obtain ⟨hvalue, hothers⟩ := Field.assign_eq_ok.1 hassign
        have hfresh : f ∉ Variables.given rest := fun hf => hnew f hf List.mem_cons_self
        refine ⟨⟨hfresh, hnodup⟩, ⟨hseen, fun g hg hgs => hnew g hg (List.mem_cons_of_mem _ hgs)⟩,
          ⟨hsame f hfresh ▸ hvalue, hread⟩, fun g hg => ?_⟩
        rw [hsame g fun hmem => hg (List.mem_cons_of_mem _ hmem), hothers g fun heq => hg (heq ▸ List.mem_cons_self)]
      · rintro ⟨⟨hfresh, hnodup⟩, ⟨hseen, hnew⟩, ⟨hvalue, hread⟩, hsame⟩
        obtain ⟨e, hassign, hfieldValue⟩ := Field.exists_assign name c hvalue
        refine ⟨hseen, e, hassign, hnodup, fun g hg => ?_, hread, fun g hg => ?_⟩
        · rw [List.mem_cons, not_or]
          exact ⟨fun heq => hfresh (heq ▸ hg), hnew g hg⟩
        · by_cases heq : g = f
          · rw [heq, hfieldValue]
          · rw [Field.setting_of_assign hassign heq, hsame g (List.not_mem_cons_of_ne_of_not_mem heq hg)]

/-- **A configuration is read from variables exactly if** no field is given twice, each given one is read from its text,
and all others have their defaults. -/
theorem ofVariables_eq_ok :
    ofVariables vars = .ok c ↔
      vars.given.Nodup ∧ (∀ v ∈ vars, ∀ f, f.Names v.1 → (c.setting f).ReadsFrom v.2) ∧
        ∀ f ∉ vars.given, c.setting f = default.setting f := by
  have hread : ofVariables vars = .ok c ↔ readVariables [] default vars = .ok c := by
    unfold ofVariables
    split <;> simp_all
  rw [hread, readVariables_eq_ok]
  simp

/-! ## Rendering -/

/-- A rendering of a configuration: some fields, each as a name for it with the text of its value, and variables that
are not meant for any field. Only fields that have their defaults may be missing. -/
def Renders (c : Config) (vars : Variables) : Prop :=
  ∃ (written : List (Field × String)) (further : Variables),
    vars = written.map (fun w => (w.2, (c.setting w.1).text)) ++ further ∧
      (written.map (·.1)).Nodup ∧ (∀ w ∈ written, w.1.Names w.2) ∧
      (∀ v ∈ further, ∀ f : Field, ¬ f.Names v.1) ∧
      ∀ f ∉ written.map (·.1), c.setting f = default.setting f

theorem given_rendered {written : List (Field × String)} {further : Variables}
    (hnames : ∀ w ∈ written, w.1.Names w.2) (hfurther : ∀ v ∈ further, ∀ f : Field, ¬ f.Names v.1) :
    Variables.given (written.map (fun w => (w.2, (c.setting w.1).text)) ++ further) = written.map (·.1) := by
  have hnone : further.given = [] :=
    List.filterMap_eq_nil_iff.2 fun v hv => Field.ofVariable?_eq_none.2 (hfurther v hv)
  rw [Variables.given, List.filterMap_append, ← Variables.given, ← Variables.given, hnone, List.append_nil,
    Variables.given, List.filterMap_map, ← List.filterMap_eq_map]
  exact List.filterMap_congr fun w hw => Field.ofVariable?_eq_some.2 (hnames w hw)

/-- **A configuration survives its variables.** Whichever defaults are left out, in whatever case the names are written,
whatever else is set, and in whatever order all of it stands: what is loaded is the configuration, up to the digits and
places of its decimals. A zero with a minus sign is excepted, since it is written as one without. -/
theorem load_of_renders (hzero : ∀ f, ¬ (c.setting f).NegativeZero) (h : c.Renders vars) {order : Variables}
    (horder : order.Perm vars) : Config.load order none = .ok c := by
  obtain ⟨written, further, rfl, hnodup, hnames, hfurther, hdefaults⟩ := h
  have hgiven := given_rendered (c := c) hnames hfurther
  have hperm : (Variables.given order).Perm (written.map (·.1)) := by
    rw [← hgiven]
    exact Variables.given_perm horder
  refine ofVariables_eq_ok.2 ⟨hperm.nodup_iff.2 hnodup, fun v hv f hf => ?_, fun f hf => ?_⟩
  · rcases List.mem_append.1 (horder.mem_iff.1 hv) with hv | hv
    · obtain ⟨w, hw, rfl⟩ := List.mem_map.1 hv
      rw [hf.unique (hnames w hw)]
      exact Setting.readsFrom_text (hzero w.1)
    · exact absurd hf (hfurther v hv f)
  · exact hdefaults f fun hmem => hf (hperm.mem_iff.2 hmem)

/-- A configuration with a blank name, the largest mantissa with the most places, a decimal with a final zero, and the
largest numbers. -/
def farFromDefault : Config :=
  { default with
    tradingPair1 := " "
    maxOrderAmount := ⟨true, 79228162514264337593543950335, 28, by decide, Nat.le_refl Decimal.maxScale⟩
    minProfitability := 0.0050
    sweepSteps := 18446744073709551615
    port := 65535
    verbose := true }

/-- Its variables, with names in mixed case. -/
def farFromDefaultNames : List (Field × String) :=
  [(.port, "pOrT"), (.verbose, "verbose"), (.maxOrderAmount, "Max_Order_Amount"), (.sweepSteps, "SWEEP_STEPS"),
    (.minProfitability, "MIN_PROFITABILITY"), (.tradingPair1, "TRADING_pair_1"), (.booksPath, "BOOKS_PATH")]

/-- Some variables are set to the default, others are left out, one is unknown, and all are in the order of their
values. -/
theorem load_of_renders_mixedCase :
    Config.load [("SWEEP_STEPS", "18446744073709551615"), ("TRADING_pair_1", " "), ("pOrT", "65535"),
      ("Max_Order_Amount", "-7.9228162514264337593543950335"), ("MIN_PROFITABILITY", "0.0050"), ("HOME", "1"),
      ("BOOKS_PATH", "books.json"), ("verbose", "true")] none = .ok farFromDefault := by
  have hzero : ∀ f, ¬ (farFromDefault.setting f).NegativeZero := by
    intro f
    cases f <;> decide
  have hrenders : farFromDefault.Renders
      (farFromDefaultNames.map (fun w => (w.2, (farFromDefault.setting w.1).text)) ++ [("HOME", "1")]) := by
    refine ⟨_, _, rfl, by decide, by decide, ?_, ?_⟩
    · intro v hv f
      rw [List.mem_singleton.1 hv]
      cases f <;> decide
    · intro f hf
      cases f <;> first | rfl | exact absurd (by decide) hf
  refine load_of_renders hzero hrenders ?_
  decide

end Config

end TwoVenue
