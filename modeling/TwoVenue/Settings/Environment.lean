import TwoVenue.Settings.Basic

/-!
# Settings from variables

Every setting has the name of a variable. Names are compared in lower case, variables with other names are ignored, and
a setting that has no variable keeps its default.

- `Field.assign`: the configuration in which a setting has the value that a text gives it.
- `Config.ofVariables`: the configuration of a list of variables. A setting given twice is an error, and the first bad
  variable in order decides about the error.
-/

namespace TwoVenue

/-- Variables with their values, in order. -/
abbrev Variables := List (String × String)

namespace Field

/-- Sets a decimal. -/
def setDecimal (value : String) (set : Decimal → Config) : Except EnvironmentError Config :=
  match Decimal.ofText? value with
  | some d => .ok (set d)
  | none => .error (.notDecimal value)

/-- Sets a number below `limit`. -/
def setNatural (limit : Nat) (variableName value : String) (set : Nat → Config) : Except EnvironmentError Config :=
  match readNatural limit value with
  | .ok n => .ok (set n)
  | .error e => .error (.badNumber e value variableName)

/-- The configuration in which a setting has the value that a variable gives it. -/
def assign (f : Field) (variableName value : String) (c : Config) : Except EnvironmentError Config :=
  match f with
  | .connector1 => .ok { c with connector1 := value }
  | .tradingPair1 => .ok { c with tradingPair1 := value }
  | .connector2 => .ok { c with connector2 := value }
  | .tradingPair2 => .ok { c with tradingPair2 := value }
  | .minOrderAmount => setDecimal value fun d => { c with minOrderAmount := d }
  | .maxOrderAmount => setDecimal value fun d => { c with maxOrderAmount := d }
  | .minProfitability => setDecimal value fun d => { c with minProfitability := d }
  | .sweepSteps => setNatural UInt64.size variableName value fun n => { c with sweepSteps := n.toUInt64 }
  | .market1SlippageBuffer => setDecimal value fun d => { c with market1SlippageBuffer := d }
  | .market2SlippageBuffer => setDecimal value fun d => { c with market2SlippageBuffer := d }
  | .booksPath => .ok { c with booksPath := value }
  | .cycleIntervalMs => setNatural UInt64.size variableName value fun n => { c with cycleIntervalMs := n.toUInt64 }
  | .simFillDelayMs => setNatural UInt64.size variableName value fun n => { c with simFillDelayMs := n.toUInt64 }
  | .simBaseBalance => setDecimal value fun d => { c with simBaseBalance := d }
  | .simQuoteBalance => setDecimal value fun d => { c with simQuoteBalance := d }
  | .port => setNatural UInt16.size variableName value fun n => { c with port := n.toUInt16 }
  | .logFilter => .ok { c with logFilter := value }
  | .verbose =>
    if value = "true" then .ok { c with verbose := true }
    else if value = "false" then .ok { c with verbose := false }
    else .error (.badFlag value variableName)

end Field

namespace Config

/-- Reads variables one after the other. `seen` holds the settings that have been given. -/
def readVariables (seen : List Field) (c : Config) : Variables → Except EnvironmentError Config
  | [] => .ok c
  | (name, value) :: rest =>
    match Field.ofVariable? name with
    | none => readVariables seen c rest
    | some f =>
      if f ∈ seen then .error (.duplicateField f)
      else do
        let c ← f.assign name value c
        readVariables (f :: seen) c rest

/-- The configuration that a list of variables gives. -/
def ofVariables (vars : Variables) : Except ConfigError Config :=
  match readVariables [] default vars with
  | .ok c => .ok c
  | .error e => .error (.environment e)

end Config

end TwoVenue
