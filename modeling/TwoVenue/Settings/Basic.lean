import TwoVenue.Decimal.Reader
import TwoVenue.Market.Venue
import TwoVenue.Settings.Field
import TwoVenue.Settings.Integer
import TwoVenue.Text.Blank
import TwoVenue.Text.Quoted

/-!
# Settings

- `Config`: all settings, as they are read. Each has a default.
- `Settings`: what the search for opportunities needs of them. Its rules are part of the type, so whoever holds one
  knows that they are met.
- `Config.validate`: the settings of a configuration, or the first rule that it breaks.
-/

namespace TwoVenue

/-- The configuration of the engine. -/
structure Config where
  connector1 : String
  tradingPair1 : String
  connector2 : String
  tradingPair2 : String
  /-- The smallest amount of base asset that is considered. -/
  minOrderAmount : Decimal
  /-- The largest one. -/
  maxOrderAmount : Decimal
  /-- The profit, as a fraction, from which on orders are submitted. -/
  minProfitability : Decimal
  /-- How many amounts are considered in each direction. -/
  sweepSteps : UInt64
  /-- By which fraction a limit price on the first market may be worse than the quote. -/
  market1SlippageBuffer : Decimal
  /-- The same for the second market. -/
  market2SlippageBuffer : Decimal
  /-- Where the books are. -/
  booksPath : String
  cycleIntervalMs : UInt64
  /-- How long a simulated order takes to be filled. -/
  simFillDelayMs : UInt64
  /-- The balance of the base asset that each simulated venue starts with. -/
  simBaseBalance : Decimal
  /-- The same for the quote asset. -/
  simQuoteBalance : Decimal
  port : UInt16
  /-- Which log lines are shown. -/
  logFilter : String
  verbose : Bool
deriving DecidableEq

namespace Config

/-- What holds where nothing is set. -/
def default : Config where
  connector1 := "binance"
  tradingPair1 := "BTC-USDT"
  connector2 := "uniswap_v2"
  tradingPair2 := "WBTC-WETH"
  minOrderAmount := 0.01
  maxOrderAmount := 1.0
  minProfitability := 0.005
  sweepSteps := 20
  market1SlippageBuffer := 0.01
  market2SlippageBuffer := 0.01
  booksPath := "books.json"
  cycleIntervalMs := 1000
  simFillDelayMs := 0
  simBaseBalance := 10
  simQuoteBalance := 1000000
  port := 8080
  logFilter := "info"
  verbose := false

/-- The first market. -/
def market1 (c : Config) : Venue := ⟨c.connector1, c.tradingPair1⟩

/-- The second market. -/
def market2 (c : Config) : Venue := ⟨c.connector2, c.tradingPair2⟩

end Config

/-- Settings that have passed all checks. -/
structure Settings where
  market1 : Venue
  market2 : Venue
  minOrderAmount : Decimal
  maxOrderAmount : Decimal
  minProfitability : Decimal
  market1SlippageBuffer : Decimal
  market2SlippageBuffer : Decimal
  sweepSteps : UInt64
  /-- Every name has a character that is not white space. -/
  named : ∀ name ∈ [market1.connector, market1.tradingPair, market2.connector, market2.tradingPair],
    Text.isBlankText name = false
  markets_ne : market1 ≠ market2
  min_pos : 0 < minOrderAmount
  min_le_max : minOrderAmount ≤ maxOrderAmount
  two_le_steps : 2 ≤ sweepSteps
  profitability_nonneg : 0 ≤ minProfitability
  buffer1_nonneg : 0 ≤ market1SlippageBuffer
  buffer2_nonneg : 0 ≤ market2SlippageBuffer

namespace Settings

/-- The venue of a market. -/
def venue (s : Settings) : Market → Venue
  | .first => s.market1
  | .second => s.market2

/-- The buffer of orders on a connector. Every connector but the first market's has the second buffer. -/
def slippageBuffer (s : Settings) (connector : String) : Decimal :=
  if connector = s.market1.connector then s.market1SlippageBuffer else s.market2SlippageBuffer

end Settings

/-- Why the variables of the environment are no configuration. -/
inductive EnvironmentError where
  /-- A setting is given twice. -/
  | duplicateField (field : Field)
  /-- A number cannot be read. -/
  | badNumber (error : IntegerError) (value variableName : String)
  /-- A flag is neither `true` nor `false`. -/
  | badFlag (value variableName : String)
  /-- A decimal cannot be read. -/
  | notDecimal (value : String)
deriving DecidableEq

/-- Why a configuration cannot be used. -/
inductive ConfigError where
  | environment (error : EnvironmentError)
  | invertedRange (min max : Decimal)
  | nonPositiveAmount (field : Field) (value : Decimal)
  | negativeFraction (field : Field) (value : Decimal)
  | tooFewSteps (steps : UInt64)
  | sameMarket (market : Venue)
  | empty (field : Field)
deriving DecidableEq

namespace Config

/-- The rules about names, in order. -/
def checkNamed (c : Config) : Except ConfigError Unit :=
  if Text.isBlankText c.connector1 then .error (.empty .connector1)
  else if Text.isBlankText c.tradingPair1 then .error (.empty .tradingPair1)
  else if Text.isBlankText c.connector2 then .error (.empty .connector2)
  else if Text.isBlankText c.tradingPair2 then .error (.empty .tradingPair2)
  else .ok ()

theorem named_of_checkNamed {c : Config} (h : c.checkNamed = .ok ()) :
    ∀ name ∈ [c.connector1, c.tradingPair1, c.connector2, c.tradingPair2], Text.isBlankText name = false := by
  unfold checkNamed at h
  grind

/-- The settings of a configuration. -/
def validate (c : Config) : Except ConfigError Settings :=
  match named : c.checkNamed with
  | .error e => .error e
  | .ok () =>
    if markets : c.market1 = c.market2 then .error (.sameMarket c.market1)
    else if minPos : c.minOrderAmount ≤ 0 then .error (.nonPositiveAmount .minOrderAmount c.minOrderAmount)
    else if c.maxOrderAmount ≤ 0 then .error (.nonPositiveAmount .maxOrderAmount c.maxOrderAmount)
    else if range : c.maxOrderAmount < c.minOrderAmount then
      .error (.invertedRange c.minOrderAmount c.maxOrderAmount)
    else if steps : c.sweepSteps < 2 then .error (.tooFewSteps c.sweepSteps)
    else if profit : c.minProfitability < 0 then .error (.negativeFraction .minProfitability c.minProfitability)
    else if buffer1 : c.market1SlippageBuffer < 0 then
      .error (.negativeFraction .market1SlippageBuffer c.market1SlippageBuffer)
    else if buffer2 : c.market2SlippageBuffer < 0 then
      .error (.negativeFraction .market2SlippageBuffer c.market2SlippageBuffer)
    else
      .ok
        { market1 := c.market1
          market2 := c.market2
          minOrderAmount := c.minOrderAmount
          maxOrderAmount := c.maxOrderAmount
          minProfitability := c.minProfitability
          market1SlippageBuffer := c.market1SlippageBuffer
          market2SlippageBuffer := c.market2SlippageBuffer
          sweepSteps := c.sweepSteps
          named := named_of_checkNamed named
          markets_ne := markets
          min_pos := Decimal.not_le.1 minPos
          min_le_max := Decimal.not_lt.1 range
          two_le_steps := UInt64.not_lt.1 steps
          profitability_nonneg := Decimal.not_lt.1 profit
          buffer1_nonneg := Decimal.not_lt.1 buffer1
          buffer2_nonneg := Decimal.not_lt.1 buffer2 }

end Config

/-- How a message says which variable could not be read. -/
def EnvironmentError.unparsed (value variableName : String) : String :=
  " while parsing value '" ++ value ++ "' provided by " ++ variableName

/-- The text of an error. -/
def EnvironmentError.message : EnvironmentError → String
  | .duplicateField field => "duplicate field `" ++ field.name ++ "`"
  | .badNumber error value variableName => error.message ++ unparsed value variableName
  | .badFlag value variableName => "provided string was not `true` or `false`" ++ unparsed value variableName
  | .notDecimal value =>
    "invalid value: string " ++ Text.quoted value ++ ", expected a Decimal type representing a fixed-point number"

/-- The text of an error. -/
def ConfigError.message : ConfigError → String
  | .environment e => "failed to load environment: " ++ e.message
  | .invertedRange min max =>
    "min_order_amount " ++ min.toText ++ " is greater than max_order_amount " ++ max.toText
  | .nonPositiveAmount field value => field.name ++ " must be positive, got " ++ value.toText
  | .negativeFraction field value => field.name ++ " must not be negative, got " ++ value.toText
  | .tooFewSteps steps => "sweep_steps must be at least 2, got " ++ toString steps.toNat
  | .sameMarket market => "market_1 and market_2 must differ, both are " ++ market.text
  | .empty field => field.name ++ " must not be empty"

end TwoVenue
