/-!
# The names of settings

- `Field`: one constructor for every setting.
- `Field.name`: its name in files and messages.
- `Field.ofVariable?`: the setting that a variable is for, whatever the case of its letters.
-/

namespace TwoVenue

/-- A setting. -/
inductive Field where
  | connector1 | tradingPair1 | connector2 | tradingPair2
  | minOrderAmount | maxOrderAmount | minProfitability | sweepSteps
  | market1SlippageBuffer | market2SlippageBuffer
  | booksPath | cycleIntervalMs | simFillDelayMs | simBaseBalance | simQuoteBalance
  | port | logFilter | verbose
deriving DecidableEq

namespace Field

/-- All settings. -/
def all : List Field :=
  [.connector1, .tradingPair1, .connector2, .tradingPair2, .minOrderAmount, .maxOrderAmount, .minProfitability,
   .sweepSteps, .market1SlippageBuffer, .market2SlippageBuffer, .booksPath, .cycleIntervalMs, .simFillDelayMs,
   .simBaseBalance, .simQuoteBalance, .port, .logFilter, .verbose]

/-- The name of a setting in lower case. -/
def name : Field → String
  | .connector1 => "connector_1"
  | .tradingPair1 => "trading_pair_1"
  | .connector2 => "connector_2"
  | .tradingPair2 => "trading_pair_2"
  | .minOrderAmount => "min_order_amount"
  | .maxOrderAmount => "max_order_amount"
  | .minProfitability => "min_profitability"
  | .sweepSteps => "sweep_steps"
  | .market1SlippageBuffer => "market_1_slippage_buffer"
  | .market2SlippageBuffer => "market_2_slippage_buffer"
  | .booksPath => "books_path"
  | .cycleIntervalMs => "cycle_interval_ms"
  | .simFillDelayMs => "sim_fill_delay_ms"
  | .simBaseBalance => "sim_base_balance"
  | .simQuoteBalance => "sim_quote_balance"
  | .port => "port"
  | .logFilter => "rust_log"
  | .verbose => "verbose"

/-- The lower case of a character, as far as the names of settings can have it: letters of ASCII and the Kelvin sign,
whose lower case is `k`. -/
def lower (c : Char) : Char := if c = '\u212a' then 'k' else c.toLower

/-- The setting that a variable is for. -/
def ofVariable? (variableName : String) : Option Field :=
  let lowered := variableName.toList.map lower
  all.find? fun f => f.name.toList == lowered

end Field

end TwoVenue
