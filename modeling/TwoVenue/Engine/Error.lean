import TwoVenue.Market.Quote
import TwoVenue.Settings.Basic
import TwoVenue.Trade.Order

/-!
# Errors of the engine

An error of the engine is the error of one of its parts. Its message names the part, and its cause is the message of
the part itself.
-/

namespace TwoVenue

/-- Why a file cannot be read. -/
inductive FileError where
  | notFound
  | isDirectory
  | notText
  /-- Any other reason that the system gives. -/
  | other (reason : String)
deriving DecidableEq

/-- The text of an error. -/
def FileError.message : FileError → String
  | .notFound => "No such file or directory (os error 2)"
  | .isDirectory => "Is a directory (os error 21)"
  | .notText => "stream did not contain valid UTF-8"
  | .other reason => reason

/-- Why the engine stops. -/
inductive EngineError where
  | config (error : ConfigError)
  | quote (error : QuoteError)
  | trading (error : TradingError)
  /-- A file of books is not what it should be. -/
  | json
  | file (error : FileError)
deriving DecidableEq

namespace EngineError

/-- The text of an error. What is wrong with a file of books is not said. -/
def message : EngineError → String
  | .config e => "configuration error: " ++ e.message
  | .quote e => "quote error: " ++ e.message
  | .trading e => "trading error: " ++ e.message
  | .json => "json error"
  | .file e => "io error: " ++ e.message

/-- The text of the error of the part. -/
def cause? : EngineError → Option String
  | .config e => some e.message
  | .quote e => some e.message
  | .trading e => some e.message
  | .json => none
  | .file e => some e.message

end EngineError

end TwoVenue
