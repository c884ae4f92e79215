import TwoVenue.CommandLine.Request
import TwoVenue.Text.Column

/-!
# Help texts

A help text says what a command does, how it is called, and which commands and options it knows.
-/

namespace TwoVenue

namespace CommandLine

/-- The name of the program. -/
def programName : String := "amm-arb"

/-- What is printed for the version. -/
def versionText : String := programName ++ " 0.1.0\n"

/-- The name of a command. -/
def commandName : Command → String
  | .run => "run"
  | .checkConfig => "check-config"
  | .optimize => "optimize"
  | .help => "help"

/-- What a command does, and what the program does. -/
def about : Option Command → String
  | none => "Sizes and executes arbitrage between two trading venues"
  | some .run => "Run the decision loop with the HTTP server (default)"
  | some .checkConfig => "Check configuration validity"
  | some .optimize => "Run a single cycle against a snapshot and print the result without trading"
  | some .help => "Print this message or the help of the given subcommand(s)"

/-- What an option of a command does. -/
def optionAbout (c : Option Command) : OptionName → String
  | .verbose => "Enable verbose logging"
  | .help => "Print help"
  | .version => "Print version"
  | .books =>
    if c = some .run then "Order book snapshot file, re-read every cycle" else "Order book snapshot file"
  | .port => "HTTP server port for health/status/metrics"
  | .intervalMs => "Milliseconds between cycles"

/-- The name of the value of an option. -/
def valueName? : OptionName → Option String
  | .books => some "BOOKS"
  | .port => some "PORT"
  | .intervalMs => some "INTERVAL_MS"
  | _ => none

/-- How an option is written. -/
def optionForm (o : OptionName) : String :=
  (match o.short? with
    | some c => String.ofList ['-', c, ',', ' ']
    | none => "    ") ++
  "--" ++ o.long ++
  match valueName? o with
    | some value => " <" ++ value ++ ">"
    | none => ""

/-- Two columns, the first as wide as its widest entry. -/
def columns (rows : List (String × String)) : String :=
  let width := rows.foldl (fun n row => max n row.1.length) 0
  String.join (rows.map fun (form, text) => "  " ++ Text.left width form ++ "  " ++ text ++ "\n")

/-- The line that shows how a command is called. -/
def usageLine : Option Command → String
  | none => "Usage: " ++ programName ++ " [OPTIONS] [COMMAND]\n"
  | some .help => "Usage: " ++ programName ++ " help [COMMAND]...\n"
  | some c => "Usage: " ++ programName ++ " " ++ commandName c ++ " [OPTIONS]\n"

/-- The table of the commands. -/
def commandTable : String :=
  "\nCommands:\n" ++ columns
    ([Command.run, .checkConfig, .optimize, .help].map fun c => (commandName c, about (some c)))

/-- The table of the options of a command. -/
def optionTable (c : Option Command) : String :=
  "\nOptions:\n" ++ columns ((options c).map fun o => (optionForm o, optionAbout c o))

/-- The help text of a command, or of the program. -/
def helpText (c : Option Command) : String :=
  about c ++ "\n\n" ++ usageLine c ++
    match c with
    | none => commandTable ++ optionTable none
    | some .help => "\nArguments:\n" ++ columns [("[COMMAND]...", "Print help for the subcommand(s)")]
    | c => optionTable c

end CommandLine

end TwoVenue
