import TwoVenue.CommandLine.Help
import TwoVenue.Engine.Basic
import TwoVenue.Settings.DotEnv

/-!
# The program

- `Exit`: what the program prints, and its exit code: 0 for success, 1 for an error, 2 for wrong arguments, and 101 for
  a fault.
- `checkConfig`: shows whether a configuration can be used.
- `Optimization`: one cycle without orders over the books of a file.
- `Service`: what a running engine needs.
- `start`: how far the program comes without reading the file of books, and `Program.finish` the rest.
-/

namespace TwoVenue

namespace CommandLine

/-- What a program leaves. -/
structure Exit where
  code : Nat
  stdout : String
  stderr : String

/-- Every line but the first moved to the right. -/
def indented (text : String) : String :=
  String.ofList (text.toList.flatMap fun c => if c = '\n' then ['\n', ' ', ' ', ' ', ' '] else [c])

namespace Exit

/-- Success. -/
def success (stdout : String) : Exit := ⟨0, stdout, ""⟩

/-- Wrong arguments. -/
def misuse : Exit := ⟨2, "", ""⟩

/-- A fault, after something was printed. -/
def crash (stdout : String) : Exit := ⟨101, stdout, ""⟩

/-- An error with its cause, after something was printed. -/
def failure (stdout message : String) (cause? : Option String) : Exit :=
  ⟨1, stdout, "Error: " ++ message ++
    match cause? with
    | some cause => "\n\nCaused by:\n    " ++ indented cause ++ "\n"
    | none => "\n"⟩

/-- An error of the configuration. Only one that comes from the environment has a cause. -/
def ofConfigError (e : ConfigError) : Exit :=
  failure "" e.message <|
    match e with
    | .environment e => some e.message
    | _ => none

/-- An error of the engine. -/
def ofEngineError (e : EngineError) : Exit :=
  match e with
  | .json => ⟨1, "", "Error: " ++ e.message⟩
  | e => failure "" e.message e.cause?

end Exit

/-! ## Checking the configuration -/

/-- A line of dashes or other characters. -/
def rule (c : Char) : String := String.ofList (List.replicate 70 c) ++ "\n"

/-- What is printed before the configuration is read. -/
def checkHeader : String := rule '=' ++ "AMM ARB - CONFIGURATION CHECK\n" ++ rule '=' ++ "Loading configuration... "

/-- The configuration for people. -/
def summary (c : Config) : String :=
  rule '-' ++ "Configuration Summary:\n" ++
    "  Market 1: " ++ c.market1.text ++ " (buffer " ++ c.market1SlippageBuffer.toText ++ ")\n" ++
    "  Market 2: " ++ c.market2.text ++ " (buffer " ++ c.market2SlippageBuffer.toText ++ ")\n" ++
    "  Order Amount: " ++ c.minOrderAmount.toText ++ " .. " ++ c.maxOrderAmount.toText ++ " in " ++
      toString c.sweepSteps.toNat ++ " steps\n" ++
    "  Min Profitability: " ++ c.minProfitability.toText ++ "\n" ++
    "  Books File: " ++ c.booksPath ++ "\n" ++
    "  Cycle Interval: " ++ toString c.cycleIntervalMs.toNat ++ "ms\n" ++
    rule '=' ++ "CONFIGURATION CHECK PASSED\n" ++ rule '='

/-- What is printed about a check that fails. -/
def failed (e : ConfigError) : String := "FAILED\n  Error: " ++ e.message ++ "\n"

/-- Shows whether a configuration can be used. -/
def checkConfig (config : Except ConfigError Config) : Exit :=
  match config with
  | .error e => .failure (checkHeader ++ failed e) "Configuration load failed" none
  | .ok c =>
    let loaded := checkHeader ++ "OK\nValidating configuration... "
    match c.validate with
    | .error e => .failure (loaded ++ failed e) "Configuration validation failed" none
    | .ok _ => .success (loaded ++ "OK\n" ++ summary c)

/-! ## One cycle -/

/-- An engine that waits for the books of a file. -/
structure Optimization where
  engine : Engine
  booksPath : String

/-- Prepares a cycle. -/
def Optimization.ofConfig (c : Config) (books : Option String) : Except ConfigError Optimization := do
  let engine ← Engine.build c
  return ⟨engine, books.getD c.booksPath⟩

/-- What is printed about an opportunity before its orders. -/
def candidatesHeader (s : Settings) (o : Opportunity) : String :=
  let verdict := if s.minProfitability ≤ o.profit then "would execute" else "below threshold"
  "\n# Candidates (" ++ verdict ++ ")\n"

/-- Prints the orders of an opportunity after something else. -/
def printCandidates (s : Settings) (printed : String) (o : Opportunity) : Exit :=
  let printed := printed ++ candidatesHeader s o
  match o.proposal.candidates s with
  | .error _ => .crash printed
  | .ok orders => .success (printed ++ String.join (orders.map StatusReport.orderLine))

/-- The cycle over the books of a file, which may have been read or not. -/
def Optimization.finish (p : Optimization) (file : FileContents) : Exit :=
  match p.engine.refresh file with
  | .error e => .ofEngineError e
  | .ok engine =>
    match Engine.evaluate.run.run engine with
    | (.error (.fault _), _) => .crash ""
    | (.error (.error e), _) => .ofEngineError e
    | (.ok best, engine) =>
      match (engine.report 0).outcome with
      | .error _ => .crash ""
      | .ok report =>
        let printed := report.text ++ "\n"
        match best with
        | none => .success printed
        | some o => printCandidates engine.settings printed o

/-! ## The whole program -/

/-- An engine that runs until it is stopped. -/
structure Service where
  engine : Engine
  config : Config
  booksPath : String
  intervalMs : Nat

/-- What the program does after its start. -/
inductive Program where
  | exit (exit : Exit)
  | optimize (plan : Optimization)
  | serve (service : Service)

/-- The engine of a run. -/
def Service.ofConfig (c : Config) (o : RunOptions) : Except ConfigError Service := do
  let engine ← Engine.build c
  return ⟨engine, c, o.books.getD c.booksPath, o.intervalMs.getD c.cycleIntervalMs.toNat⟩

/-- Goes on with a configuration, or reports its error. -/
def withConfig {α : Type} (config : Except ConfigError Config) (f : Config → Except ConfigError α)
    (g : α → Program) : Program :=
  match config >>= f with
  | .error e => .exit (.ofConfigError e)
  | .ok a => g a

/-- What a request leads to under a configuration. -/
def startRequest (config : Except ConfigError Config) : Request → Program
  | .help c => .exit (.success (helpText c))
  | .version => .exit (.success versionText)
  | .checkConfig => .exit (checkConfig config)
  | .optimize books => withConfig config (fun c => Optimization.ofConfig c books) .optimize
  | .run o => withConfig config (fun c => Service.ofConfig c o) .serve

/-- What the arguments lead to under a configuration. -/
def start (config : Except ConfigError Config) (args : List String) : Program :=
  match Request.ofArguments? args with
  | none => .exit .misuse
  | some r => startRequest config r

/-- What the program leaves, if it ends by itself. -/
def Program.finish? (files : String → FileContents) : Program → Option Exit
  | .exit e => some e
  | .optimize p => some (p.finish (files p.booksPath))
  | .serve _ => none

end CommandLine

end TwoVenue
