import TwoVenue.Settings.Integer

/-!
# Arguments of the program

- `Request`: what the arguments ask for.
- `Command.options`: which options a command knows. The option for more log lines belongs to all of them.
- `Request.ofArguments?`: the request of a list of arguments, if they follow the rules: an option comes once, and one with
  a value has it after a blank or an equals sign or, if the option is short, at once.
-/

namespace TwoVenue

/-- The commands. -/
inductive Command where
  | run
  | checkConfig
  | optimize
  | help
deriving DecidableEq

/-- What a run of the engine is told. -/
structure RunOptions where
  books : Option String
  port : Option Nat
  intervalMs : Option Nat

/-- What the arguments ask for. -/
inductive Request where
  /-- The help text of a command, or of the program. -/
  | help (command : Option Command)
  | version
  | run (options : RunOptions)
  | checkConfig
  | optimize (books : Option String)

namespace CommandLine

/-- An option. -/
inductive OptionName where
  | verbose
  | help
  | version
  | books
  | port
  | intervalMs
deriving DecidableEq

namespace OptionName

/-- The long name of an option. -/
def long : OptionName → String
  | .verbose => "verbose"
  | .help => "help"
  | .version => "version"
  | .books => "books"
  | .port => "port"
  | .intervalMs => "interval-ms"

/-- The short name of an option. -/
def short? : OptionName → Option Char
  | .verbose => some 'v'
  | .help => some 'h'
  | .version => some 'V'
  | .port => some 'p'
  | .books | .intervalMs => none

/-- Whether an option has a value. -/
def takesValue : OptionName → Bool
  | .books | .port | .intervalMs => true
  | .verbose | .help | .version => false

/-- Whether a value can be read. -/
def accepts (o : OptionName) (value : String) : Bool :=
  match o with
  | .port => (readNatural UInt16.size value).isOk || isNegativeZero value
  | .intervalMs => (readNatural UInt64.size value).isOk
  | _ => true
where
  /-- Whether a text is zero with a minus sign, which counts as a number where a sign is read. -/
  isNegativeZero (value : String) : Bool :=
    match value.toList with
    | '-' :: digits => !digits.isEmpty && digits.all (· == '0')
    | _ => false

end OptionName

/-- The command of a name. -/
def command? (name : String) : Option Command :=
  if name = "run" then some .run
  else if name = "check-config" then some .checkConfig
  else if name = "optimize" then some .optimize
  else if name = "help" then some .help
  else none

/-- The options of a command, or of the program before any command. -/
def options : Option Command → List OptionName
  | none => [.verbose, .help, .version]
  | some .run => [.books, .verbose, .port, .intervalMs, .help]
  | some .checkConfig => [.verbose, .help]
  | some .optimize => [.books, .verbose, .help]
  | some .help => []

/-- The options that have been given. -/
abbrev Given := List (OptionName × String)

/-- How the reading of options ends early. -/
inductive Stop where
  /-- The arguments break a rule. -/
  | misuse
  /-- The help text is asked for. -/
  | help
  /-- The version is asked for. -/
  | version

/-- Takes an option with its value, which is empty if the option has none. -/
def give (given : Given) (o : OptionName) (value : String) : Except Stop Given :=
  match o with
  | .help => .error .help
  | .version => .error .version
  | _ =>
    if given.any (·.1 == o) then .error .misuse
    else if o.accepts value then .ok (given ++ [(o, value)])
    else .error .misuse

/-- A text without an equals sign in front. -/
def withoutEquals : List Char → List Char
  | '=' :: rest => rest
  | text => text

/-- Takes a cluster of short options. The result also has an option that still needs a value. -/
def giveShort (known : List OptionName) (given : Given) :
    List Char → Except Stop (Given × Option OptionName)
  | [] => .ok (given, none)
  | c :: rest =>
    match known.find? (·.short? == some c) with
    | none => .error .misuse
    | some o =>
      if o.takesValue then
        if rest.isEmpty then .ok (given, some o)
        else do
          let given ← give given o (String.ofList (withoutEquals rest))
          return (given, none)
      else do
        let given ← give given o ""
        giveShort known given rest

/-- Takes a long option, with or without an equals sign and a value. -/
def giveLong (known : List OptionName) (given : Given) (text : List Char) :
    Except Stop (Given × Option OptionName) :=
  let name := String.ofList (text.takeWhile (· != '='))
  match known.find? (·.long == name), text.dropWhile (· != '=') with
  | none, _ => .error .misuse
  | some o, [] =>
    if o.takesValue then .ok (given, some o)
    else do
      let given ← give given o ""
      return (given, none)
  | some o, _ :: value =>
    if o.takesValue then do
      let given ← give given o (String.ofList value)
      return (given, none)
    else .error .misuse

/-- Whether an argument begins like an option. -/
def looksLikeOption (arg : List Char) : Bool :=
  match arg with
  | ['-'] => false
  | '-' :: _ => true
  | _ => false

/-- Takes options up to the first argument that is none. The result has that argument and what follows it; after `--`
there may be nothing. `pending` is an option that needs the next argument as its value. -/
def giveAll (known : List OptionName) (given : Given) (pending : Option OptionName) :
    List String → Except Stop (Given × List String)
  | [] =>
    match pending with
    | some _ => .error .misuse
    | none => .ok (given, [])
  | arg :: rest =>
    match pending, arg.toList with
    -- a value that begins with a dash has to stand behind an equals sign
    | some o, cs =>
      if looksLikeOption cs then .error .misuse
      else do
        let given ← give given o arg
        giveAll known given none rest
    | none, ['-', '-'] => if rest.isEmpty then .ok (given, []) else .error .misuse
    | none, '-' :: '-' :: name => do
      let (given, pending) ← giveLong known given name
      giveAll known given pending rest
    | none, '-' :: c :: cluster => do
      let (given, pending) ← giveShort known given (c :: cluster)
      giveAll known given pending rest
    | none, _ => .ok (given, arg :: rest)

/-- The value of an option. -/
def Given.value? (given : Given) (o : OptionName) : Option String := given.lookup o

/-- The number that an option gives. -/
def Given.natural? (given : Given) (o : OptionName) : Option Nat :=
  (given.value? o).map fun value => (readNatural UInt64.size value).toOption.getD 0

/-- The request of a command with its options. -/
def requestOf (given : Given) : Command → Request
  | .run => .run ⟨given.value? .books, given.natural? .port, given.natural? .intervalMs⟩
  | .checkConfig => .checkConfig
  | .optimize => .optimize (given.value? .books)
  | .help => .help none

/-- The request that an early end stands for. -/
def requestOfStop (command : Option Command) : Stop → Option Request
  | .misuse => none
  | .help => some (.help command)
  | .version => some .version

/-- The request of the arguments after `help`: the name of at most one command. -/
def helpRequest? : List String → Option Request
  | [] => some (.help none)
  | [name] => (command? name).map fun c => .help (some c)
  | _ => none

end CommandLine

open CommandLine in
/-- What the arguments ask for, unless they break a rule. Without a command the engine runs. -/
def Request.ofArguments? (args : List String) : Option Request :=
  match giveAll (options none) [] none args with
  | .error stop => requestOfStop none stop
  | .ok (_, []) => some (.run ⟨none, none, none⟩)
  | .ok (_, name :: rest) =>
    match command? name with
    | none => none
    | some .help => helpRequest? rest
    | some c =>
      match giveAll (options (some c)) [] none rest with
      | .error stop => requestOfStop (some c) stop
      | .ok (given, []) => some (requestOf given c)
      | .ok (_, _ :: _) => none

end TwoVenue
