import TwoVenue.CommandLine.Service

/-!
# The executable

The outer layer: it reads the environment and files, prints, and waits. What is read and printed is decided by
`CommandLine.start`, `Program.finish?` and `Service.round`.
-/

namespace TwoVenue.Executable

open CommandLine

/-- The bytes of a file, or why there are none. -/
def readFile (path : String) : IO FileContents := do
  try
    return .ok (← IO.FS.readBinFile path)
  catch
    | .noFileOrDirectory .. => return .error .notFound
    | e => return .error (.other (toString e))

/-- The variables in the block that the system keeps of them: texts with an equals sign, each ended by a zero byte. -/
def parseVariables (block : ByteArray) : Variables :=
  let text := (String.fromUTF8? block).getD ""
  (text.split (· == '\x00')).toList.filterMap fun entry =>
    let cs := entry.toString.toList
    if cs.isEmpty then none
    else some (String.ofList (cs.takeWhile (· != '=')), String.ofList ((cs.dropWhile (· != '=')).drop 1))

/-- The variables of the process. Where the system shows no block of them, those with the names of settings. -/
def readVariables : IO Variables := do
  match ← readFile "/proc/self/environ" with
  | .ok block => return parseVariables block
  | .error _ =>
    let found ← Field.all.mapM fun f => do
      let name := f.name.toUpper
      return (← IO.getEnv name).map fun value => (name, value)
    return found.filterMap id

/-- The file of variables in this directory or, failing that, in the nearest one above it. -/
def readDotEnv (path : String) : Nat → IO (Option ByteArray)
  | 0 => return none
  | n + 1 => do
    match ← readFile path with
    | .ok bytes => return some bytes
    | .error _ => readDotEnv ("../" ++ path) n

/-- Prints the log lines of the events from `start` on. -/
def printLog (journal : Array Event) (start : Nat) : IO Unit := do
  for line in logLines .info (journal.toList.drop start) do
    let fields := line.fields.map fun (name, value) => " " ++ name ++ "=" ++ value
    IO.println (line.severity.text ++ " " ++ line.message ++ String.join fields)
  (← IO.getStdout).flush

/-- Repeats rounds until the process is stopped. -/
partial def serve (service : Service) (s : Session) : IO Unit := do
  let shown := s.engine.journal.size
  let s := Service.round service.intervalMs (← readFile service.booksPath) s
  printLog s.engine.journal shown
  IO.sleep service.intervalMs.toUInt32
  serve service s

/-- Prints what a program leaves. -/
def leave (e : Exit) : IO UInt32 := do
  IO.print e.stdout
  IO.eprint e.stderr
  return e.code.toUInt32

/-- Runs the program. -/
def run (args : List String) : IO UInt32 := do
  let depth := (← IO.currentDir).toString.toList.count '/'
  let config := Config.load (← readVariables) (← readDotEnv ".env" (depth + 1))
  match start config args with
  | .exit e => leave e
  | .optimize plan => leave (plan.finish (← readFile plan.booksPath))
  | .serve service =>
    serve service service.session
    return 0

end TwoVenue.Executable

/-- The program. -/
def main (args : List String) : IO UInt32 := TwoVenue.Executable.run args
