import TwoVenue.Settings.Environment
import TwoVenue.Text.Alphanumeric

/-!
# Files of variables

A file of lines `NAME=VALUE` adds variables to an environment. Variables that are set already win, also over later lines
of the same file. Reading stops at the first line that is malformed, and the lines before it stay.

- `LineState`: whether a line goes on after its end, because a quote is open or a blank or a backslash came last.
- `Value.read`: the value of an assignment, with quotes, escapes and `$NAME` for other variables.
- `assignment`: what a line does.
- `Variables.load`: the environment after a file.
-/

namespace TwoVenue

namespace Variables

/-- The value of a variable. -/
def get? (vars : Variables) (name : String) : Option String := vars.lookup name

/-- Sets a variable that has no value yet. -/
def setDefault (vars : Variables) (name value : String) : Variables :=
  if (vars.get? name).isSome then vars else vars ++ [(name, value)]

/-- Sets a variable. -/
def set (vars : Variables) (name value : String) : Variables :=
  if (vars.get? name).isSome then vars.map fun e => if e.1 == name then (name, value) else e
  else vars ++ [(name, value)]

end Variables

namespace DotEnv

/-! ## Where a line ends -/

/-- What the characters of a line so far leave open. -/
inductive LineState where
  | complete
  | escape
  | blank
  | strong
  | strongEscape
  | weak
  | weakEscape
deriving DecidableEq

/-- The state that a character opens outside of quotes. -/
def LineState.opened : Char → LineState
  | '\\' => .escape
  | '"' => .weak
  | '\'' => .strong
  | _ => .complete

/-- The state after one more character; a comment begins where there is none. -/
def LineState.step (s : LineState) (c : Char) : Option LineState :=
  match s with
  | .complete => some (if Text.isBlank c && c != '\n' && c != '\r' then .blank else .opened c)
  | .blank => if c = '#' then none else some (.opened c)
  | .escape => some .complete
  | .weak => some (if c = '\\' then .weakEscape else if c = '"' then .complete else .weak)
  | .weakEscape => some .weak
  | .strong => some (if c = '\\' then .strongEscape else if c = '\'' then .complete else .strong)
  | .strongEscape => some .strong

/-- How a physical line ends. -/
inductive LineEnd where
  /-- In a state. -/
  | state (state : LineState)
  /-- In a comment, before which these characters stand. -/
  | comment (kept : List Char)

/-- How a physical line ends that begins in a state. `passed` holds the characters before, the last one first. -/
def lineEnd (s : LineState) (passed : List Char) : List Char → LineEnd
  | [] => .state s
  | c :: rest =>
    match s.step c with
    | some s => lineEnd s (c :: passed) rest
    | none => .comment passed.reverse

/-- Without the line feed at the end, and without a carriage return before it. -/
def withoutBreak (line : List Char) : List Char :=
  match line.reverse with
  | '\n' :: '\r' :: rest => rest.reverse
  | '\n' :: rest => rest.reverse
  | _ => line

/-- What a physical line adds to the ones before it. -/
inductive Joined where
  /-- The line is finished. -/
  | finished (line : List Char)
  /-- The next physical line belongs to it. -/
  | more (buffer : List Char) (state : LineState)

/-- Appends a physical line. A line that begins with `#` is empty. -/
def join (buffer : List Char) (s : LineState) (physical : List Char) : Joined :=
  let all := buffer ++ physical
  if (Text.trimStart all).head? = some '#' then .finished []
  else
    match lineEnd s [] physical with
    | .comment kept => .finished (buffer ++ kept)
    | .state .complete => .finished (withoutBreak all)
    | .state s => .more all s

/-! ## Values -/

/-- Where in a value the reader is. `weak` says whether it is between double quotes. -/
inductive ValueMode where
  | plain
  | weak
  | strong
  | escape (weak : Bool)
  /-- In the name of a variable. -/
  | name (weak : Bool) (name : List Char)
  /-- In the name of a variable between braces. -/
  | braced (weak : Bool) (name : List Char)
  /-- After a blank, when nothing but a comment may follow. -/
  | ending

/-- Outside of any escape or name. -/
def ValueMode.base (weak : Bool) : ValueMode := if weak then .weak else .plain

/-- The character that a backslash and `c` stand for. -/
def escaped? (c : Char) : Option Char :=
  if c = 'n' then some '\n'
  else if c = '\\' ∨ c = '\'' ∨ c = '"' ∨ c = '$' ∨ c = ' ' then some c
  else none

/-- Reads a value. `look` gives the values of other variables, `found` holds the characters so far, the last one first,
and names are kept in that way, too. -/
def readValue (look : String → String) (found : List Char) : ValueMode → List Char → Option (List Char)
  | .plain, [] => some found.reverse
  | .ending, [] => some found.reverse
  | .escape false, [] => some found.reverse
  | .name false name, [] => some (found.reverse ++ (look (String.ofList name.reverse)).toList)
  | _, [] => none
  | .ending, c :: rest =>
    if c = ' ' ∨ c = '\t' then readValue look found .ending rest
    else if c = '#' then some found.reverse
    else none
  | .escape weak, c :: rest =>
    match escaped? c with
    | some d => readValue look (d :: found) (.base weak) rest
    | none => none
  | .strong, c :: rest =>
    if c = '\'' then readValue look found .plain rest else readValue look (c :: found) .strong rest
  | .name weak name, c :: rest =>
    if Text.isAlphanumeric c then readValue look found (.name weak (c :: name)) rest
    -- braces only count right after the dollar sign
    else if c = '\x7b' ∧ name = [] then readValue look found (.braced weak []) rest
    else
      let found := (look (String.ofList name.reverse)).toList.reverse ++ found
      if c = '$' then readValue look found (.name weak []) rest
      else readValue look (c :: found) (.base weak) rest
  | .braced weak name, c :: rest =>
    if c = '\x7d' then
      readValue look ((look (String.ofList name.reverse)).toList.reverse ++ found) (.base weak) rest
    else readValue look found (.braced weak (c :: name)) rest
  | .weak, c :: rest =>
    if c = '$' then readValue look found (.name true []) rest
    else if c = '"' then readValue look found .plain rest
    else if c = '\\' then readValue look found (.escape true) rest
    else readValue look (c :: found) .weak rest
  | .plain, c :: rest =>
    if c = '$' then readValue look found (.name false []) rest
    else if c = '\'' then readValue look found .strong rest
    else if c = '"' then readValue look found .weak rest
    else if c = '\\' then readValue look found (.escape false) rest
    else if c = ' ' ∨ c = '\t' then readValue look found .ending rest
    else readValue look (c :: found) .plain rest

/-! ## Lines -/

/-- What a line does. -/
inductive Assignment where
  | nothing
  | assign (name value : String)

/-- Whether a name may begin with `c`. -/
def isNameStart (c : Char) : Bool := c.isAlpha || c == '_'

/-- Whether `c` may stand in a name. -/
def isNameChar (c : Char) : Bool := c.isAlphanum || c == '_' || c == '.'

/-- A name at the start of a text, and the rest without white space in front. -/
def readName? (line : List Char) : Option (List Char × List Char) :=
  match line with
  | c :: _ =>
    if isNameStart c then some (line.takeWhile isNameChar, Text.trimStart (line.dropWhile isNameChar)) else none
  | [] => none

/-- The rest after an equals sign. -/
def afterEquals? : List Char → Option (List Char)
  | '=' :: rest => some rest
  | _ => none

/-- The name that a line assigns to, and the text of the value. The word `export` may stand before a name, and may be
one. -/
def splitAssignment? (line : List Char) : Option (List Char × List Char) := do
  let (name, rest) ← readName? line
  match afterEquals? rest with
  | some value => return (name, Text.trimStart value)
  | none =>
    -- without an equals sign the first word must be `export`
    if name ≠ "export".toList then none
    let (name, rest) ← readName? rest
    let value ← afterEquals? rest
    return (name, Text.trimStart value)

/-- Whether nothing but a comment is left. -/
def isOver (text : List Char) : Bool := text.isEmpty || text.head? == some '#'

/-- What a line does; a malformed line does not do anything. -/
def assignment (look : String → String) (line : List Char) : Option Assignment := do
  let line := Text.trimStart (Text.trimEnd line)
  if isOver line then return .nothing
  let (name, text) ← splitAssignment? line
  let value ← if isOver text then some [] else readValue look [] .plain text
  return .assign (String.ofList name) (String.ofList value)

/-! ## Files -/

/-- The bytes of a file by lines, each with its line feed. -/
def splitLines (line : List UInt8) : List UInt8 → List (List UInt8)
  | [] => if line.isEmpty then [] else [line.reverse]
  | b :: rest => if b = 10 then (b :: line).reverse :: splitLines [] rest else splitLines (b :: line) rest

/-- The characters of a line, if its bytes are UTF-8. -/
def decode? (bytes : List UInt8) : Option (List Char) :=
  (String.fromUTF8? (ByteArray.mk bytes.toArray)).map (·.toList)

/-- Without a byte order mark at the start. -/
def withoutMark : List UInt8 → List UInt8
  | 0xef :: 0xbb :: 0xbf :: rest => rest
  | bytes => bytes

/-- The variables after the lines of a file, the first of which may continue `buffer`. -/
def loadLines (vars : Variables) (buffer : List Char) (s : LineState) : List (List UInt8) → Variables
  | [] => vars
  | bytes :: rest =>
    match decode? bytes with
    | none => vars
    | some physical =>
      match join buffer s physical with
      | .more buffer s => loadLines vars buffer s rest
      | .finished line =>
        match assignment (fun name => (vars.get? name).getD "") line with
        -- a malformed line ends the reading without an error
        | none => vars
        | some .nothing => loadLines vars [] .complete rest
        | some (.assign name value) => loadLines (vars.setDefault name value) [] .complete rest

end DotEnv

/-- The variables after a file. -/
def Variables.load (vars : Variables) (file : ByteArray) : Variables :=
  DotEnv.loadLines vars [] .complete (DotEnv.splitLines [] (DotEnv.withoutMark file.toList))

/-- The configuration of an environment and of a file of variables, if there is one. -/
def Config.load (vars : Variables) (file : Option ByteArray) : Except ConfigError Config :=
  match file with
  | some bytes => Config.ofVariables (vars.load bytes)
  | none => Config.ofVariables vars

end TwoVenue
