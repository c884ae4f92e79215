import TwoVenue.Json.Token

/-!
# JSON values

- `Json`: a value as it is written: numbers keep their digits, objects keep every member in order, also repeated ones.
- `Json.ofTokens?`: the value that a list of tokens spells. It keeps the open arrays and objects on a stack of
  `Frame`s, so values may nest as deep as they like.
- `Json.ofText?`: the value of a text, around which only white space may stand.
-/

namespace TwoVenue

open Json (Token)

/-- A JSON value. The text of a string is missing where half of a surrogate pair stands alone. -/
inductive Json where
  | null
  | bool (value : Bool)
  | number (literal : Literal)
  | string (text : Option String)
  | array (items : List Json)
  | object (members : List (Option String × Json))

namespace Json

/-- An array or object that is still open. Its items or members are kept with the last one first. -/
inductive Frame where
  /-- An array. -/
  | array (items : List Json)
  /-- An object between two members. -/
  | object (members : List (Option String × Json))
  /-- An object of which a member's name has been read. -/
  | member (members : List (Option String × Json)) (name : Option String)

/-- What comes next. -/
inductive Stage where
  /-- A value. -/
  | value
  /-- The first item of an array, or its end. -/
  | itemOrEnd
  /-- The name of a member. -/
  | name
  /-- The name of the first member of an object, or the object's end. -/
  | nameOrEnd
  /-- The colon after a name. -/
  | colon (name : Option String)
  /-- What may follow a finished value. -/
  | follow (value : Json)

/-- The value of a token that is one. -/
def Token.toValue? : Token → Option Json
  | .wordNull => some .null
  | .wordTrue => some (.bool true)
  | .wordFalse => some (.bool false)
  | .number l => some (.number l)
  | .string s => some (.string s)
  | _ => none

/-- Reads on with some arrays and objects open. -/
def build : List Token → Stage → List Frame → Option Json
  | [], .follow v, [] => some v
  | [], _, _ => none
  | t :: ts, .follow v, .array items :: stack =>
    match t with
    | .comma => build ts .value (.array (v :: items) :: stack)
    | .closeBracket => build ts (.follow (.array (v :: items).reverse)) stack
    | _ => none
  | t :: ts, .follow v, .member members name :: stack =>
    match t with
    | .comma => build ts .name (.object ((name, v) :: members) :: stack)
    | .closeBrace => build ts (.follow (.object ((name, v) :: members).reverse)) stack
    | _ => none
  | _ :: _, .follow _, _ => none
  | t :: ts, .colon name, .object members :: stack =>
    match t with
    | .colon => build ts .value (.member members name :: stack)
    | _ => none
  | _ :: _, .colon _, _ => none
  | t :: ts, .name, stack =>
    match t with
    | .string name => build ts (.colon name) stack
    | _ => none
  | t :: ts, .nameOrEnd, stack =>
    match t, stack with
    | .string name, _ => build ts (.colon name) stack
    | .closeBrace, .object members :: stack => build ts (.follow (.object members.reverse)) stack
    | _, _ => none
  | t :: ts, .itemOrEnd, stack =>
    match t, stack with
    | .closeBracket, .array items :: stack => build ts (.follow (.array items.reverse)) stack
    | .openBracket, _ => build ts .itemOrEnd (.array [] :: stack)
    | .openBrace, _ => build ts .nameOrEnd (.object [] :: stack)
    | t, _ => match t.toValue? with
      | some v => build ts (.follow v) stack
      | none => none
  | t :: ts, .value, stack =>
    match t with
    | .openBracket => build ts .itemOrEnd (.array [] :: stack)
    | .openBrace => build ts .nameOrEnd (.object [] :: stack)
    | t => match t.toValue? with
      | some v => build ts (.follow v) stack
      | none => none

/-- The value that a list of tokens spells. -/
def ofTokens? (tokens : List Token) : Option Json := build tokens .value []

/-- The value that a text spells. -/
def ofText? (text : String) : Option Json := (Token.scan? text.toList).bind ofTokens?

/-- A text that is not one of the escape's halves. -/
def text (s : String) : Json := .string (some s)

/-- A natural number. -/
def ofNat (n : Nat) : Json :=
  .number ⟨false, (Nat.toDigits 10 n).map fun c => c.toNat - '0'.toNat, none, none⟩

/-- An object with the given members. -/
def ofMembers (members : List (String × Json)) : Json := .object (members.map fun (k, v) => (some k, v))

end Json

end TwoVenue
