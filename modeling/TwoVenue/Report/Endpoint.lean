import TwoVenue.Engine.Basic
import TwoVenue.Report.Metrics

/-!
# Answers over HTTP

- `Published`: what the answers show: whether the engine is ready, and its last published report.
- `Endpoint`: the known paths.
- `respond`: the answer to a method and a request target. Only GET and HEAD are answered, and HEAD without a body.
-/

namespace TwoVenue

/-- What has been published of an engine. -/
structure Published where
  ready : Bool
  report : Option StatusReport
  stats : Stats
  /-- Whether counters are recorded. -/
  recording : Bool

/-- The body of an answer. -/
inductive Body where
  | none
  | text (text : String)
  | lines (lines : List String)
  | json (value : Json)

/-- The answer to a request. -/
structure Response where
  status : Nat
  contentType : Option String
  body : Body

/-- A path that is known. -/
inductive Endpoint where
  | health
  | ready
  | status
  | metrics
deriving DecidableEq

namespace Endpoint

/-- The path of a request target, without query and fragment. -/
def pathOf (target : String) : String :=
  String.ofList (target.toList.takeWhile fun c => c != '?' && c != '#')

/-- The endpoint of a path. -/
def ofPath? (path : String) : Option Endpoint :=
  if path = "/health" then some .health
  else if path = "/ready" then some .ready
  else if path = "/api/v1/status" then some .status
  else if path = "/metrics" then some .metrics
  else none

end Endpoint

/-- Statistics as data. -/
def Stats.toJson (s : Stats) : Json :=
  .ofMembers
    [("cycles", .ofNat s.cycles), ("opportunities_found", .ofNat s.opportunitiesFound),
     ("opportunities_executed", .ofNat s.opportunitiesExecuted), ("cycles_aborted", .ofNat s.cyclesAborted)]

namespace Response

/-- An answer with data. -/
def json (status : Nat) (value : Json) : Response := ⟨status, some "application/json", .json value⟩

/-- An answer with text. -/
def plain (status : Nat) (body : Body) : Response := ⟨status, some "text/plain; charset=utf-8", body⟩

/-- An answer without content. -/
def bare (status : Nat) : Response := ⟨status, none, .none⟩

end Response

/-- The state of the engine as data. A report that cannot be written leaves only its absence. -/
def Published.toJson (p : Published) : Json :=
  .ofMembers
    [("status", .text (if p.ready then "running" else "starting")), ("stats", p.stats.toJson),
     ("report", .ofOption id (p.report.bind StatusReport.toJson?))]

/-- The answer of an endpoint. -/
def Endpoint.answer (p : Published) (journal : List Event) : Endpoint → Response
  | .health => .json 200 (.ofMembers [("status", .text "ok")])
  | .ready => .json (if p.ready then 200 else 503) (.ofMembers [("ready", .bool p.ready)])
  | .status => .json 200 p.toJson
  | .metrics =>
    if p.recording then .plain 200 (.lines (Metrics.lines journal))
    else .plain 503 (.text "metrics recorder not installed")

/-- The answer to a request. -/
def respond (p : Published) (journal : List Event) (method target : String) : Response :=
  match Endpoint.ofPath? (Endpoint.pathOf target) with
  | none => .bare 404
  | some endpoint =>
    let answer := endpoint.answer p journal
    if method = "GET" then answer
    else if method = "HEAD" then { answer with body := .none }
    else .bare 405

end TwoVenue
