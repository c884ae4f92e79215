import TwoVenue.CommandLine.Program
import TwoVenue.Engine.Session

/-!
# Running the engine

A running engine repeats the same round: new snapshots, a cycle, a new report. A round whose file of books cannot be read
has no cycle.

- `Service.session`: a session in which the engine has not done anything yet.
- `Service.round`: a round, after the time that has passed since the last one.
-/

namespace TwoVenue.CommandLine

namespace Service

/-- The start of a run. -/
def session (s : Service) : Session :=
  { Session.start s.engine s.config.simFillDelayMs.toNat true with }

/-- The engine's part of a round. -/
def cycle (file : FileContents) (s : Session) : Session :=
  match s.engine.refresh file with
  | .error _ => s
  | .ok engine =>
    let s := (Session.act { s with engine } (Engine.determine s.clock)).2
    let s := s.publish.2
    { s with published := { s.published with ready := true } }

/-- A round. Reports of filled orders are read at its end. -/
def round (elapsedMs : Nat) (file : FileContents) (s : Session) : Session :=
  let s := (cycle file (s.advance elapsedMs).settle).settle
  let (completions, s) := s.read
  completions.foldl (fun s c => s.note (.completionRead c)) s

end Service

end TwoVenue.CommandLine
