import TwoVenue.Journal.Event

/-!
# Computations that report events

- `Traced ε α`: the events of a computation and its outcome. A computation that fails has reported what it did before.
- `Traced.attempt`: turns an error into a value, so that the computation can go on. Faults cannot be caught.
-/

namespace TwoVenue

/-- Events and an outcome. -/
structure Traced (ε α : Type) where
  events : List Event
  outcome : Outcome ε α

namespace Traced

variable {ε α β : Type}

/-- Without events. -/
def ofOutcome (x : Outcome ε α) : Traced ε α := ⟨[], x⟩

/-- One event. -/
def emit (e : Event) : Traced ε Unit := ⟨[e], .ok ()⟩

/-- Goes on with a result; after a failure nothing more is reported. -/
def andThen (x : Traced ε α) (f : α → Traced ε β) : Traced ε β :=
  match x.outcome with
  | .ok a => let y := f a; ⟨x.events ++ y.events, y.outcome⟩
  | .error e => ⟨x.events, .error e⟩

instance : Monad (Traced ε) where
  pure a := ⟨[], .ok a⟩
  bind := andThen

instance : MonadLift (Except Fault) (Traced ε) := ⟨fun x => ofOutcome (Outcome.ofArithmetic x)⟩

instance : MonadLift (Outcome ε) (Traced ε) := ⟨ofOutcome⟩

/-- Stops with an error. -/
def refuse (e : ε) : Traced ε α := ⟨[], .error (.error e)⟩

/-- The result or the error, as a value. -/
def attempt (x : Traced ε α) : Traced ε (Except ε α) :=
  match x.outcome with
  | .ok a => ⟨x.events, .ok (.ok a)⟩
  | .error (.error e) => ⟨x.events, .ok (.error e)⟩
  | .error (.fault f) => ⟨x.events, .error (.fault f)⟩

@[simp] theorem pure_events (a : α) : (pure a : Traced ε α).events = [] := rfl
@[simp] theorem pure_outcome (a : α) : (pure a : Traced ε α).outcome = .ok a := rfl
@[simp] theorem emit_events (e : Event) : (emit e : Traced ε Unit).events = [e] := rfl
@[simp] theorem emit_outcome (e : Event) : (emit e : Traced ε Unit).outcome = .ok () := rfl

theorem bind_of_ok {x : Traced ε α} {a : α} (h : x.outcome = .ok a) (f : α → Traced ε β) :
    x >>= f = ⟨x.events ++ (f a).events, (f a).outcome⟩ := by
  show andThen x f = _
  unfold andThen; rw [h]

theorem bind_of_error {x : Traced ε α} {e : Failure ε} (h : x.outcome = .error e) (f : α → Traced ε β) :
    x >>= f = ⟨x.events, .error e⟩ := by
  show andThen x f = _
  unfold andThen; rw [h]

end Traced

end TwoVenue
