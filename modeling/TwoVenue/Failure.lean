import TwoVenue.Decimal.Arithmetic

/-!
# Failures

An operation of the engine can stop for two reasons: a computation in it has no result, or it fails with an error of its
own kind.

- `Failure ε`: a fault or an error.
- `Outcome ε α`: a result or a failure. Faults and errors of simpler computations are lifted into it.
-/

namespace TwoVenue

/-- Why an operation stopped. -/
inductive Failure (ε : Type) where
  /-- A computation had no result. -/
  | fault (fault : Fault)
  /-- The operation refused. -/
  | error (error : ε)
deriving DecidableEq

/-- The same failure with its error seen as one of another kind. -/
def Failure.map {ε ε' : Type} (f : ε → ε') : Failure ε → Failure ε'
  | .fault x => .fault x
  | .error e => .error (f e)

/-- A result or a failure. -/
abbrev Outcome (ε α : Type) := Except (Failure ε) α

namespace Outcome

/-- The outcome of a computation that only has faults. -/
def ofArithmetic {ε α : Type} : Except Fault α → Outcome ε α
  | .ok a => .ok a
  | .error x => .error (.fault x)

/-- The outcome of a check that has no faults. -/
def ofCheck {ε α : Type} : Except ε α → Outcome ε α
  | .ok a => .ok a
  | .error e => .error (.error e)

instance {ε : Type} : MonadLift (Except Fault) (Outcome ε) := ⟨ofArithmetic⟩

@[simp] theorem ofArithmetic_ok {ε α : Type} (a : α) : (ofArithmetic (.ok a) : Outcome ε α) = .ok a := rfl
@[simp] theorem ofArithmetic_error {ε α : Type} (x : Fault) :
    (ofArithmetic (.error x) : Outcome ε α) = .error (.fault x) := rfl
@[simp] theorem ofCheck_ok {ε α : Type} (a : α) : (ofCheck (.ok a) : Outcome ε α) = .ok a := rfl
@[simp] theorem ofCheck_error {ε α : Type} (e : ε) : (ofCheck (.error e) : Outcome ε α) = .error (.error e) := rfl

end Outcome

end TwoVenue
