import Mathlib.Tactic
import TwoVenue.Engine.Basic

/-!
# Computations in sequence

A computation that succeeds has succeeded at every step. Each kind of computation of the engine gets the lemma that
takes the first step off, so that proofs go through a program from its first line to its last without unfolding its
monad.

- `Outcome.bind_eq_ok`, `Outcome.bind_eq_error`: results without effects.
- `Avoids`: a computation does not fail in some way. `Avoids.bind`: nor does a sequence of such steps.
- `Traced.bind_eq_ok`, `Traced.bind_eq_error`: computations that report events.
-/

namespace TwoVenue

/-- The first step of a computation that succeeds. -/
theorem Outcome.bind_eq_ok {ε α β : Type} {x : Except ε α} {f : α → Except ε β} {b : β} :
    x >>= f = .ok b ↔ ∃ a, x = .ok a ∧ f a = .ok b := by
  constructor
  · intro h
    cases x with
    | error e => cases h
    | ok a => exact ⟨a, rfl, h⟩
  · rintro ⟨a, rfl, h⟩
    exact h

/-- A computation fails in its first step or later. -/
theorem Outcome.bind_eq_error {ε α β : Type} {x : Except ε α} {f : α → Except ε β} {e : ε} :
    x >>= f = .error e ↔ x = .error e ∨ ∃ a, x = .ok a ∧ f a = .error e := by
  constructor
  · intro h
    cases x with
    | error e' =>
      cases h
      exact Or.inl rfl
    | ok a => exact Or.inr ⟨a, rfl, h⟩
  · rintro (rfl | ⟨a, rfl, h⟩)
    · rfl
    · exact h

/-- Whether a computation does not end with this failure. -/
def Avoids {ε α : Type} (failure : ε) (x : Except ε α) : Prop := x ≠ .error failure

namespace Avoids

variable {ε α β : Type} {failure : ε}

theorem ok (failure : ε) (a : α) : Avoids failure (.ok a) := nofun

theorem of_ne {other : ε} (h : other ≠ failure) : Avoids failure (.error other : Except ε α) :=
  fun heq => h (Except.error.inj heq)

/-- A sequence fails with what one of its steps fails with. -/
theorem bind {x : Except ε α} {f : α → Except ε β} (hx : Avoids failure x)
    (hf : ∀ a, x = .ok a → Avoids failure (f a)) : Avoids failure (x >>= f) := by
  cases x with
  | error other => exact of_ne fun heq => hx (congrArg _ heq)
  | ok a => exact hf a rfl

theorem ofArithmetic {x : Except Fault α} {f : Fault} (h : Avoids f x) :
    Avoids (.fault f) (Outcome.ofArithmetic x : Outcome ε α) := by
  cases x with
  | ok a => exact ok _ a
  | error other =>
    refine of_ne fun heq => h ?_
    cases heq
    rfl

end Avoids

namespace Outcome

variable {ε α : Type}

theorem ofArithmetic_eq_ok {x : Except Fault α} {a : α} : (ofArithmetic x : Outcome ε α) = .ok a ↔ x = .ok a := by
  cases x <;> simp

theorem ofCheck_eq_ok {x : Except ε α} {a : α} : (ofCheck x : Outcome ε α) = .ok a ↔ x = .ok a := by
  cases x <;> simp

/-- A result can be told from a failure by looking. -/
theorem exists_ok_some {x : Outcome ε (Option α)} (h : x.toOption.join.isSome = true) : ∃ a, x = .ok (some a) := by
  cases x with
  | error e => cases h
  | ok r =>
    cases r with
    | none => cases h
    | some a => exact ⟨a, rfl⟩

/-- What has a result has no fault. -/
theorem ne_fault_of_isOk {x : Outcome ε α} (h : x.isOk = true) (f : Fault) : x ≠ .error (.fault f) := by
  rintro rfl
  cases h

end Outcome

namespace Traced

variable {ε α β : Type}

@[simp] theorem ofOutcome_outcome (x : Outcome ε α) : (ofOutcome x).outcome = x := rfl

@[simp] theorem liftM_outcome (x : Except Fault α) :
    (liftM x : Traced ε α).outcome = Outcome.ofArithmetic x := rfl

/-- The first step of a computation that succeeds. -/
theorem bind_eq_ok {x : Traced ε α} {f : α → Traced ε β} {b : β} :
    (x >>= f).outcome = .ok b ↔ ∃ a, x.outcome = .ok a ∧ (f a).outcome = .ok b := by
  constructor
  · intro h
    cases hx : x.outcome with
    | error e =>
      rw [bind_of_error hx] at h
      cases h
    | ok a =>
      rw [bind_of_ok hx] at h
      exact ⟨a, rfl, h⟩
  · rintro ⟨a, hx, h⟩
    rw [bind_of_ok hx]
    exact h

/-- A computation fails in its first step or later. -/
theorem bind_eq_error {x : Traced ε α} {f : α → Traced ε β} {e : Failure ε} :
    (x >>= f).outcome = .error e ↔ x.outcome = .error e ∨ ∃ a, x.outcome = .ok a ∧ (f a).outcome = .error e := by
  constructor
  · intro h
    cases hx : x.outcome with
    | error e' =>
      rw [bind_of_error hx] at h
      cases h
      exact Or.inl rfl
    | ok a =>
      rw [bind_of_ok hx] at h
      exact Or.inr ⟨a, rfl, h⟩
  · rintro (hx | ⟨a, hx, h⟩)
    · rw [bind_of_error hx]
    · rw [bind_of_ok hx]
      exact h

/-- An event does not change the outcome. -/
@[simp] theorem emit_bind_outcome (event : Event) (f : Unit → Traced ε β) :
    (emit event >>= f).outcome = (f ()).outcome := by
  rw [bind_of_ok (emit_outcome event)]

/-- Whatever the events of a first step and of what follows are, so are those of both. -/
theorem forall_bind {P : Event → Prop} {x : Traced ε α} {f : α → Traced ε β} (hx : ∀ e ∈ x.events, P e)
    (hf : ∀ a, ∀ e ∈ (f a).events, P e) : ∀ e ∈ (x >>= f).events, P e := by
  cases h : x.outcome with
  | error e =>
    rw [bind_of_error h]
    exact hx
  | ok a =>
    rw [bind_of_ok h]
    intro e he
    rcases List.mem_append.1 he with he | he
    · exact hx e he
    · exact hf a e he

theorem forall_pure {P : Event → Prop} (a : α) : ∀ e ∈ (pure a : Traced ε α).events, P e :=
  fun _ he => absurd he List.not_mem_nil

theorem forall_ofOutcome {P : Event → Prop} (x : Outcome ε α) : ∀ e ∈ (ofOutcome x).events, P e :=
  fun _ he => absurd he List.not_mem_nil

theorem forall_emit {P : Event → Prop} {event : Event} (h : P event) : ∀ e ∈ (emit event : Traced ε Unit).events, P e :=
  fun _ he => List.mem_singleton.1 he ▸ h

/-- Catching an error does not change what has happened. -/
theorem attempt_events (x : Traced ε α) : x.attempt.events = x.events := by
  unfold attempt
  split <;> rfl

theorem attempt_of_ok {x : Traced ε α} {a : α} (h : x.outcome = .ok a) : x.attempt.outcome = .ok (.ok a) := by
  unfold attempt
  rw [h]

theorem attempt_of_error {x : Traced ε α} {e : ε} (h : x.outcome = .error (.error e)) :
    x.attempt.outcome = .ok (.error e) := by
  unfold attempt
  rw [h]

theorem attempt_of_fault {x : Traced ε α} {f : Fault} (h : x.outcome = .error (.fault f)) :
    x.attempt.outcome = .error (.fault f) := by
  unfold attempt
  rw [h]

end Traced

end TwoVenue
