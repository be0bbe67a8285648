/-
  Using the engine.

  A session has a state of its own beside that of the engine.  What it does
  changes both, and may fail or collapse; the change stays.

  * `engine`: an action of the engine, which leaves the session's own state alone;
  * `change`: a change of the session's own state.
-/
import HomeGateway.Engine.State

namespace HomeGateway.Engine

open HomeGateway

/-- What a user with a state of its own does with the engine. -/
abbrev Use (σ α : Type) := ExceptT Mishap (StateM (σ × State)) α

namespace Use

variable {σ α : Type}

/-- An action of the engine. -/
def engine (a : Act α) : Use σ α := fun (own, s) =>
  let (r, s) := a s
  (r, own, s)

/-- The user's own state. -/
def own : Use σ σ := do
  return (← get).1

/-- Change the user's own state. -/
def change (f : σ → σ) : Use σ Unit :=
  modify fun (own, s) => (f own, s)

/-- Fail. -/
def fail (f : Failure) : Use σ α :=
  throw (.failed f)

/-- The value of an outcome, or its failure. -/
def ofExcept : Except Failure α → Use σ α
  | .ok x => pure x
  | .error f => fail f

end Use

end HomeGateway.Engine
