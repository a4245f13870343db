import EngineExtension.Signal

/-!
# Attempts

A load is a row of checks, each of which may send signals and may fail. An `Attempt` is such a row:
it ends with a value or an error, and with all signals sent up to there.
-/

namespace EngineExtension

/-- A computation that may fail and sends signals either way. -/
structure Attempt (α : Type) where
  result : Except LoadError α
  signals : List Signal := []

namespace Attempt

variable {α β : Type}

/-- Succeeds and sends nothing. -/
protected def pure (a : α) : Attempt α := ⟨.ok a, []⟩

/-- Goes on after a success. -/
protected def bind (x : Attempt α) (f : α → Attempt β) : Attempt β :=
  match x.result with
  | .ok a => ⟨(f a).result, x.signals ++ (f a).signals⟩
  | .error e => ⟨.error e, x.signals⟩

instance : Monad Attempt where
  pure := Attempt.pure
  bind := Attempt.bind

/-- Fails and sends nothing. -/
def fail (e : LoadError) : Attempt α := ⟨.error e, []⟩

/-- Sends signals. -/
def send (signals : List Signal) : Attempt Unit := ⟨.ok (), signals⟩

/-- Fails unless a condition holds. -/
def require (b : Bool) (e : LoadError) : Attempt Unit := if b then pure () else fail e

/-- Sends further signals after a failure. -/
def onFailure (x : Attempt α) (report : LoadError → List Signal) : Attempt α :=
  match x.result with
  | .ok a => ⟨.ok a, x.signals⟩
  | .error e => ⟨.error e, x.signals ++ report e⟩

end Attempt

end EngineExtension
