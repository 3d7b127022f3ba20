import RequestLog.Fault

/-!
Actions: what a host does when the log calls it. An action may change the host's state and may
fail; a failure keeps the changes made before it.
-/
namespace RequestLog

/-- An action on a state, with a result or a fault. -/
def Action (σ α : Type) : Type :=
  σ → Except Fault α × σ

namespace Action

variable {σ τ α β : Type}

def done (a : α) : Action σ α := fun s => (.ok a, s)

def fail (f : Fault) : Action σ α := fun s => (.error f, s)

/-- An action followed by another one that depends on its result, unless it fails. -/
def andThen (act : Action σ α) (next : α → Action σ β) : Action σ β := fun s =>
  match act s with
  | (.ok a, s) => next a s
  | (.error f, s) => (.error f, s)

instance : Monad (Action σ) where
  pure := done
  bind := andThen

/-- An action whose failure becomes a result. -/
def attempt (act : Action σ α) : Action σ (Except Fault α) := fun s =>
  (.ok (act s).1, (act s).2)

/-- The result of a computation that does not touch the state. -/
def ofExcept : Except Fault α → Action σ α
  | .ok a => done a
  | .error f => fail f

def look (f : σ → α) : Action σ α := fun s => (.ok (f s), s)

def change (f : σ → σ) : Action σ Unit := fun s => (.ok (), f s)

/-- An action on the second part of a state. -/
def onHost (act : Action σ α) : Action (τ × σ) α := fun s =>
  ((act s.2).1, (s.1, (act s.2).2))

/-- An action that is followed by another one also if it fails. -/
def ensuring (act : Action σ α) (last : Action σ Unit) : Action σ α := fun s =>
  match last (act s).2 with
  | (.ok (), t) => ((act s).1, t)
  | (.error f, t) => (.error f, t)

@[simp] theorem pure_apply (a : α) (s : σ) : (pure a : Action σ α) s = (.ok a, s) := rfl

@[simp] theorem bind_apply (act : Action σ α) (next : α → Action σ β) (s : σ) :
    (act >>= next) s =
      match act s with
      | (.ok a, s) => next a s
      | (.error f, s) => (.error f, s) := rfl

end Action

end RequestLog
