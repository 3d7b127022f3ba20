import RequestLog.Headers
import RequestLog.Stream

/-!
Processes: what an application does when it is called and while its response is produced. It starts
the response as often as it likes, gives chunks, acts on the host, and ends or fails. What comes of
starting the response and of acting, and the host's state, may decide how it goes on.
-/
namespace RequestLog

/-- What a server gives back when a response is started: what writes a piece of the body at once,
or a value that cannot be called. -/
abbrev Writer (σ : Type) := Operation (Value → Action σ Unit)

/-- A process on a host in state `σ` that gives chunks `γ` and ends with a result `α`. -/
inductive Process (σ γ α : Type) where
  | done (result : α)
  | fail (fault : Fault)
  | chunk (c : γ) (next : Process σ γ α)
  /-- Starts the response with a status, headers and what is known of an earlier failure. -/
  | start (status : Value) (headers : HeaderSource) (trouble : Value)
      (next : Except Fault (Writer σ) → Process σ γ α)
  /-- Acts on the host, for instance by a writer that it was given. -/
  | touch (act : Action σ Unit) (next : Except Fault Unit → σ → Process σ γ α)

/-- How a walk through chunks came to stop. -/
inductive Stop where
  | ended
  | raised (fault : Fault)
  /-- Nobody asked for more chunks. -/
  | left

namespace Stop

def ofExcept : Except Fault Unit → Stop
  | .ok () => ended
  | .error f => raised f

/-- How a walk stops at a fault: one that tells the end of the iteration is no failure of it. -/
def ofFault (f : Fault) : Stop :=
  if f.endsIteration then ended else raised f

end Stop

/-- What a server on a host in state `σ` does when a response is started, as an action on `τ`. -/
abbrev StartResponse (σ : Type) (τ : Type := σ) :=
  Value → HeaderSource → Value → Action τ (Writer σ)

namespace Process

variable {ρ σ γ α : Type}

def finish (onStart : StartResponse σ (ρ × σ)) : Process σ Empty α → Action (ρ × σ) α
  | done a, w => (.ok a, w)
  | fail f, w => (.error f, w)
  | start status headers trouble next, w =>
    let r := onStart status headers trouble w
    finish onStart (next r.1) r.2
  | touch act next, w =>
    let r := act w.2
    finish onStart (next r.1 r.2) (w.1, r.2)

/-- Walks through a process until it stops or has given as many chunks as are asked for; the result
is the chunks and how it stopped. -/
def walk (onStart : StartResponse σ (ρ × σ)) :
    Process σ γ Unit → Option Nat → ρ × σ → (List γ × Stop) × (ρ × σ)
  | _, some 0, w => (([], .left), w)
  | done (), _, w => (([], .ended), w)
  | fail f, _, w => (([], .ofFault f), w)
  | chunk c next, demand, w =>
    let later := walk onStart next (demand.map (· - 1)) w
    ((c :: later.1.1, later.1.2), later.2)
  | start status headers trouble next, demand, w =>
    let r := onStart status headers trouble w
    walk onStart (next r.1) demand r.2
  | touch act next, demand, w =>
    let r := act w.2
    walk onStart (next r.1 r.2) demand (w.1, r.2)

end Process

/-- The body of a response: what opens a walk through it, anew each time, with the chunks of the
walk; and what is found in the place of a way to close it. -/
structure Body (σ : Type) where
  opening : Process σ Empty (Process σ Value Unit)
  close : Operation (Process σ Empty Unit)

namespace Body

variable {ρ σ : Type}

/-- Opens a body and walks through it. A body that is no iterable fails when it is opened. -/
def walk (body : Body σ) (onStart : StartResponse σ (ρ × σ)) (demand : Option Nat) (w : ρ × σ) :
    (List Value × Stop) × (ρ × σ) :=
  match body.opening.finish onStart w with
  | (.ok chunks, w) => chunks.walk onStart demand w
  | (.error f, w) => (([], .raised f), w)

/-- A value that is no iterable in the place of a body. -/
def ofValue (v : Value) : Body σ :=
  ⟨.fail (.notIterable v.kind), .missing⟩

end Body

/-- An application: what it does when it is called with an environment. -/
abbrev App (σ : Type) := Table Value → Process σ Empty (Body σ)

end RequestLog
