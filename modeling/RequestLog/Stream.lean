import RequestLog.Action

/-!
Streams that a host offers: where lines can be written, as text or as octets.
-/
namespace RequestLog

/-- What is written to a stream. -/
inductive Output where
  | text (s : String)
  | octets (os : List UInt8)
deriving DecidableEq, Repr

/-- What a stream says about the kind of output that it takes. -/
inductive Nature where
  | binary
  | textual
  /-- Nothing but the mode in which it was opened, or null. -/
  | mode (mode : Value)

namespace Nature

/-- Whether a stream takes octets: if it says nothing else, its mode has to be a text with a b. -/
def isBinary : Nature → Bool
  | binary => true
  | textual => false
  | mode (.text m) => m.toList.contains 'b'
  | mode _ => false

end Nature

/-- What is found under the name of an operation: nothing, a value that cannot be called, or the
operation. -/
inductive Operation (α : Type) where
  | missing
  | value (v : Value)
  | able (run : α)

namespace Operation

variable {α : Type}

def able? : Operation α → Option α
  | able run => some run
  | _ => none

/-- The operation of a name of an object of a kind, or what keeps it from being called. -/
def find (kind name : String) : Operation α → Except Fault α
  | missing => .error (.noAttribute kind name)
  | value v => .error (.notCallable v.kind)
  | able run => .ok run

end Operation

/-- A stream that a host offers. -/
structure Stream (σ : Type) where
  /-- The name of the stream's kind in messages. -/
  kind : String
  shown : σ → Except Refusal String
  nature : Nature
  /-- The name of the stream's character set, or null. -/
  encoding : Value
  write : Operation (Output → Action σ Unit)
  flush : Operation (Action σ Unit)
  close : Operation (Action σ Unit)

namespace Stream

variable {σ : Type}

/-- A value in the place of a stream, which can do nothing. -/
def ofValue (v : Value) : Stream σ :=
  ⟨v.kind, fun _ => v.literal, .mode .null, .null, .missing, .missing, .missing⟩

def writeOut (s : Stream σ) (out : Output) : Action σ Unit :=
  (Action.ofExcept (s.write.find s.kind "write")).andThen fun write => write out

def shut (s : Stream σ) : Action σ Unit :=
  (Action.ofExcept (s.close.find s.kind "close")).andThen id

end Stream

/-- The two streams of a console. -/
inductive Console where
  | stdout | stderr
deriving DecidableEq, Repr

namespace Console

def ofValue? : Value → Option Console
  | .text "stdout" => some stdout
  | .text "stderr" => some stderr
  | _ => none

end Console

end RequestLog
