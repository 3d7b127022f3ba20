import RequestLog.Coding
import RequestLog.Message
import RequestLog.Stream

/-!
Notes: reports of failures that must not reach the request being logged. A board lists the handlers
that take the notes; there is a current board, made when it is first needed. Without handlers a
note is not even worded.
-/
namespace RequestLog

/-- What a host offers as a handler of notes: a handler, known by its name, or a value that is
none. -/
inductive HandlerOffer where
  | handler (name : String)
  | value (v : Value)

namespace HandlerOffer

/-- Whether two offers are the same handler or equal values. -/
def same : HandlerOffer → HandlerOffer → Bool
  | handler a, handler b => a == b
  | value a, value b => a.equals b
  | _, _ => false

end HandlerOffer

/-- The handlers of notes, in the order of registration. -/
structure Board where
  handlers : List HandlerOffer

namespace Board

def empty : Board := ⟨[]⟩

def contains (b : Board) (offer : HandlerOffer) : Bool :=
  b.handlers.any offer.same

/-- The board with a handler at its end, unless the handler is on it. A value cannot be added. -/
def add (b : Board) (offer : HandlerOffer) : Except Fault Board :=
  match offer with
  | .value v => .error (.noteHandlerNotCallable v)
  | .handler _ => .ok (if b.contains offer then b else ⟨b.handlers ++ [offer]⟩)

/-- The board without the first place of a handler. -/
def remove (b : Board) (offer : HandlerOffer) : Board :=
  ⟨b.handlers.eraseP offer.same⟩

/-- The description of a board whose handlers are described by `shown`. -/
def literal (b : Board) (shown : String → String) : Except Refusal String := do
  let shown ← b.handlers.mapM fun
    | .handler name => .ok (shown name)
    | .value v => v.literal
  return "<AccessLogContext note_handlers=[" ++ commaJoin shown ++ "]>"

end Board

/-- What the two clocks of a host show at one moment. -/
structure ClockReading where
  /-- The clock that measures lapses of time. -/
  lapse : Float
  /-- The clock on the wall. -/
  wall : Float

/-- A host: what the log needs of its surroundings. -/
structure Host (σ : Type) where
  /-- The two clocks. -/
  now : σ → ClockReading
  /-- The current board of note handlers, if there is one yet. -/
  board : σ → Option Board
  /-- Makes a board the current one. -/
  setBoard : Board → σ → σ
  /-- Hands a note, which is a name and a text, to the handler of a name. -/
  receive : String → String → Text.Wide → Action σ Unit
  /-- The streams of the console. -/
  console : Console → Stream σ
  /-- The character sets and treatments of its own. -/
  codecs : Codecs

namespace Host

variable {σ : Type}

/-- The current board, which is made if there is none. -/
def currentBoard (host : Host σ) : Action σ Board := fun s =>
  match host.board s with
  | some b => (.ok b, s)
  | none => (.ok Board.empty, host.setBoard Board.empty s)

/-- Hands a note to handlers one after the other; a handler that fails keeps it from those
behind. -/
def deliver (host : Host σ) (name : String) (text : Text.Wide) : List HandlerOffer → Action σ Unit
  | [] => Action.done ()
  | .handler handler :: rest =>
    (host.receive handler name text).andThen fun _ => deliver host name text rest
  | .value v :: _ => Action.fail (.notCallable v.kind)

/-- Words a note and hands it to the handlers of the current board, if it has any. -/
def note (host : Host σ) (name message : String) (args : List Argument) : Action σ Unit :=
  host.currentBoard.andThen fun board =>
    if board.handlers.isEmpty then Action.done ()
    else
      (Action.ofExcept (Message.text message args)).andThen fun text =>
        host.deliver name text board.handlers

end Host

end RequestLog
