import RequestLog.Notes
import RequestLog.Request

/-!
Records: what is known about one request while it is handled. A record passes through the stages
`started`, `handling`, `ended` and `logged`. When a line is made of it, the record is copied into a
snapshot that does not change any more.
-/
namespace RequestLog

/-- The options of a logger as a snapshot carries them; the stream is described as it is when it is
looked at. -/
structure Options (σ : Type) where
  format : Value
  immediate : Bool
  stream : σ → Except Refusal String
  skip : Except Refusal String

namespace Options

variable {σ : Type}

def ofFormat (format : Value) : Options σ :=
  ⟨format, false, fun _ => Value.null.literal, Value.null.literal⟩

def literal (o : Options σ) (s : σ) : Except Refusal String := do
  return "LoggerOptions(format=" ++ (← o.format.literal) ++ ", immediate="
    ++ Value.boolWord o.immediate ++ ", stream=" ++ (← o.stream s) ++ ", skip=" ++ (← o.skip) ++
    ")"

end Options

/-- The stage of a record. -/
inductive Stage where
  | started | handling | ended | logged
deriving DecidableEq, Repr

namespace Stage

def name : Stage → String
  | started => "started"
  | handling => "handling"
  | ended => "ended"
  | logged => "logged"

/-- The place of a stage in the order in which they are passed. -/
def rank : Stage → Nat
  | started => 0
  | handling => 1
  | ended => 2
  | logged => 3

end Stage

/-- What is known about a request while it is handled. -/
structure Record (σ : Type) where
  request : Request
  response : Response
  options : Option (Options σ)
  startAt : Option Float
  startTime : Option Float
  endAt : Option Float
  endTime : Option Float
  stage : Stage

/-- A record as it was when a line was made of it. -/
structure Snapshot (σ : Type) where
  request : Request
  response : FrozenResponse
  options : Option (Options σ)
  startAt : Option Float
  startTime : Option Float
  endAt : Option Float
  endTime : Option Float

namespace Record

variable {σ : Type}

def start (request : Request) (response : Response) (options : Option (Options σ))
    (now : ClockReading) :
    Record σ :=
  ⟨request, response, options, some now.lapse, some now.wall, none, none, .started⟩

/-- Whether the end of the request has been captured. -/
def isEnded (r : Record σ) : Bool :=
  r.endAt.isSome

def isLogged (r : Record σ) : Bool :=
  r.stage == .logged

def markHandling (r : Record σ) : Record σ :=
  if r.stage = .started then { r with stage := .handling } else r

/-- The record with the end of the request captured, unless it has been captured already. -/
def finish (r : Record σ) (now : ClockReading) : Record σ :=
  let r := if r.endAt.isNone then { r with endAt := some now.lapse, endTime := some now.wall }
  else r
  if r.stage = .logged then r else { r with stage := .ended }

def markLogged (r : Record σ) : Record σ :=
  { r with stage := .logged }

def setStatus (r : Record σ) (status : Value) : Record σ :=
  { r with response := { r.response with status := status } }

def setHeader (r : Record σ) (name value : Value) : Except Fault (Record σ) :=
  (r.response.setHeader name value).map fun response => { r with response := response }

def snapshot (r : Record σ) : Snapshot σ :=
  ⟨r.request, r.response.frozen, r.options, r.startAt, r.startTime, r.endAt, r.endTime⟩

def literal (r : Record σ) : Except Refusal String :=
  r.request.literal.map fun shown => "<RequestRecord " ++ shown ++ " " ++ r.stage.name ++ ">"

end Record

namespace Snapshot

variable {σ : Type}

def status (s : Snapshot σ) : Value :=
  s.response.response.status

def timeLiteral : Option Float → String
  | some x => Number.floatLiteral x
  | none => "None"

def optionsLiteral (s : Snapshot σ) (host : σ) : Except Refusal String :=
  match s.options with
  | some o => o.literal host
  | none => Value.null.literal

def literal (s : Snapshot σ) (host : σ) : Except Refusal String := do
  return "RequestSnapshot(request=" ++ (← s.request.literal) ++ ", response="
    ++ (← s.response.response.literal) ++ ", options=" ++ (← s.optionsLiteral host)
    ++ ", start_at=" ++ timeLiteral s.startAt ++ ", start_time=" ++ timeLiteral s.startTime
    ++ ", end_at=" ++ timeLiteral s.endAt ++ ", end_time=" ++ timeLiteral s.endTime ++ ")"

end Snapshot

end RequestLog
