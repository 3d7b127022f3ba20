import RequestLog.Gateway.Environ
import RequestLog.Gateway.Process
import RequestLog.Logger.Basic

/-!
Middleware: an application in front of which a logger stands. The request comes in when the
application is called, has been handled when the application returns the body of its response, and
is complete when the server closes that body. A failure of the application is logged and passed on.
-/
namespace RequestLog

/-- An application with the logger that watches it. -/
structure Middleware (σ : Type) where
  app : App σ
  shown : String
  logger : Logger σ

/-- What a server does with the body of a response. -/
inductive Move (σ : Type) where
  /-- Walks through the body from its start, for all chunks or for a number of them. -/
  | take (demand : Option Nat)
  | close
  /-- The host's state changes by itself. -/
  | elapse (change : σ → σ)

namespace Middleware

variable {σ : Type}

def defaultFormat : Value := .text "combined"

/-- The middleware of an application with a logger that is built from settings. -/
def ofSettings (host : Host σ) (app : App σ) (shown : String) (settings : LoggerSettings σ) :
    Action (Registry σ × σ) (Middleware σ) :=
  (Logger.build host settings).andThen fun logger => Action.done ⟨app, shown, logger⟩

def placed : List String := ["self", "app"]

/-- The name under which a finished logger is given. -/
def loggerName : String := "logger"

/-- The middleware of an application with a finished logger, beside which no settings may stand. -/
def ofLogger (app : App σ) (shown : String) (logger : Logger σ) (names : List String) :
    Except Fault (Middleware σ) := do
  if names.contains loggerName then throw .loggerTwice
  Fault.checkPlaced "AccessLogMiddleware" placed names
  if names.isEmpty then .ok ⟨app, shown, logger⟩ else .error (.settingsBesideLogger names)

/-- Refuses names of what a middleware takes by its place, and a value in the place of a logger. -/
def checkNames (logger : Value) (names : List String) : Except Fault Unit := do
  Fault.checkPlaced "AccessLogMiddleware" placed names
  if logger.isNull then .ok ()
  else
    match names.filter (· != loggerName) with
    | [] => .error (.noAttribute logger.kind "options")
    | others => .error (.settingsBesideLogger others)

/-- The status of a failure before the response was started. -/
def failureStatus : Value := .int 500

def lacksStatus (r : Record σ) : Bool :=
  r.response.status.isNull

/-- The record of a failure, which may be that nothing was found: a server answers any other one
before the start of the response with 500. -/
def withFailure (notFound : Bool) (r : Record σ) : Record σ :=
  if ! notFound && lacksStatus r then r.setStatus failureStatus else r

def logFailure (l : Logger σ) (host : Host σ) (f : Fault) :
    Action (Record σ × σ) (Option String) :=
  (Action.ofExcept f.isNotFound).andThen fun notFound =>
    (Logger.onRecord (withFailure notFound)).andThen fun _ => l.onError host notFound

/-- The record with headers in place of those of its response. -/
def withHeaders (headers : Headers) (r : Record σ) : Record σ :=
  { r with response := { r.response with headers := headers } }

/-- Starts the response: its status and headers go into the record and then to the server, whose
answer comes back. -/
def startResponse (server : StartResponse σ) : StartResponse σ (Record σ × σ) :=
  fun status headers trouble =>
    (Logger.onRecord (·.setStatus (parseStatus status))).andThen fun _ =>
      (Action.ofExcept (Headers.normalize headers)).andThen fun normal =>
        (Logger.onRecord (withHeaders normal)).andThen fun _ =>
          Action.onHost (server status headers trouble)

/-- The failure that is passed on once a failure has been logged; a failure of the logging takes
its place. -/
def passedOn (l : Logger σ) (host : Host σ) (f : Fault) (w : Record σ × σ) :
    Fault × (Record σ × σ) :=
  match logFailure l host f w with
  | (.ok _, w) => (f, w)
  | (.error g, w) => (g, w)

/-- Calls the application. The result is the record of the request and the body of its response. -/
def call (m : Middleware σ) (host : Host σ) (server : StartResponse σ) (environ : Environ) :
    Action σ (Record σ × Body σ) :=
  (Action.ofExcept environ.request).andThen fun request =>
    (m.logger.startRequest host request).andThen fun record => fun s =>
      match (m.app environ).finish (startResponse server) (record, s) with
      | (.ok body, w) =>
        let w := (Logger.afterHandle host w).2
        (.ok (w.1, body), w.2)
      | (.error f, w) =>
        let p := passedOn m.logger host f w
        (.error p.1, p.2.2)

/-- The failure that comes out of a walk: the end of an iteration cannot be told in the middle of
one. -/
def leaving (f : Fault) : Fault :=
  if f.endsIteration then .stoppedInside else f

/-- Walks through a body, which is not even opened before a chunk is asked for. The result is the
chunks and how the walk stopped. -/
def take (m : Middleware σ) (host : Host σ) (server : StartResponse σ) (body : Body σ)
    (demand : Option Nat) (w : Record σ × σ) : (List Value × Stop) × (Record σ × σ) :=
  if demand = some 0 then (([], .left), w)
  else
    match body.walk (startResponse server) demand w with
    | ((chunks, .raised f), w) =>
      let p := passedOn m.logger host f w
      ((chunks, .raised (leaving p.1)), p.2)
    | walked => walked

/-- Closes a body, if what it has in that place can be called, and completes the request also if
that fails. -/
def close (m : Middleware σ) (host : Host σ) (server : StartResponse σ) (body : Body σ) :
    Action (Record σ × σ) Unit :=
  Action.ensuring
    (match body.close with
      | .able p => p.finish (startResponse server)
      | _ => Action.done ())
    ((m.logger.onResponse host).andThen fun _ => Action.done ())

def move (m : Middleware σ) (host : Host σ) (server : StartResponse σ) (body : Body σ) :
    Move σ → Record σ × σ → (List Value × Stop) × (Record σ × σ)
  | .take demand, w => m.take host server body demand w
  | .close, w =>
    let r := m.close host server body w
    (([], .ofExcept r.1), r.2)
  | .elapse change, w => (([], .ended), (w.1, change w.2))

def literal (m : Middleware σ) (s : σ) : Except Refusal String :=
  (m.logger.literal s).map fun shown =>
    "<AccessLogMiddleware app=" ++ m.shown ++ " logger=" ++ shown ++ ">"

end Middleware

/-- A server's start of a response, with nothing beside the host's state. -/
def StartResponse.alone {σ : Type} (server : StartResponse σ) : StartResponse σ (Unit × σ) :=
  fun status headers trouble => Action.onHost (server status headers trouble)

namespace App

variable {σ : Type}

def call (app : App σ) (server : StartResponse σ) (environ : Environ) :
    Action σ (Body σ) := fun s =>
  let r := (app environ).finish server.alone ((), s)
  (r.1, r.2.2)

end App

namespace Body

variable {σ : Type}

/-- A move of the server with the body of an application that nothing watches. A body is closed if
it has a way to be closed, which has to be one that can be called. -/
def move (body : Body σ) (server : StartResponse σ) : Move σ → σ → (List Value × Stop) × σ
  | .take demand, s =>
    let walked := body.walk server.alone demand ((), s)
    (walked.1, walked.2.2)
  | .close, s =>
    match body.close with
    | .missing => (([], .ended), s)
    | .value v => (([], .raised (.notCallable v.kind)), s)
    | .able p =>
      let r := p.finish server.alone ((), s)
      (([], .ofExcept r.1), r.2.2)
  | .elapse change, s => (([], .ended), change s)

end Body

end RequestLog
