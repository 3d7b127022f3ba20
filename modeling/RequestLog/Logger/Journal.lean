import RequestLog.Logger.Basic

/-!
Journals: the records of many requests that one logger serves at a time, and what a host may do to
them in any order.
-/
namespace RequestLog

/-- What a host does. Requests are known by names of the host's choice. -/
inductive Event (σ : Type) where
  | start (id : String) (request : Request)
  | handled (id : String)
  | responded (id : String)
  | failed (id : String) (notFound : Bool)
  | log (id : String)
  | format (id : String)
  | markHandling (id : String)
  | finish (id : String)
  | markLogged (id : String)
  | snapshot (id : String)
  | setStatus (id : String) (status : Value)
  | setHeader (id : String) (name value : Value)
  | setTimes (id : String) (startAt endAt : Option (Option Float))
  /-- The host's state changes by itself. -/
  | elapse (change : σ → σ)

/-- What an event answers. -/
inductive Answer (σ : Type) where
  | nothing
  | line (line : Option String)
  | snapshot (s : Snapshot σ)

/-- The records of requests, and the state of the host. -/
structure Journal (σ : Type) where
  records : Table (Record σ)
  host : σ

namespace Journal

variable {σ : Type}

/-- An action on the record of a request, which fails if there is none. -/
def onRecord (id : String) (act : Action (Record σ × σ) (Answer σ)) :
    Action (Journal σ) (Answer σ) :=
  fun j =>
    match j.records.get? id with
    | none => (.error (.missing id), j)
    | some r =>
      let w := act (r, j.host)
      (w.1, ⟨j.records.put id w.2.1, w.2.2⟩)

/-- The record with times that are given in place of those that it has. -/
def withTimes (startAt endAt : Option (Option Float)) (r : Record σ) : Record σ :=
  { r with startAt := startAt.getD r.startAt, endAt := endAt.getD r.endAt }

def silent (act : Action (Record σ × σ) Unit) : Action (Record σ × σ) (Answer σ) :=
  act.andThen fun _ => Action.done .nothing

def speaking (act : Action (Record σ × σ) (Option String)) : Action (Record σ × σ) (Answer σ) :=
  act.andThen fun line => Action.done (.line line)

/-- A request comes in. If that fails, there is no record of it. -/
def start (l : Logger σ) (host : Host σ) (id : String) (request : Request) :
    Action (Journal σ) (Answer σ) := fun j =>
  match l.startRequest host request j.host with
  | (.ok r, s) => (.ok .nothing, ⟨j.records.put id r, s⟩)
  | (.error f, s) => (.error f, ⟨j.records, s⟩)

def step (l : Logger σ) (host : Host σ) : Event σ → Action (Journal σ) (Answer σ)
  | .start id request => start l host id request
  | .handled id => onRecord id (silent (Logger.afterHandle host))
  | .responded id => onRecord id (speaking (l.onResponse host))
  | .failed id notFound => onRecord id (speaking (l.onError host notFound))
  | .log id => onRecord id (speaking (l.logRequest host))
  | .format id =>
    onRecord id fun w =>
      speaking (Action.onHost ((l.formatLine host w.1.snapshot).andThen
        fun line => Action.done (some line))) w
  | .markHandling id => onRecord id (silent (Logger.onRecord Record.markHandling))
  | .finish id => onRecord id (silent (Logger.finish host))
  | .markLogged id => onRecord id (silent (Logger.onRecord Record.markLogged))
  | .snapshot id => onRecord id fun w => (.ok (.snapshot w.1.snapshot), w)
  | .setStatus id status => onRecord id (silent (Logger.onRecord (·.setStatus status)))
  | .setHeader id name value => onRecord id (silent (Logger.setHeader name value))
  | .setTimes id startAt endAt =>
    onRecord id (silent (Logger.onRecord (withTimes startAt endAt)))
  | .elapse change => fun j => (.ok .nothing, ⟨j.records, change j.host⟩)

/-- The answers of events one after the other, and the journal after them. -/
def run (l : Logger σ) (host : Host σ) :
    List (Event σ) → Journal σ → List (Except Fault (Answer σ)) × Journal σ
  | [], j => ([], j)
  | e :: rest, j =>
    let first := step l host e j
    let later := run l host rest first.2
    (first.1 :: later.1, later.2)

end Journal

end RequestLog
