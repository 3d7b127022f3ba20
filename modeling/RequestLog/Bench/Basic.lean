import RequestLog.Gateway.Process
import RequestLog.Logger.Basic
import RequestLog.Sink.Directory
import RequestLog.Sink.Ring

/-!
Benches: hosts that keep everything in memory. The clocks of a bench show what they are set to; it
remembers the notes that its handlers receive, what is written to its streams and rings, its files,
and how often its extractors and predicates are called.
-/
namespace RequestLog

/-- A stream of a bench: what has been written to it, how often that and a flush were tried, and
whether it has been closed. -/
structure Tape where
  written : List Output
  attempts : Nat
  flushes : Nat
  closed : Bool

/-- What a handler received: its name, and the name and text of the note. -/
structure Received where
  handler : String
  name : String
  text : Text.Wide
deriving DecidableEq, Repr

/-- The start of a response as a server received it. -/
structure Started where
  status : Value
  headers : HeaderSource
  trouble : Value

/-- The state of a bench. -/
structure Bench where
  clock : ClockReading
  board : Option Board
  received : List Received
  /-- The handlers that are known, with the fault of those that fail once they have received a
  note. -/
  handlers : Table (Option Fault)
  stdout : String
  stderr : String
  tapes : List Tape
  rings : List (Ring String)
  directory : Directory
  /-- How often each counting extractor has been called. -/
  counts : List Nat
  /-- How often predicates have been called. -/
  asked : Nat
  started : List Started
  /-- How often each body has been closed, for bodies that count it. -/
  closings : List (Option Nat)

namespace Bench

/-- The bench at the start, with the clocks at a reading. -/
def initial (clock : ClockReading) : Bench :=
  ⟨clock, none, [], Table.empty, "", "", [], [], Directory.empty, [], 0, [], []⟩

def textOf (outs : List Output) : String :=
  String.join (outs.map fun
    | .text s => s
    | .octets _ => "")

def octetsOf (outs : List Output) : List UInt8 :=
  outs.flatMap fun
    | .text _ => []
    | .octets os => os

def print (c : Console) (s : String) (b : Bench) : Bench :=
  match c with
  | .stdout => { b with stdout := b.stdout ++ s }
  | .stderr => { b with stderr := b.stderr ++ s }

def printed (b : Bench) : Console → String
  | .stdout => b.stdout
  | .stderr => b.stderr

def console (c : Console) : Stream Bench where
  kind := "console"
  shown _ := .ok "<text stream>"
  nature := .textual
  encoding := .null
  write := .able fun out => Action.change (print c (textOf [out]))
  flush := .able (Action.done ())
  close := .able (Action.done ())

def receive (handler name : String) (text : Text.Wide) : Action Bench Unit := fun b =>
  (match b.handlers.get? handler with
    | some (some f) => .error f
    | _ => .ok (),
    { b with received := b.received ++ [⟨handler, name, text⟩] })

/-- A handler that is offered, with the fault of one that fails; it stays what it was at first. -/
def meet (handler : String) (fault : Option Fault) (b : Bench) : Bench :=
  if b.handlers.contains handler then b else { b with handlers := b.handlers.put handler fault }

/-- The codecs of a bench: it has none of its own, and one treatment under which it refuses every
text. -/
def codecs : Codecs where
  charset _ := false
  treatment name := name == "namereplace"
  encode _ name _ := .error (.unknownTreatment name)

def host : Host Bench where
  now b := b.clock
  board b := b.board
  setBoard board b := { b with board := some board }
  receive := receive
  console := console
  codecs := codecs

/-- The directory of a bench, of which handles on files are described by `shown`. -/
def place (shown : String → String) : DirectoryOf Bench where
  get b := b.directory
  set d b := { b with directory := d }
  shown := shown

def newTape : Action Bench Nat := fun b =>
  (.ok b.tapes.length, { b with tapes := b.tapes ++ [⟨[], 0, 0, false⟩] })

def tape (b : Bench) (n : Nat) : Tape :=
  b.tapes.getD n ⟨[], 0, 0, false⟩

def newRing (limit : Option Nat) : Action Bench Nat := fun b =>
  (.ok b.rings.length, { b with rings := b.rings ++ [Ring.empty limit] })

def ring (b : Bench) (n : Nat) : Ring String :=
  b.rings.getD n (Ring.empty none)

/-- The emitter that keeps lines in a ring whose limit was set by a value. -/
def ringEmitter (n : Nat) (limit : Value) : Emitter Bench where
  kind := "AggregateEmitter"
  shown b := (b.ring n).literal limit
  flush := none
  emit _ line := Action.change fun b => { b with rings := b.rings.modify n (·.push line) }

def newCounter : Action Bench Nat := fun b =>
  (.ok b.counts.length, { b with counts := b.counts ++ [0] })

/-- The extractor that tells how often it has been called. -/
def counting (shown : String) (n : Nat) : Extractor Bench where
  shown := shown
  call _ _ := fun b =>
    let count := b.counts.getD n 0 + 1
    (.ok (.text ("n" ++ Number.intText count)), { b with counts := b.counts.set n count })

/-- The predicate of a function, whose calls are counted. -/
def asking (shown : String) (f : Snapshot Bench → Except Fault Value) : Skip Bench where
  shown := .ok shown
  call s := fun b => (f s, { b with asked := b.asked + 1 })

/-- Whether a text or octets end with others of their kind. -/
def endsWith (v suffix : Value) : Except Fault Value :=
  match v, suffix with
  | .text u, .text s => .ok (.bool (u.endsWith s))
  | .octets u, .octets s => .ok (.bool (s.isSuffixOf u))
  | .text _, s =>
    .error (.host "TypeError"
      [.text ("endswith first arg must be str or a tuple of str, not " ++ s.kind)] .none)
  | .octets _, s =>
    .error (.host "TypeError"
      [.text ("endswith first arg must be bytes or a tuple of bytes, not " ++ s.kind)] .none)
  | v, _ => .error (.noAttribute v.kind "endswith")

/-- A server that remembers how responses are started, and gives nothing back. -/
def server : StartResponse Bench := fun status headers trouble b =>
  (.ok (.value .null), { b with started := b.started ++ [⟨status, headers, trouble⟩] })

end Bench

end RequestLog
