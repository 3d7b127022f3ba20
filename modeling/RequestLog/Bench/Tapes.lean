import RequestLog.Bench.Basic

/-!
Streams of a bench, each of which writes to a tape. Streams of octets and of text are closed for
good once they have been closed; recorders go on, and refuse the attempts that they were told to
refuse.
-/
namespace RequestLog.Bench

def onTape (n : Nat) (f : Tape → Tape) (b : Bench) : Bench :=
  { b with tapes := b.tapes.modify n f }

/-- The refusal of an attempt whose number is in a list. -/
def refusal (reason : String) (refused : List Int) (attempt : Nat) : Option Fault :=
  if refused.contains attempt then some (.host SystemError.general [.text reason] .none) else none

/-- Writes to a tape, unless that attempt is refused. -/
def writeTape (n : Nat) (refused : List Int) (out : Output) : Action Bench Unit := fun b =>
  match refusal "write refused" refused (b.tape n).attempts with
  | some f => (.error f, onTape n (fun t => { t with attempts := t.attempts + 1 }) b)
  | none =>
    (.ok (), onTape n (fun t =>
      { t with attempts := t.attempts + 1, written := t.written ++ [out] }) b)

/-- Flushes a tape; a flush that is refused is counted as well. -/
def flushTape (n : Nat) (refused : List Int) : Action Bench Unit := fun b =>
  (match refusal "flush refused" refused (b.tape n).flushes with
    | some f => .error f
    | none => .ok (),
    onTape n (fun t => { t with flushes := t.flushes + 1 }) b)

def closeTape (n : Nat) : Action Bench Unit :=
  Action.change (onTape n fun t => { t with closed := true })

/-- Does something with a tape unless it has been closed. -/
def whileOpen (n : Nat) (reason : String) (act : Action Bench Unit) : Action Bench Unit := fun b =>
  if (b.tape n).closed then (.error (.fileClosed reason), b) else act b

/-- Flushes and closes a tape, which is closed then also if the flush is refused. A tape that has
been closed is left alone. -/
def flushAndClose (n : Nat) (refused : List Int) : Action Bench Unit := fun b =>
  if (b.tape n).closed then (.ok (), b)
  else ((flushTape n refused b).1, (closeTape n (flushTape n refused b).2).2)

def octetStream (n : Nat) : Stream Bench where
  kind := "octet stream"
  shown _ := .ok "<bytes stream>"
  nature := .binary
  encoding := .null
  write := .able fun out => whileOpen n "I/O operation on closed file." (writeTape n [] out)
  flush := .able (whileOpen n "I/O operation on closed file." (flushTape n []))
  close := .able (closeTape n)

/-- A stream of text, which refuses octets whether it is closed or not. -/
def textStream (n : Nat) : Stream Bench where
  kind := "text stream"
  shown _ := .ok "<text stream>"
  nature := .textual
  encoding := .null
  write := .able fun
    | .octets _ => Action.fail .textExpected
    | .text s => whileOpen n "I/O operation on closed file" (writeTape n [] (.text s))
  flush := .able (flushTape n [])
  close := .able (closeTape n)

/-- A recorder of a mode and a character set, which cannot be closed. -/
def recorder (n : Nat) (mode encoding : Value) (flushes : Bool)
    (refusedWrites refusedFlushes : List Int) :
    Stream Bench where
  kind := "recorder"
  shown _ := .ok "<custom stream>"
  nature := .mode mode
  encoding := encoding
  write := .able (writeTape n refusedWrites)
  flush := if flushes then .able (flushTape n refusedFlushes) else .missing
  close := .able (Action.fail (.host SystemError.general [.text "close refused"] .none))

/-- A recorder of octets, which is flushed when it is closed. -/
def octetRecorder (n : Nat) (refusedWrites refusedFlushes : List Int) : Stream Bench where
  kind := "recorder"
  shown _ := .ok "<custom stream>"
  nature := .binary
  encoding := .null
  write := .able (writeTape n refusedWrites)
  flush := .able (flushTape n refusedFlushes)
  close := .able (flushAndClose n refusedFlushes)

/-- An object that is no stream, with what it has in the place of a way to write. -/
def plainObject (kind : String) (write : Operation (Output → Action Bench Unit)) :
    Stream Bench where
  kind := kind
  shown _ := .ok "<plain object>"
  nature := .mode .null
  encoding := .null
  write := write
  flush := .missing
  close := .missing

end RequestLog.Bench
