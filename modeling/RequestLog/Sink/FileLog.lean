import RequestLog.Sink.Directory
import RequestLog.Sink.Emitter

/-!
Emitters that write to a file. The file is opened before the settings are checked.
-/
namespace RequestLog.FileLog

variable {σ : Type}

def label : String := "FileEmitter"

/-- What an emitter that writes to a file takes by its place. -/
def placed : List String := ["self", "filepath"]

/-- The name of the setting that says whether the file is to be emptied. -/
def overwriting : String := "overwrite"

def stream (place : DirectoryOf σ) (name : String) (number : Nat) : Stream σ where
  kind := "file"
  shown _ := .ok (place.shown name)
  nature := .binary
  encoding := .null
  write := .able fun out s =>
    match out with
    | .octets os =>
      let r := (place.get s).write number os
      (r.1, place.set r.2 s)
    | .text _ => (.error .octetsExpected, s)
  flush := .able fun s => ((place.get s).flush number, s)
  close := .able (Action.change fun s => place.set ((place.get s).close number) s)

/-- Opens a file at its end, or empties it where `overwrite` counts as true. -/
def openFile (place : DirectoryOf σ) (path : String) (overwrite : Value) :
    Action σ (String × Nat) := fun s =>
  match (place.get s).locate path with
  | .error f => (.error f, s)
  | .ok name =>
    let r := (place.get s).openHandle name overwrite.truthy
    (.ok (name, r.1), place.set r.2 s)

/-- Opens a file and builds the emitter that writes to it, with the file's name. The values that
are given by name are whether the file is to be emptied, and the settings of a stream's emitter,
which are looked at once the file has been opened. -/
def build (host : Host σ) (place : DirectoryOf σ) (path : String) (named : Table Value) :
    Action σ (String × StreamEmitter σ) :=
  (Action.ofExcept (Fault.checkPlaced label placed named.names)).andThen fun _ =>
    (openFile place path ((named.get? overwriting).getD (.bool false))).andThen fun opened =>
      (Action.ofExcept (StreamSettings.ofNamed (.text Coding.defaultCharset)
        (named.erase overwriting))).andThen fun settings =>
        (StreamEmitter.build host label (.stream (stream place opened.1 opened.2))
          settings).andThen fun e => Action.done (opened.1, e)

end RequestLog.FileLog
