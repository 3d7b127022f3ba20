import RequestLog.Proofs.Sink.Opening
import RequestLog.Proofs.Sink.ReadBack

/-!
Sessions of lines in a file. Each session opens the file, hands lines to its emitter and closes it,
in any order; what the file holds in the end is what the sessions left of it, one after the other.
A line that comes after the end of its session is noted and lost, and ending a session again does
nothing.
-/
namespace RequestLog

open RequestLog.Action (Records)

variable {σ : Type}

/-- A directory beside which deeds are written down. -/
def DirectoryOf.recorded (place : DirectoryOf σ) : DirectoryOf (Recorded σ) where
  get w := place.get w.2
  set d w := (w.1, place.set d w.2)
  get_set d w := place.get_set d w.2
  shown := place.shown

namespace FileLog

/-- What is done with an emitter that writes to a file. -/
inductive Use where
  | emit (entry : String)
  | close
deriving DecidableEq, Repr

namespace Use

def isClose : Use → Bool
  | emit _ => false
  | close => true

def entry? : Use → Option String
  | emit entry => some entry
  | close => none

/-- The lines that come before the emitter is closed. -/
def timely (uses : List Use) : List String :=
  (uses.takeWhile (! ·.isClose)).filterMap entry?

end Use

/-- Uses an emitter, which is another one once it has been closed. -/
def useAll (host : Host σ) : List Use → StreamEmitter σ → Action σ Unit
  | [], _ => Action.done ()
  | .emit entry :: rest, e => (e.emit host entry).andThen fun _ => useAll host rest e
  | .close :: rest, e => (e.close host).andThen fun e => useAll host rest e

/-- A session: whether the file is to be emptied and the separator, as far as they are given, and
what is done with the emitter. -/
structure Session where
  overwrite : Option Value
  separator : Option String
  uses : List Use

namespace Session

def named (session : Session) : Table Value :=
  ⟨(session.overwrite.map fun v => (overwriting, v)).toList ++
    (session.separator.map fun sep => ("sep", .text sep)).toList⟩

def empties (session : Session) : Bool :=
  (session.overwrite.getD (.bool false)).truthy

/-- The separator of the lines, which is a line feed where none is given. -/
def sep (session : Session) : String :=
  session.separator.getD "\n"

/-- The octets of a line with its separator in UTF-8. -/
def octets (session : Session) (entry : String) : List UInt8 :=
  (entry ++ session.sep).toUTF8.data.toList

/-- What a session makes of the content of a file, which may be missing. -/
def after (before : Option (List UInt8)) (session : Session) : Option (List UInt8) :=
  some ((if session.empties then [] else before.getD []) ++
    (Use.timely session.uses).flatMap session.octets)

def run (host : Host σ) (place : DirectoryOf σ) (path : String) (session : Session) :
    Action σ Unit :=
  (build host place path session.named).andThen fun opened => useAll host session.uses opened.2

/-- The coding of a session, under the names that are the defaults. -/
def coding (codecs : Codecs) : Coding where
  charsetName := Coding.defaultCharset
  treatmentName := Coding.defaultTreatment
  charset := some .utf8
  treatment := some .escape
  own := codecs.encode Coding.defaultCharset Coding.defaultTreatment

/-- The emitter of a session. -/
def emitter (session : Session) (codecs : Codecs) (place : DirectoryOf σ) (name : String)
    (number : Nat) : StreamEmitter σ :=
  emitterOf place session.named name number (coding codecs)

section Settings

variable (session : Session)

end Settings

end Session

section Steps

variable {place : DirectoryOf σ} {session : Session} {name : String} {number : Nat}
    {content : List UInt8}
  {host : Host σ} {s t : σ}

end Steps

section Runs

variable {host : Host σ} {place : DirectoryOf σ} {session : Session} {path name : String}
    {number : Nat}
  {content : List UInt8} {names more : List String} {s t u : σ}

/-- An action that ends well, and of which every handler that listens is handed notes of some
names. -/
structure Reports (host : Host σ) (recorded : Action (Recorded σ) Unit) (act : Action σ Unit)
    (s t : σ) (names : List String) : Prop where
  ends : act s = (.ok (), t)
  notes : ∃ deeds, Records recorded act s deeds ∧
    ∀ handler, host.Listens handler → deeds.filterMap (Deed.noteTo? handler) = names

namespace Reports

variable {recorded recordedNext : Action (Recorded σ) Unit} {act next : Action σ Unit}

theorem done (host : Host σ) (s : σ) : Reports host (Action.done ()) (Action.done ()) s s [] :=
  ⟨rfl, [], Records.done (), fun _ _ => rfl⟩

theorem andThen (h : Reports host recorded act s t names)
    (hn : Reports host recordedNext next t u more) :
    Reports host (recorded.andThen fun _ => recordedNext) (act.andThen fun _ => next) s u
      (names ++ more) := by
  obtain ⟨hends, deeds, hdeeds, hnames⟩ := h
  obtain ⟨hlast, later, hlater, hmore⟩ := hn
  refine ⟨(Action.andThen_of_ok hends).trans hlast, deeds ++ later, hdeeds.andThen hends hlater,
    ?_⟩
  intro handler hh
  rw [List.filterMap_append, hnames handler hh, hmore handler hh]

end Reports

end Runs

end FileLog

end RequestLog
