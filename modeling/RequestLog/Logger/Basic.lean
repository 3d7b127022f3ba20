import RequestLog.Formatter
import RequestLog.Sink.Emitter

/-!
Loggers: what makes one line of each request. A host calls a logger when a request comes in, when
it has been handled, when the response has been sent, and when handling failed. A logger that logs
immediately makes its line when the request comes in, any other one when the response is sent or
handling fails.
-/
namespace RequestLog

/-- A predicate by which the lines of some requests are left out. -/
structure Skip (σ : Type) where
  shown : Except Refusal String
  call : Snapshot σ → Action σ Value

/-- What a host offers as a predicate. -/
inductive SkipOffer (σ : Type) where
  | skip (p : Skip σ)
  | value (v : Value)

/-- What a logger is to be built from. -/
structure LoggerSettings (σ : Type) where
  format : Value
  immediate : Value
  stream : SinkOffer σ
  skip : SkipOffer σ
  placeholder : Option Value
  unknown : List String

/-- A logger. -/
structure Logger (σ : Type) where
  formatter : Formatter σ
  emitter : Emitter σ
  options : Options σ
  skip : Option (Skip σ)

namespace LoggerSettings

variable {σ : Type}

/-- The settings of a format and a place for lines. -/
def plain (format : Value) (stream : SinkOffer σ) : LoggerSettings σ :=
  ⟨format, .bool false, stream, .value .null, none, []⟩

/-- The names of the settings, beside that of the format. -/
def known : List String := ["immediate", "stream", "skip", "registry", "placeholder"]

/-- Refuses names of what a logger takes by its place, which is the format if `formatPlaced`
holds. -/
def checkNames (formatPlaced : Bool) (names : List String) : Except Fault Unit :=
  Fault.checkPlaced "AccessLogger" ("self" :: if formatPlaced then ["format"] else []) names

def unknownOf (names : List String) : List String :=
  names.filter fun name => ! known.contains name

/-- The predicate that is offered, if any; a value other than null is none. -/
def skipOf : SkipOffer σ → Except Fault (Option (Skip σ))
  | .skip p => .ok (some p)
  | .value .null => .ok none
  | .value v => .error (.skipNotCallable v)

/-- The predicate of settings that pass the checks made before the format is read. -/
def check (s : LoggerSettings σ) : Except Fault (Option (Skip σ)) :=
  if ! s.unknown.isEmpty then .error (.unknownSettings s.unknown)
  else if ! s.format.truthy then .error .formatUndefined
  else skipOf s.skip

/-- The settings of the formatter, with what is offered in the place of a registry, which is null
for the registry at hand. -/
def formatterSettings (s : LoggerSettings σ) (registry : Value := .null) : FormatterSettings :=
  ⟨s.format, s.placeholder, registry, []⟩

end LoggerSettings

namespace Logger

variable {σ : Type}

def skipShown : Option (Skip σ) → Except Refusal String
  | some p => p.shown
  | none => Value.null.literal

def optionsOf (s : LoggerSettings σ) (skip : Option (Skip σ)) : Options σ :=
  ⟨s.format, s.immediate.truthy, s.stream.shown, skipShown skip⟩

/-- Builds the formatter of settings on the registry of a state. -/
def buildFormatter (s : LoggerSettings σ) (registry : Value := .null) :
    Action (Registry σ × σ) (Formatter σ) := fun w =>
  let r := Formatter.build w.1 (s.formatterSettings registry)
  (r.1, (r.2, w.2))

/-- Builds a logger on a registry, unless something else is offered in its place. The registry is
frozen as soon as the formatter is built, which is before the emitter is. -/
def build (host : Host σ) (s : LoggerSettings σ) (registry : Value := .null) :
    Action (Registry σ × σ) (Logger σ) :=
  (Action.ofExcept s.check).andThen fun skip =>
    (buildFormatter s registry).andThen fun formatter =>
      (Action.onHost (Emitter.ofOffer host s.stream)).andThen fun emitter =>
        Action.done ⟨formatter, emitter, optionsOf s skip, skip⟩

/-- Whether the logger makes its lines when requests come in. -/
def immediate (l : Logger σ) : Bool :=
  l.options.immediate

/-- Whether the predicate leaves the line of a snapshot out; a predicate that fails is noted and
leaves nothing out. -/
def skips (l : Logger σ) (host : Host σ) (snapshot : Snapshot σ) : Action σ Bool :=
  match l.skip with
  | none => Action.done false
  | some p =>
    (p.call snapshot).attempt.andThen fun
      | .ok v => Action.done v.truthy
      | .error fault =>
        (host.note "skip" "got %r calling skip predicate %r" [.fault fault,
          .object p.shown]).andThen fun _ => Action.done false

/-- Makes the line of a snapshot and emits it, unless the predicate leaves it out. -/
def logSnapshot (l : Logger σ) (host : Host σ) (snapshot : Snapshot σ) :
    Action σ (Option String) :=
  (l.skips host snapshot).andThen fun skipped =>
    if skipped then Action.done none
    else
      (l.formatter.line host snapshot).andThen fun line =>
        (l.emitter.emit snapshot line).andThen fun _ => Action.done (some line)

/-- Marks a record as logged and logs its snapshot. -/
def logRequest (l : Logger σ) (host : Host σ) : Action (Record σ × σ) (Option String) := fun w =>
  Action.onHost (l.logSnapshot host w.1.snapshot) (w.1.markLogged, w.2)

def onRecord (f : Record σ → Record σ) : Action (Record σ × σ) Unit :=
  Action.change fun w => (f w.1, w.2)

/-- Sets a header of the response, unless its name or value refuses its text. -/
def setHeader (name value : Value) : Action (Record σ × σ) Unit := fun w =>
  match w.1.setHeader name value with
  | .ok r => (.ok (), (r, w.2))
  | .error f => (.error f, w)

def finish (host : Host σ) : Action (Record σ × σ) Unit :=
  Action.change fun w => (w.1.finish (host.now w.2), w.2)

/-- Captures the end of the request and logs it, unless the logger logs immediately or the request
has been logged. -/
def conclude (l : Logger σ) (host : Host σ) : Action (Record σ × σ) (Option String) := fun w =>
  if l.immediate || w.1.isLogged then (.ok none, w)
  else ((finish host).andThen fun _ => l.logRequest host) w

/-- A request has come in. The result is the record that the host passes on. -/
def startRequest (l : Logger σ) (host : Host σ) (request : Request) :
    Action σ (Record σ) := fun s =>
  let record := Record.start request Response.initial (some l.options) (host.now s)
  if l.immediate then
    match l.logRequest host (record, s) with
    | (.ok _, (record, s)) => (.ok record.markHandling, s)
    | (.error f, (_, s)) => (.error f, s)
  else (.ok record.markHandling, s)

def afterHandle (host : Host σ) : Action (Record σ × σ) Unit :=
  finish host

def onResponse (l : Logger σ) (host : Host σ) : Action (Record σ × σ) (Option String) :=
  l.conclude host

def notFoundStatus : Value := .int 404

/-- Handling failed, possibly because nothing was found. -/
def onError (l : Logger σ) (host : Host σ) (notFound : Bool) :
    Action (Record σ × σ) (Option String) :=
  (onRecord fun r => if notFound then r.setStatus notFoundStatus else r).andThen fun _ =>
    l.conclude host

/-- A request that comes in and is answered at once. -/
def serve (l : Logger σ) (host : Host σ) (request : Request) : Action σ (Option String) :=
  (l.startRequest host request).andThen fun record => fun s =>
    let r := l.onResponse host (record, s)
    (r.1, r.2.2)

def formatLine (l : Logger σ) (host : Host σ) (snapshot : Snapshot σ) : Action σ String :=
  l.formatter.line host snapshot

def literal (l : Logger σ) (s : σ) : Except Refusal String := do
  return "<AccessLogger format=" ++ (← l.options.format.literal) ++ " immediate="
    ++ Value.boolWord l.immediate ++ " emitter=" ++ (← l.emitter.shown s) ++ ">"

end Logger

end RequestLog
