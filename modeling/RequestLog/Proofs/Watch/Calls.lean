import RequestLog.Logger.Basic
import RequestLog.Proofs.Tables

/-!
Watched hosts and loggers. The calls that a logger makes of what a host has given it are written
down beside the host's state, each with what came of it. Nothing else is changed: what is given to
the logger still sees the host's state alone.
-/
namespace RequestLog

/-- A call of something that a host has given to a logger, with what came of it. -/
inductive Call (σ : Type) where
  /-- The predicate was asked about a snapshot. -/
  | asked (snapshot : Snapshot σ) (verdict : Except Fault Value)
  /-- The extractor of a key was called. -/
  | extracted (key : String) (snapshot : Snapshot σ) (args : List Value)
      (value : Except Fault Value)
  /-- A line was handed to the emitter. -/
  | emitted (snapshot : Snapshot σ) (line : String) (outcome : Except Fault Unit)
  /-- A note was handed to a handler. -/
  | noted (handler name : String) (text : Text.Wide) (outcome : Except Fault Unit)
  /-- The application behind a logger was entered with an environment. -/
  | entered (environ : Table Value)

/-- The calls made so far, and the state of the host. -/
abbrev Watched (σ : Type) := List (Call σ) × σ

namespace Call

variable {σ : Type}

/-- What was handed to the emitter, if the call was one of it. -/
def entry? : Call σ → Option (Snapshot σ × String)
  | emitted snapshot line _ => some (snapshot, line)
  | _ => none

/-- Whether the call is one of the predicate to which it gave a value that counts as true. -/
def leavesOut : Call σ → Bool
  | asked _ (.ok v) => v.truthy
  | _ => false

/-- What was handed to the emitter in calls, in their order. -/
def entries (calls : List (Call σ)) : List (Snapshot σ × String) :=
  calls.filterMap entry?

@[simp] theorem entries_nil : entries ([] : List (Call σ)) = [] := rfl

@[simp] theorem entries_append (a b : List (Call σ)) : entries (a ++ b) = entries a ++ entries b :=
  List.filterMap_append

end Call

namespace Action

variable {σ α : Type}

/-- An action that is written down as a call once it is over. -/
def watched (call : Except Fault α → Call σ) (act : Action σ α) : Action (Watched σ) α := fun w =>
  ((act w.2).1, (w.1 ++ [call (act w.2).1], (act w.2).2))

end Action

namespace Options

variable {σ : Type}

def watched (o : Options σ) : Options (Watched σ) :=
  ⟨o.format, o.immediate, fun w => o.stream w.2, o.skip⟩

/-- The options as what is given to a logger sees them. -/
def unwatched (calls : List (Call σ)) (o : Options (Watched σ)) : Options σ :=
  ⟨o.format, o.immediate, fun s => o.stream (calls, s), o.skip⟩

end Options

namespace Snapshot

variable {σ : Type}

def watched (s : Snapshot σ) : Snapshot (Watched σ) :=
  ⟨s.request, s.response, s.options.map Options.watched, s.startAt, s.startTime, s.endAt,
  s.endTime⟩

/-- The snapshot as what is given to a logger sees it. -/
def unwatched (calls : List (Call σ)) (s : Snapshot (Watched σ)) : Snapshot σ :=
  ⟨s.request, s.response, s.options.map (Options.unwatched calls), s.startAt, s.startTime, s.endAt,
    s.endTime⟩

@[simp] theorem unwatched_watched (s : Snapshot σ) (calls : List (Call σ)) :
    s.watched.unwatched calls = s := by
  cases s with
  | mk request response options =>
    cases options <;> rfl

end Snapshot

namespace Record

variable {σ : Type}

def watched (r : Record σ) : Record (Watched σ) :=
  ⟨r.request, r.response, r.options.map Options.watched, r.startAt, r.startTime, r.endAt,
    r.endTime, r.stage⟩

@[simp] theorem snapshot_watched (r : Record σ) : r.watched.snapshot = r.snapshot.watched := rfl

@[simp] theorem isLogged_watched (r : Record σ) : r.watched.isLogged = r.isLogged := rfl

@[simp] theorem markLogged_watched (r : Record σ) : r.watched.markLogged = r.markLogged.watched :=
    rfl

@[simp] theorem setStatus_watched (r : Record σ) (status : Value) :
    r.watched.setStatus status = (r.setStatus status).watched := rfl

@[simp] theorem setHeader_watched (r : Record σ) (name value : Value) :
    r.watched.setHeader name value = (r.setHeader name value).map watched := by
  rw [setHeader, setHeader]
  show (r.response.setHeader name value).map _ = _
  cases r.response.setHeader name value <;> rfl

/-- The record after a header of its response has been set, or as it was if that is refused. -/
def headed (name value : Value) (r : Record σ) : Record σ :=
  match r.setHeader name value with
  | .ok r' => r'
  | .error _ => r

theorem headed_watched (name value : Value) (r : Record σ) :
    r.watched.headed name value = (r.headed name value).watched := by
  rw [headed, headed, setHeader_watched]
  cases r.setHeader name value <;> rfl

/-- Setting a header changes nothing of a record but the headers of its response. -/
theorem exists_headed (name value : Value) (r : Record σ) :
    ∃ headers, r.headed name value = { r with response :=
    { r.response with headers := headers } } := by
  unfold headed setHeader Response.setHeader
  cases r.response.headers.set name value with
  | ok headers => exact ⟨headers, rfl⟩
  | error f => exact ⟨r.response.headers, rfl⟩

theorem isLogged_headed (name value : Value) (r : Record σ) :
    (r.headed name value).isLogged = r.isLogged := by
  obtain ⟨response, h⟩ := r.exists_headed name value
  rw [h]
  rfl

@[simp] theorem markHandling_watched (r : Record σ) :
    r.watched.markHandling = r.markHandling.watched := by
  unfold markHandling
  split <;> simp_all [watched]

/-- Capturing the end of a request does not tell whether it has been logged. -/
@[simp] theorem isLogged_finish (r : Record σ) (now : ClockReading) :
    (r.finish now).isLogged = r.isLogged := by
  obtain ⟨_, _, _, _, _, endAt, _, stage⟩ := r
  cases endAt <;> cases stage <;> rfl

@[simp] theorem finish_watched (r : Record σ) (now : ClockReading) :
    r.watched.finish now = (r.finish now).watched := by
  by_cases h : r.endAt.isNone <;> by_cases hs : r.stage = .logged <;>
    simp [finish, watched, h, hs]

end Record

namespace Operation

variable {α β : Type}

/-- The operation with what it does changed by a function. -/
def map (f : α → β) : Operation α → Operation β
  | missing => missing
  | value v => value v
  | able run => able (f run)

end Operation

namespace Stream

variable {σ : Type}

def watched (s : Stream σ) : Stream (Watched σ) where
  kind := s.kind
  shown w := s.shown w.2
  nature := s.nature
  encoding := s.encoding
  write := s.write.map fun write out => Action.onHost (write out)
  flush := s.flush.map Action.onHost
  close := s.close.map Action.onHost

end Stream

namespace Host

variable {σ : Type}

def watched (host : Host σ) : Host (Watched σ) where
  now w := host.now w.2
  board w := host.board w.2
  setBoard board w := (w.1, host.setBoard board w.2)
  receive handler name text :=
    (host.receive handler name text).watched (.noted handler name text)
  console c := (host.console c).watched
  codecs := host.codecs

end Host

namespace Extractor

variable {σ : Type}

def watched (key : String) (e : Extractor σ) : Extractor (Watched σ) where
  shown := e.shown
  call snapshot args := fun w =>
    (e.call (snapshot.unwatched w.1) args).watched (.extracted key (snapshot.unwatched w.1) args) w

end Extractor

namespace Skip

variable {σ : Type}

def watched (p : Skip σ) : Skip (Watched σ) where
  shown := p.shown
  call snapshot := fun w =>
    (p.call (snapshot.unwatched w.1)).watched (.asked (snapshot.unwatched w.1)) w

end Skip

namespace Emitter

variable {σ : Type}

def watched (e : Emitter σ) : Emitter (Watched σ) where
  kind := e.kind
  shown w := e.shown w.2
  flush := e.flush.map Action.onHost
  emit snapshot line := fun w =>
    (e.emit (snapshot.unwatched w.1) line).watched (.emitted (snapshot.unwatched w.1) line) w

end Emitter

namespace Binding

variable {σ : Type}

def watched (b : Binding σ) : Binding (Watched σ) :=
  ⟨b.key, b.extractor.watched b.key, b.args⟩

end Binding

namespace Formatter

variable {σ : Type}

def watched (f : Formatter σ) : Formatter (Watched σ) where
  name := f.name
  given := f.given
  format := f.format
  placeholder := f.placeholder
  segments := f.segments
  registry := ⟨f.registry.table.map fun name e => e.watched name, f.registry.frozen⟩
  bindings := f.bindings.map Binding.watched
  template := f.template

end Formatter

namespace Logger

variable {σ : Type}

/-- A logger whose calls of what it was given are written down. -/
def watched (l : Logger σ) : Logger (Watched σ) where
  formatter := l.formatter.watched
  emitter := l.emitter.watched
  options := l.options.watched
  skip := l.skip.map Skip.watched

@[simp] theorem immediate_watched (l : Logger σ) : l.watched.immediate = l.immediate := rfl

end Logger

end RequestLog
