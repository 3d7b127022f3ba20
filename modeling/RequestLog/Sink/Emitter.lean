import RequestLog.Record

/-!
Emitters: what takes finished lines. A stream's emitter writes each line with its separator in one
piece and then flushes the stream; a write or flush that fails is noted, and the line is lost.
-/
namespace RequestLog

/-- What takes finished lines. -/
structure Emitter (σ : Type) where
  /-- The name of the emitter's kind in messages. -/
  kind : String
  shown : σ → Except Refusal String
  /-- Passes on what is held back, if the emitter can do that. -/
  flush : Option (Action σ Unit)
  emit : Snapshot σ → String → Action σ Unit

/-- Settings of a stream's emitter: a character set or null, a treatment, a separator, and the
names of settings that nobody knows. -/
structure StreamSettings where
  encoding : Value
  errors : Value
  separator : Value
  unknown : List String

namespace StreamSettings

def default : StreamSettings :=
  ⟨.null, .text Coding.defaultTreatment, .text "\n", []⟩

def known : List String := ["encoding", "errors", "sep"]

def placed : List String := ["self", "stream"]

/-- The settings of named values, with a character set or null where none is named. -/
def ofNamed (encoding : Value) (named : Table Value) : Except Fault StreamSettings := do
  Fault.checkPlaced "StreamEmitter" placed named.names
  return {
    encoding := (named.get? "encoding").getD encoding
    errors := (named.get? "errors").getD default.errors
    separator := (named.get? "sep").getD default.separator
    unknown := named.names.filter fun name => ! known.contains name }

end StreamSettings

/-- What a host offers as a place for lines. -/
inductive SinkOffer (σ : Type) where
  | value (v : Value)
  | stream (s : Stream σ)
  | emitter (e : Emitter σ)

namespace SinkOffer

variable {σ : Type}

def shown : SinkOffer σ → σ → Except Refusal String
  | value v, _ => v.literal
  | stream s, w => s.shown w
  | emitter e, w => e.shown w

/-- What is offered, the console's streams being known by name. -/
def named (host : Host σ) : SinkOffer σ → SinkOffer σ
  | value v => (Console.ofValue? v).elim (value v) fun c => stream (host.console c)
  | offer => offer

/-- What is offered in the place of a stream; null is none. -/
def asStream? : SinkOffer σ → Option (Stream σ)
  | value .null => none
  | value v => some (Stream.ofValue v)
  | stream s => some s
  | emitter e =>
    some ⟨e.kind, e.shown, .mode .null, .null, .missing, e.flush.elim .missing .able, .missing⟩

end SinkOffer

/-- An emitter that writes to a stream, which is gone once it has been closed. -/
structure StreamEmitter (σ : Type) where
  label : String
  stream : Option (Stream σ)
  binary : Bool
  coding : Coding
  separator : Value

namespace StreamEmitter

variable {σ : Type}

/-- The stream that is offered, which has to be one that can be written to. -/
def streamOf (host : Host σ) (label : String) (offer : SinkOffer σ) : Action σ (Stream σ) :=
  let found := offer.named host
  let refuse : Action σ (Stream σ) :=
    (Action.look found.shown).andThen fun shown => Action.fail (.streamNotWritable label shown)
  match found with
  | .stream s => if s.write.able?.isSome then Action.done s else refuse
  | _ => refuse

/-- The name of the character set to be used: the one that is given, else that of a text stream,
else the default. -/
def encodingFor (given : Value) (s : Stream σ) : Value :=
  match given with
  | .null =>
    if s.nature.isBinary then .text Coding.defaultCharset
    else s.encoding.orElse (.text Coding.defaultCharset)
  | v => v

/-- Builds the emitter of what is offered as a stream. -/
def build (host : Host σ) (label : String) (offer : SinkOffer σ) (settings : StreamSettings) :
    Action σ (StreamEmitter σ) :=
  if ! settings.unknown.isEmpty then Action.fail (.unknownSettings settings.unknown)
  else
    (streamOf host label offer).andThen fun s =>
      (Action.ofExcept (Coding.ofNames host.codecs (encodingFor settings.encoding s)
        settings.errors)).andThen
        fun coding => Action.done ⟨label, some s, s.nature.isBinary, coding, settings.separator⟩

def target (e : StreamEmitter σ) : Stream σ :=
  e.stream.getD (Stream.ofValue .null)

def literal (e : StreamEmitter σ) (w : σ) : Except Refusal String :=
  (e.target.shown w).map fun shown => "<" ++ e.label ++ " stream=" ++ shown ++ ">"

/-- A line with its separator; a separator that counts as false is left out. -/
def withSeparator (separator : Value) (entry : String) : Except Fault String :=
  if separator.truthy then
    match separator with
    | .text s => .ok (entry ++ s)
    | v => .error (.notJoinable v)
  else .ok entry

def output (e : StreamEmitter σ) (entry : String) : Except Fault Output := do
  let text ← withSeparator e.separator entry
  if e.binary then return .octets (← e.coding.encode text) else return .text text

def noteFailure (host : Host σ) (e : StreamEmitter σ) (name message : String) (fault : Fault) :
    Action σ Unit :=
  (Action.look e.literal).andThen fun shown => host.note name message [.fault fault, .object shown]

/-- Writes to the stream; one that is gone cannot be written to. -/
def write (e : StreamEmitter σ) (out : Output) : Action σ Unit :=
  e.target.writeOut out

/-- Flushes the stream if it can be flushed; a failure is noted. -/
def flush (host : Host σ) (e : StreamEmitter σ) : Action σ Unit :=
  match e.target.flush.able? with
  | none => Action.done ()
  | some act =>
    act.attempt.andThen fun
      | .ok () => Action.done ()
      | .error fault => noteFailure host e "stream_flush" "got %r on %r.flush()" fault

/-- Writes a line and flushes the stream; a write that fails is noted and nothing is flushed. -/
def emit (host : Host σ) (e : StreamEmitter σ) (entry : String) : Action σ Unit :=
  (Action.ofExcept (e.output entry)).andThen fun out =>
    (e.write out).attempt.andThen fun
      | .ok () => e.flush host
      | .error fault => noteFailure host e "stream_emit" "got %r on %r.emit_entry()" fault

/-- Flushes and closes the stream, which is gone afterwards; failures are noted. -/
def close (host : Host σ) (e : StreamEmitter σ) : Action σ (StreamEmitter σ) :=
  match e.stream with
  | none => Action.done e
  | some s =>
    (((e.flush host).andThen fun _ => s.shut).attempt.andThen fun
      | .ok () => Action.done ()
      | .error fault => noteFailure host e "file_close" "got %r on %r.close()" fault).andThen
      fun _ => Action.done { e with stream := none }

/-- Closes the stream behind the emitter's back. -/
def closeStream (e : StreamEmitter σ) : Action σ Unit :=
  e.target.shut

/-- The emitter with what is offered in the place of its stream. -/
def withStream (e : StreamEmitter σ) (offer : SinkOffer σ) : StreamEmitter σ :=
  { e with stream := offer.asStream? }

def emitter (host : Host σ) (e : StreamEmitter σ) : Emitter σ :=
  ⟨e.label, e.literal, some (e.flush host), fun _ entry => e.emit host entry⟩

end StreamEmitter

namespace Emitter

variable {σ : Type}

/-- The emitter of what is offered as a place for lines: an emitter itself, the console where
nothing is offered, and else the emitter of a stream. -/
def ofOffer (host : Host σ) : SinkOffer σ → Action σ (Emitter σ)
  | .emitter e => Action.done e
  | .value .null =>
    (StreamEmitter.build host "StreamEmitter" (.value (.text "stdout")) .default).andThen
      fun e => Action.done (e.emitter host)
  | offer =>
    (StreamEmitter.build host "StreamEmitter" offer .default).andThen
      fun e => Action.done (e.emitter host)

end Emitter

end RequestLog
