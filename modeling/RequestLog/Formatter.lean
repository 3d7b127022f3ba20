import RequestLog.Format.Layout
import RequestLog.Format.Preset
import RequestLog.Format.Template
import RequestLog.Text.Blank
import RequestLog.Token.Registry

/-!
Formatters: a format with the extractors of its tokens. A formatter is only built if every token of
its format is registered, and building it freezes the registry. For a request each distinct token
is computed once; a token that fails is noted and counts as absent.
-/
namespace RequestLog

/-- The text for absent values where no other is given. -/
def defaultPlaceholder : String := "-"

/-- What a formatter is to be built from: a format or its name, a placeholder if one is given, what
is offered in the place of a registry, which is null for the registry at hand, and the names of
settings that nobody knows. -/
structure FormatterSettings where
  format : Value
  placeholder : Option Value
  registry : Value
  unknown : List String

namespace FormatterSettings

def placed : List String := ["self", "format_str"]

def known : List String := ["registry", "placeholder"]

def ofFormat (format : Value) : FormatterSettings :=
  ⟨format, none, .null, []⟩

def ofNamed (format : Value) (named : Table Value) : Except Fault FormatterSettings := do
  Fault.checkPlaced "AccessFormatter" placed named.names
  return {
    format := format
    placeholder := named.get? "placeholder"
    registry := (named.get? "registry").getD .null
    unknown := named.names.filter fun name => ! known.contains name }

end FormatterSettings

/-- Whether a text is found in a value, as a part of a text or as a member of a list. -/
def Value.member (v : Value) (name : String) : Except Fault Bool :=
  match v with
  | text s => .ok (Text.occurs name.toList s.toList)
  | list items => .ok (items.any (·.equals (.text name)))
  | octets _ => .error .octetsExpected
  | v => .error (.noMembers v.kind)

/-- A token of a format with the extractor that computes it. -/
structure Binding (σ : Type) where
  key : String
  extractor : Extractor σ
  args : List String

/-- A format that is ready to make lines of snapshots. -/
structure Formatter (σ : Type) where
  /-- The name of the format, if it was given by name. -/
  name : Option String
  /-- The format as it was given. -/
  given : String
  /-- The format in full. -/
  format : String
  placeholder : String
  segments : List Segment
  registry : Registry σ
  bindings : List (Binding σ)
  template : Template

namespace Formatter

variable {σ : Type}

/-- The tokens without those whose key is among `seen` or is that of an earlier one. -/
def distinctFrom (seen : List String) : List Token → List Token
  | [] => []
  | t :: rest =>
    if seen.contains t.key then distinctFrom seen rest else t :: distinctFrom (t.key :: seen) rest

/-- The tokens of distinct keys, in the order of their first occurrence: of the tokens of one key
the first is kept. -/
def distinct (tokens : List Token) : List Token :=
  distinctFrom [] tokens

/-- The first token that is not in the registry. -/
def firstUnknown? (registry : Registry σ) (tokens : List Token) : Option Token :=
  tokens.find? fun t => ! registry.contains t.name

/-- The bindings of tokens that are in the registry. -/
def bindingsOf (registry : Registry σ) (tokens : List Token) : List (Binding σ) :=
  (distinct tokens).filterMap fun t =>
    (registry.table.get? t.name).map fun e => ⟨t.key, e, t.args⟩

/-- The formatter of a format and a placeholder whose tokens are all in the registry. -/
def ofFormat (registry : Registry σ) (given placeholder : String) : Formatter σ :=
  let format := Preset.expand given
  let segments := parseFormat format
  { name := (Preset.ofName? given).map fun _ => given
    given := given
    format := format
    placeholder := placeholder
    segments := segments
    registry := registry
    bindings := bindingsOf registry (Segment.tokens segments)
    template := Template.compile segments placeholder }

/-- The texts of a format and a placeholder, if the settings give such. -/
def checkSettings (settings : FormatterSettings) : Except Fault (String × String) :=
  if ! settings.unknown.isEmpty then .error (.unknownSettings settings.unknown)
  else if ! settings.format.truthy then .error (.formatEmpty settings.format)
  else
    match settings.format, settings.placeholder.getD (.text defaultPlaceholder) with
    | .text format, .text placeholder => .ok (format, placeholder)
    | .text _, v => .error (.placeholderNotText v)
    | v, _ => .error (.formatNotText v)

/-- What a token meets when it is looked for in a value, if it is not found there. -/
def tokenFault? (v : Value) (format : String) (t : Token) : Option Fault :=
  match v.member t.name with
  | .ok true => none
  | .ok false => some (.unknownToken (.text t.name) (some (.text format)))
  | .error f => some f

/-- Why a value cannot stand in the place of a registry: it lacks a token, has no members, or
cannot be frozen. -/
def registryFault (v : Value) (format : String) (tokens : List Token) : Fault :=
  match tokens.findSome? (tokenFault? v format) with
  | some f => f
  | none => .noAttribute v.kind "freeze"

/-- Builds a formatter on a registry, with the registry as it is afterwards: frozen if the
formatter is built, and unchanged otherwise. -/
def build (registry : Registry σ) (settings : FormatterSettings) :
    Except Fault (Formatter σ) × Registry σ :=
  match checkSettings settings with
  | .error f => (.error f, registry)
  | .ok (format, placeholder) =>
    let full := Preset.expand format
    let tokens := Segment.tokens (parseFormat full)
    match settings.registry, firstUnknown? registry tokens with
    | .null, none => (.ok (ofFormat registry.freeze format placeholder), registry.freeze)
    | .null, some t => (.error (.unknownToken (.text t.name) (some (.text full))), registry)
    | v, _ => (.error (registryFault v full tokens), registry)

/-- The tokens of a formatter, in the order of the format. -/
def tokens (f : Formatter σ) : List Token :=
  Segment.tokens f.segments

def noteFailure (host : Host σ) (key : String) (snapshot : Snapshot σ) (fault : Fault) :
    Action σ Unit :=
  (Action.look snapshot.literal).andThen fun shown =>
    host.note "token_resolve" "got %r resolving token %r for %r"
      [.fault fault, .value (.text key), .object shown]

/-- The value of a binding; a failure is noted and makes the value null. -/
def resolveOne (host : Host σ) (snapshot : Snapshot σ) (b : Binding σ) : Action σ Value :=
  (b.extractor.call snapshot (b.args.map .text)).attempt.andThen fun
    | .ok v => Action.done v
    | .error fault => (noteFailure host b.key snapshot fault).andThen fun _ => Action.done .null

/-- The values of bindings, computed one after the other. -/
def resolveAll (host : Host σ) (snapshot : Snapshot σ) :
    List (Binding σ) → Action σ (List (String × Value))
  | [] => Action.done []
  | b :: rest =>
    (resolveOne host snapshot b).andThen fun v =>
      (resolveAll host snapshot rest).andThen fun vs => Action.done ((b.key, v) :: vs)

/-- The values of a formatter's tokens for a snapshot. -/
def resolve (f : Formatter σ) (host : Host σ) (snapshot : Snapshot σ) : Action σ (Table Value) :=
  (resolveAll host snapshot f.bindings).andThen fun vs => Action.done ⟨vs⟩

/-- The line of a snapshot. It is not made if a value refuses its text, which only shows once every
token has been computed. -/
def line (f : Formatter σ) (host : Host σ) (snapshot : Snapshot σ) : Action σ String :=
  (f.resolve host snapshot).andThen fun values => Action.ofExcept (f.template.render values)

def literal (f : Formatter σ) : String :=
  "AccessFormatter(" ++ Text.quote f.given ++ ")"

end Formatter

end RequestLog
