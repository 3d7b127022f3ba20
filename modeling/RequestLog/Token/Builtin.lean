import RequestLog.Time.DateText
import RequestLog.Token.BasicAuth
import RequestLog.Token.ClientAddress
import RequestLog.Token.Extractor
import RequestLog.Url.Split

/-!
The tokens that every log knows. A value that is null is absent from the line, where the
placeholder stands for it.
-/
namespace RequestLog.Builtin

open Extractor (firstArg)

variable {σ : Type}

/-- What a log shows of a URL; octets are read as ASCII. -/
def urlOf (url : Value) : Except Fault Value :=
  if url.truthy then
    match url with
    | .text s => .ok (.text (String.ofList (Url.shown s.toList)))
    | .octets os =>
      match Text.Charset.ascii.decode? os with
      | none => .ok url
      | some cs =>
        match Url.split? cs with
        | none => .ok url
        | some parts =>
          if parts.scheme = [] ∨ parts.authority = [] then .ok url
          else if parts.path = [] then .ok (.text "/")
          else .ok (.octets (Text.Charset.ascii.encode parts.path))
    | .list _ => .error (.unhashable url.kind)
    | v => .error (.noAttribute v.kind "decode")
  else .ok .null

def url (s : Snapshot σ) (_ : List Value) : Except Fault Value :=
  urlOf s.request.url

def method (s : Snapshot σ) (_ : List Value) : Except Fault Value :=
  .ok s.request.method

/-- The number of decimal places where no argument gives one. -/
def defaultPlaces : Int := 3

def maxPlaces : Int := 20

/-- Whether a fault says that a value denotes no whole number. -/
def isNoNumeral : Fault → Bool
  | .numeral .. => true
  | .wholeOfNaN => true
  | _ => false

/-- The number of decimal places that the arguments ask for, if it is one in the range. -/
def placesOf (args : List Value) : Except Fault (Option Nat) :=
  match (firstArg args (.int defaultPlaces)).toWhole with
  | .ok n => .ok (if 0 ≤ n ∧ n ≤ maxPlaces then some n.toNat else none)
  | .error f => if isNoNumeral f then .ok none else .error f

def milliseconds (start stop : Float) : Float :=
  (stop - start) * 1000.0

/-- A lapse of time in milliseconds up to `stop`, absent unless the request has started and
ended. -/
def lapse (stop : Float → Float) (s : Snapshot σ) (args : List Value) : Except Fault Value := do
  let places ← placesOf args
  match s.startAt, s.endAt, places with
  | some start, some end_, some places =>
    return .text (Number.fixedText places (milliseconds start (stop end_)))
  | _, _, _ => return .null

/-- The time from the start of the request to its end. -/
def responseTime (s : Snapshot σ) (args : List Value) : Except Fault Value :=
  lapse id s args

def totalTime (now : ClockReading) (s : Snapshot σ) (args : List Value) : Except Fault Value :=
  lapse (fun _ => now.lapse) s args

/-- The form of date that the arguments ask for, if there is one of that name. -/
def dateFormOf (args : List Value) : Except Fault (Option Time.DateForm) :=
  match firstArg args (.text "web") with
  | .text name => .ok (Time.DateForm.ofName? name)
  | .list items => .error (.unhashable (Value.list items).kind)
  | _ => .ok none

def date (now : ClockReading) (args : List Value) : Except Fault Value := do
  match ← dateFormOf args with
  | some form => return .text (← Time.dateText form (.float now.wall))
  | none => return .null

/-- The format whose lines show the status in colour. -/
def colourFormat : String := "dev"

/-- Whether the lines of a snapshot's format show the status in colour. -/
def isColoured (s : Snapshot σ) : Bool :=
  match s.options with
  | some o => o.format.equals (.text colourFormat)
  | none => false

/-- The sequence of characters that switches a terminal to a colour, or back to none with code
0. -/
def colourCode (code : Nat) : String :=
  String.ofList (Char.ofNat 27 :: '[' :: Number.digits 10 code ++ ['m'])

def resetCode : Nat := 0

/-- The colour of a status: red from 500, yellow from 400, cyan from 300 and green from 200 on. -/
def statusColour (status : Int) : Nat :=
  if 500 ≤ status then 31
  else if 400 ≤ status then 33
  else if 300 ≤ status then 36
  else if 200 ≤ status then 32
  else resetCode

/-- A status between the sequences that switch its colour on and off. -/
def coloured (status : Int) : String :=
  colourCode (statusColour status) ++ Number.intText status ++ colourCode resetCode

/-- The status of the response, 200 where there is none. -/
def status (s : Snapshot σ) (_ : List Value) : Except Fault Value :=
  match s.status.orElse (.int 200) with
  | .text t => .ok (.text t)
  | v => do
    let n ← v.toWhole
    let shown ← (Value.int n).written
    return .text (if isColoured s then coloured n else shown)

/-- The address of the page that the request came from. -/
def referrer (s : Snapshot σ) (_ : List Value) : Except Fault Value :=
  .ok (s.request.referrer.orElse
    ((s.request.header "referer").orElse (s.request.header "referrer").orNull))

def httpVersion (s : Snapshot σ) (_ : List Value) : Except Fault Value :=
  .ok (s.request.httpVersion.orElse (.text "1.1"))

def userAgent (s : Snapshot σ) (_ : List Value) : Except Fault Value :=
  .ok (s.request.header "user-agent").orNull

def namedHeader (headers : Headers) (args : List Value) : Except Fault Value :=
  let name := firstArg args .null
  if name.truthy then (headers.value name .null).map Value.orNull else .ok .null

def requestHeader (s : Snapshot σ) (args : List Value) : Except Fault Value :=
  namedHeader s.request.headers args

def responseHeader (s : Snapshot σ) (args : List Value) : Except Fault Value :=
  namedHeader s.response.response.headers args

/-- The length of the response, 0 where no header tells it. -/
def contentLength (s : Snapshot σ) (_ : List Value) : Except Fault Value :=
  .ok ((s.response.response.header "content-length").orElse (.text "0"))

def remoteAddress (s : Snapshot σ) (_ : List Value) : Except Fault Value := do
  let found ← ClientAddress.find s.request.header
  return found.orElse s.request.clientAddress.orNull

def remoteUser (s : Snapshot σ) (_ : List Value) : Except Fault Value :=
  BasicAuth.find s.request.header

/-- The extractor of a function that also depends on the clocks. -/
def ofClocks (host : Host σ) (shown : String)
    (f : ClockReading → Snapshot σ → List Value → Except Fault Value) : Extractor σ :=
  ⟨shown, fun s args => (Action.look host.now).andThen fun now => Action.ofExcept (f now s args)⟩

/-- The tokens with their extractors, in the order in which they are registered. -/
def extractors (host : Host σ) : List (String × Extractor σ) :=
  [("url", .ofFunction "<extractor url>" url),
   ("method", .ofFunction "<extractor method>" method),
   ("response-time", .ofFunction "<extractor response-time>" responseTime),
   ("total-time", ofClocks host "<extractor total-time>" totalTime),
   ("date", ofClocks host "<extractor date>" fun now _ args => date now args),
   ("status", .ofFunction "<extractor status>" status),
   ("referrer", .ofFunction "<extractor referrer>" referrer),
   ("http-version", .ofFunction "<extractor http-version>" httpVersion),
   ("user-agent", .ofFunction "<extractor user-agent>" userAgent),
   ("req", .ofFunction "<extractor req>" requestHeader),
   ("res", .ofFunction "<extractor res>" responseHeader),
   ("content-length", .ofFunction "<extractor content-length>" contentLength),
   ("remote-addr", .ofFunction "<extractor remote-addr>" remoteAddress),
   ("remote-user", .ofFunction "<extractor remote-user>" remoteUser)]

end RequestLog.Builtin
