import RequestLog.Request
import RequestLog.Text.Percent
import RequestLog.Token.Extractor

/-!
The environment by which a gateway describes a request to an application, and the request that it
describes.
-/
namespace RequestLog

/-- The environment of a request: values under names. -/
abbrev Environ := Table Value

namespace Environ

def value (e : Environ) (name : String) : Value :=
  (e.get? name).getD .null

/-- The start of the names that stand for headers. -/
def headerMark : List Char := ['H', 'T', 'T', 'P', '_']

/-- The name of a header as a list of its characters, underscores being hyphens. -/
def hyphenated (cs : List Char) : String :=
  String.ofList (cs.map fun c => if c = '_' then '-' else c)

/-- The header that a name stands for, if it stands for one. -/
def headerName? (name : String) : Option String :=
  if headerMark.isPrefixOf name.toList then some (hyphenated (name.toList.drop headerMark.length))
  else none

def unmarkedHeaders : List String :=
  ["CONTENT_TYPE", "CONTENT_LENGTH"]

/-- The pairs of an environment that stand for headers, in its order, and the two headers without
mark behind them if they count as true. -/
def headerPairs (e : Environ) : List (Value × Value) :=
  (e.entries.filterMap fun p => (headerName? p.1).map fun name => (Value.text name, p.2)) ++
    unmarkedHeaders.filterMap fun name =>
      if (e.value name).truthy then some (Value.text (hyphenated name.toList), e.value name)
      else none

/-- The headers of an environment as they are given to be normalised. -/
def headerSource (e : Environ) : HeaderSource :=
  .parts (e.headerPairs.map fun p => [p.1, p.2])

/-- Why the address of a request cannot be put together. -/
inductive UriFault where
  /-- A name is missing. -/
  | missing
  /-- A value does not fit. -/
  | fault (f : Fault)

/-- The value of a name that has to be there. -/
def required (e : Environ) (name : String) : Except UriFault Value :=
  match e.get? name with
  | some v => .ok v
  | none => .error .missing

def append (s : String) : Value → Except UriFault String
  | .text t => .ok (s ++ t)
  | v => .error (.fault (.notJoinable v))

/-- The percent-encoded form of a value that has to be a text in Latin-1. -/
def quoted (safe : List Char) : Value → Except UriFault String
  | .text s =>
    if s.toList.all Text.Charset.latin1.has then
      .ok (String.ofList (Text.Percent.encode safe s.toList))
    else .error (.fault (.unencodable (Text.Charset.latin1.firstMissing s.toList)))
  | _ => .error (.fault .percentOfOctets)

def schemePart (e : Environ) : Except UriFault String := do
  match ← e.required "wsgi.url_scheme" with
  | .text s => .ok (s ++ "://")
  | v => .error (.fault (.textAddedTo v))

/-- The number behind the host that goes without saying. -/
def usualNumber (e : Environ) : Value :=
  if (e.value "wsgi.url_scheme").equals (.text "https") then .text "443" else .text "80"

/-- The address up to the host and the number behind it. -/
def hostPart (e : Environ) : Except UriFault String := do
  let url ← schemePart e
  if (e.value "HTTP_HOST").truthy then append url (e.value "HTTP_HOST")
  else
    let url ← append url (← e.required "SERVER_NAME")
    let number ← e.required "SERVER_PORT"
    if number.equals (usualNumber e) then .ok url else append (url ++ ":") number

def uri (e : Environ) : Except UriFault String := do
  let url ← hostPart e
  let script := e.value "SCRIPT_NAME"
  let url := url ++ (← quoted ['/'] (script.orElse (.text "/")))
  let path ← quoted ['/', ';', '=', ','] ((e.get? "PATH_INFO").getD (.text ""))
  let url := url ++ (if script.truthy then path else String.ofList (path.toList.drop 1))
  if (e.value "QUERY_STRING").truthy then append (url ++ "?") (e.value "QUERY_STRING") else .ok url

/-- The address of a request; where a name is missing for it, the path, or a slash. -/
def url (e : Environ) : Except Fault Value :=
  match e.uri with
  | .ok s => .ok (.text s)
  | .error .missing => .ok ((e.value "PATH_INFO").orElse (.text "/"))
  | .error (.fault f) => .error f

/-- The version in the name of a protocol, or null. -/
def protocolVersion (protocol : Value) : Except Fault Value :=
  if protocol.truthy then
    match protocol with
    | .text s =>
      .ok (Value.text (String.ofList ((s.toList.dropWhile (· != '/')).drop 1))).orNull
    | .octets _ => .error .octetsExpected
    | v => .error (.noAttribute v.kind "partition")
  else .ok .null

def request (e : Environ) : Except Fault Request := do
  let url ← e.url
  let version ← protocolVersion (e.value "SERVER_PROTOCOL")
  let headers ← Headers.normalize e.headerSource
  return {
    method := (e.get? "REQUEST_METHOD").getD (.text "GET")
    url := url
    headers := headers
    referrer := .null
    clientAddress := (e.value "REMOTE_ADDR").orNull
    httpVersion := version }

end Environ

/-- The number of the first field of a text, read by `parse`, or another value. -/
def fieldNumber (blank : Char → Bool) (parse : List Char → Except Number.LiteralFault Int)
    (cs : List Char) (other : Value) : Value :=
  match (Text.firstField? blank cs).map parse with
  | some (.ok n) => .int n
  | _ => other

/-- The number at the front of a status; a status without one is passed through. In octets only
ASCII counts, as white space and as digits. -/
def parseStatus (status : Value) : Value :=
  match status with
  | .text s => fieldNumber Text.isBlank Number.parseInt s.toList status
  | .octets os =>
    fieldNumber Number.isAsciiMargin (Number.parseWith Text.asciiDigit? Number.isAsciiMargin)
      (os.map fun o => Char.ofNat o.toNat) status
  | _ => status

/-- Whether a fault tells that something was not found: it carries the code 404. The code may
refuse to be read or compared. -/
def Fault.isNotFound (f : Fault) : Except Fault Bool :=
  match f.code with
  | .none => .ok false
  | .value v => .ok (v.equals (.int 404))
  | .refused r => .error (.refused r)

end RequestLog
