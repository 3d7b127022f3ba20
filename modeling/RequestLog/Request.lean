import RequestLog.Headers

/-!
The two halves of an exchange: the request as it came in, and the response as far as the host has
set it.
-/
namespace RequestLog

/-- A request. -/
structure Request where
  method : Value
  url : Value
  headers : Headers
  referrer : Value
  clientAddress : Value
  httpVersion : Value

namespace Request

def placed : List String := ["self", "method", "url", "headers"]

def known : List String := ["referrer", "client_addr", "http_version"]

/-- The request that a host describes, with further values by name. Names of what has its place are
refused before the headers are read, and names that nobody knows after that. -/
def ofNamed (method url : Value) (headers : HeaderSource) (named : Table Value) :
    Except Fault Request := do
  Fault.checkPlaced "RequestInfo" placed named.names
  let headers ← Headers.normalize headers
  let value (name : String) : Value := (named.get? name).getD .null
  match named.names.filter fun name => ! known.contains name with
  | [] => .ok ⟨method, url, headers, value "referrer", value "client_addr", value "http_version"⟩
  | unknown => .error (.unknownSettings unknown)

def header (r : Request) (name : String) : Value :=
  r.headers.valueOf name .null

def literal (r : Request) : Except Refusal String := do
  return "<RequestInfo " ++ (← r.method.display) ++ " " ++ (← r.url.literal) ++ ">"

end Request

/-- A response; its status is null until the host sets it. -/
structure Response where
  status : Value
  headers : Headers

namespace Response

def initial : Response := ⟨.null, Table.empty⟩

def make (status : Value) (headers : HeaderSource) : Except Fault Response :=
  (Headers.normalize headers).map (⟨status, ·⟩)

def header (r : Response) (name : String) : Value :=
  r.headers.valueOf name .null

def setHeader (r : Response) (name value : Value) : Except Fault Response :=
  (r.headers.set name value).map fun headers => { r with headers := headers }

def literal (r : Response) : Except Refusal String :=
  r.status.literal.map fun shown => "<ResponseInfo status=" ++ shown ++ ">"

end Response

/-- A response that does not change any more. -/
structure FrozenResponse where
  response : Response

namespace FrozenResponse

/-- A header of a frozen response cannot be set; its name and value are written before that
shows. -/
def setHeader (_ : FrozenResponse) (name value : Value) : Except Fault FrozenResponse := do
  let _ ← value.written
  let _ ← name.written
  .error .headersFrozen

end FrozenResponse

def Response.frozen (r : Response) : FrozenResponse := ⟨r⟩

end RequestLog
