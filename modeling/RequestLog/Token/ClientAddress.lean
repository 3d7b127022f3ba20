import RequestLog.Headers
import RequestLog.Text.Blank

/-!
The address of the client that a request came from, as the headers tell it. A forwarding header
wins where there is one, and only its first entry counts, which is the one nearest to the client.
-/
namespace RequestLog.ClientAddress

/-- The header that lists the addresses on the way, the client's first. -/
def forwardedFor : String := "x-forwarded-for"

/-- Further headers that tell an address, in the order in which they are asked. -/
def fallbacks : List String :=
  ["forwarded-for", "forwarded", "x-real-ip", "remote-addr", "cf-connecting-ip", "fastly-ip",
   "akamai-requestip", "true-client-ip", "x-client-ip", "x-remote-ip", "http_x_forwarded_for",
   "http_x_real_ip", "http_remote_addr"]

/-- The first entry of a list between commas, without white space around it. -/
def firstEntry (cs : List Char) : List Char :=
  Text.strip (cs.takeWhile (· != ','))

/-- The first entry of a forwarding header's value, or null if it is empty. -/
def ofForwarded : Value → Except Fault Value
  | .text s => .ok (Value.text (String.ofList (firstEntry s.toList))).orNull
  | .octets _ => .error .octetsExpected
  | v => .error (.noAttribute v.kind "split")

def firstTrue : List Value → Value
  | [] => .null
  | v :: rest => v.orElse (firstTrue rest)

/-- The client's address by the values of headers, or null. -/
def find (valueOf : String → Value) : Except Fault Value :=
  if (valueOf forwardedFor).truthy then ofForwarded (valueOf forwardedFor)
  else .ok (firstTrue (fallbacks.map valueOf))

/-- The client's address by headers as a host gives them. -/
def ofSource (source : HeaderSource) : Except Fault Value := do
  let _ ← source.lookup forwardedFor
  match source with
  | .mapping pairs => find (HeaderSource.valueIn · pairs)
  | _ => .ok .null

end RequestLog.ClientAddress
