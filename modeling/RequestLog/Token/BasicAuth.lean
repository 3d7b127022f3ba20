import RequestLog.Headers
import RequestLog.Text.Base64
import RequestLog.Text.Blank

/-!
The user of a request that carries a name and a password in its authorization header.
-/
namespace RequestLog.BasicAuth

/-- The word, with its blank, that announces a name and a password. -/
def scheme : List Char := ['b', 'a', 's', 'i', 'c', ' ']

/-- The name in the octets of a name and a password, which a colon parts. -/
def userOf (os : List UInt8) : List Char :=
  (Text.Utf8.decodeReplacing os).takeWhile (· != ':')

/-- The user that the text of an authorization header names, if it is of the scheme and well
formed. -/
def ofText? (header : List Char) : Option (List Char) :=
  if Text.lower (header.take 6) = scheme then
    (Text.Base64.decode? (Text.strip (header.drop 6))).map userOf
  else none

/-- The user that an authorization header names, or null. -/
def ofHeader (header : Value) : Except Fault Value :=
  if header.truthy then
    match header with
    | .text s =>
      match ofText? s.toList with
      | some user => .ok (Value.text (String.ofList user)).orNull
      | none => .ok .null
    | .octets _ => .ok .null
    | .list _ => .error (.noAttribute header.kind "lower")
    | v => .error (.notSubscriptable v.kind)
  else .ok .null

def find (valueOf : String → Value) : Except Fault Value :=
  ofHeader (valueOf "authorization")

def ofSource (source : HeaderSource) : Except Fault Value := do
  ofHeader (← source.lookup "authorization")

end RequestLog.BasicAuth
