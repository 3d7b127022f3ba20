import RequestLog.Fault
import RequestLog.Table
import RequestLog.Text.Lowercase

/-!
Headers: texts under names in lower case. The values of a repeated name are joined by a comma and a
space, in the order in which they came. A name or value that refuses its text makes no header.
-/
namespace RequestLog

/-- Headers as a host gives them. -/
inductive HeaderSource where
  | none
  /-- Names with their values, each name once. -/
  | mapping (pairs : List (Value × Value))
  /-- Lists of parts, each of which should be a name and a value. -/
  | parts (items : List (List Value))

namespace HeaderSource

/-- The pairs of a mapping with the value of a key replaced, or with the key and its value at the
end. -/
def putIn (key value : Value) : List (Value × Value) → List (Value × Value)
  | [] => [(key, value)]
  | (k, v) :: rest => if k.equals key then (k, value) :: rest else (k, v) :: putIn key value rest

/-- What keeps a value from being a key, if anything does: a list is none. -/
def keyFault? : Value → Option Fault
  | .list items => some (.unhashable (Value.list items).kind)
  | _ => Option.none

/-- The mapping of pairs that are put in one after the other. -/
def mappingOf (pairs : List (Value × Value)) : Except Fault HeaderSource :=
  match pairs.findSome? fun p => keyFault? p.1 with
  | some f => .error f
  | Option.none => .ok (.mapping (pairs.foldl (fun m p => putIn p.1 p.2 m) []))

/-- The value of a text key in pairs; a key that is missing has the value null. -/
def valueIn (name : String) (pairs : List (Value × Value)) : Value :=
  match pairs.find? fun p => p.1.equals (.text name) with
  | some p => p.2
  | Option.none => .null

def pairOf : List Value → Except Fault (Value × Value)
  | [name, value] => .ok (name, value)
  | [] => .error (.tooFewParts 0)
  | [_] => .error (.tooFewParts 1)
  | _ => .error .tooManyParts

/-- The texts of a name and a value. -/
def textsOf (pair : Value × Value) : Except Fault (String × String) := do
  return (← pair.1.written, ← pair.2.written)

/-- The texts of the pairs that a host gives, in their order. The first part that is no pair of
texts makes it a fault. -/
def texts : HeaderSource → Except Fault (List (String × String))
  | none => .ok []
  | mapping pairs => pairs.mapM textsOf
  | parts items => items.mapM fun item => pairOf item >>= textsOf

/-- The value under a name in a mapping that has not been normalised. -/
def lookup (source : HeaderSource) (name : String) : Except Fault Value :=
  match source with
  | none => .error (.noAttribute "NoneType" "get")
  | parts _ => .error (.noAttribute "list" "get")
  | mapping pairs => .ok (valueIn name pairs)

end HeaderSource

/-- Texts under names in lower case. -/
abbrev Headers := Table String

namespace Headers

def lowerName (name : String) : String :=
  String.ofList (Text.lower name.toList)

/-- A value joined to the one that a name has already. -/
def joined (value : String) : Option String → String
  | none => value
  | some earlier => earlier ++ ", " ++ value

def add (h : Headers) (pair : String × String) : Headers :=
  h.change (lowerName pair.1) (joined pair.2)

def ofPairs (pairs : List (String × String)) : Headers :=
  pairs.foldl add Table.empty

/-- The headers that a host gives, unless one of them is no pair of texts. -/
def normalize (source : HeaderSource) : Except Fault Headers :=
  source.texts.map ofPairs

/-- The value under a name in any case, or the default. -/
def valueOf (h : Headers) (name : String) (default : Value) : Value :=
  match h.get? (lowerName name) with
  | some v => .text v
  | none => default

/-- The value under a name that may be no text: no header has the name of octets, and other values
have no lower case. -/
def value (h : Headers) (name default : Value) : Except Fault Value :=
  match name with
  | .text name => .ok (h.valueOf name default)
  | .octets _ => .ok default
  | name => .error (.noAttribute name.kind "lower")

/-- The headers with a value under a name in any case. The value is written first. -/
def set (h : Headers) (name value : Value) : Except Fault Headers := do
  let value ← value.written
  return h.put (lowerName (← name.written)) value

end Headers

end RequestLog
