import RequestLog.Fault
import RequestLog.Text.Blank
import RequestLog.Text.Word

/-!
Segments of a format: runs of literal text, and tokens. A token is a name with arguments; a token
without brackets has the one argument that is empty.
-/
namespace RequestLog

/-- A reference to a token in a format, with the text by which it was written. -/
structure Token where
  name : String
  args : List String
  raw : String
deriving DecidableEq, Repr

namespace Token

/-- The arguments of a token without brackets. -/
def noArgs : List String := [""]

/-- Arguments as a token has them: never none at all. -/
def someArgs (args : List String) : List String :=
  if args = [] then noArgs else args

/-- A name followed by its arguments in brackets, or alone where there are none. -/
def keyOf (name : String) (args : List String) : String :=
  if args = noArgs then name
  else
    String.ofList
      (name.toList ++ '[' :: Text.joinWith [','] (args.map String.toList) ++ [']'])

/-- The identity of a token's value within one request. -/
def key (t : Token) : String :=
  keyOf t.name t.args

def defaultRaw (name : String) (args : List String) : String :=
  String.ofList (':' :: (keyOf name args).toList)

/-- A token of a name and arguments, written by default where nothing else is given. -/
def make (name : String) (args : List String) (raw : Option String) : Token :=
  ⟨name, someArgs args, raw.getD (defaultRaw name (someArgs args))⟩

/-- The texts of values from a place on, each of which has to be one. -/
def textsFrom (place : Nat) : List Value → Except Fault (List String)
  | [] => .ok []
  | .text s :: rest => (textsFrom (place + 1) rest).map (s :: ·)
  | v :: _ => .error (.pieceNotText place v)

def ofValues (name : Value) (args : List Value) (raw : Option String) : Except Fault Token :=
  match name with
  | .text name => (textsFrom 0 args).map fun args => make name args raw
  | v => .error (.notJoinable v)

/-- Whether two tokens have the same name and arguments, however they are written. -/
def same (s t : Token) : Bool :=
  s.name == t.name && s.args == t.args

end Token

/-- A segment of a format. -/
inductive Segment where
  | text (literal : String)
  | token (t : Token)
deriving DecidableEq, Repr

namespace Segment

def raw : Segment → String
  | text literal => literal
  | token t => t.raw

def kind : Segment → String
  | text _ => "TextSegment"
  | token _ => "TokenSegment"

/-- Whether two segments are texts of the same literal, or the same token. -/
def same : Segment → Segment → Bool
  | text a, text b => a == b
  | token s, token t => s.same t
  | _, _ => false

def literal : Segment → String
  | text s => "TextSegment(" ++ Text.quote s ++ ")"
  | token t =>
    "TokenSegment(" ++ Text.quote t.name ++ ", " ++ Value.tupleOf (t.args.map Text.quote) ++ ")"

def tokens : List Segment → List Token
  | [] => []
  | text _ :: rest => tokens rest
  | token t :: rest => t :: tokens rest

/-- A segment cannot be changed once it is made. -/
def setLiteral (s : Segment) (_literal : String) : Except Fault Segment :=
  .error (.segmentImmutable s.kind)

end Segment

/-- Whether a format can mention a token of this name: two or more name characters. -/
def isTokenName (name : List Char) : Bool :=
  Nat.ble 2 name.length && name.all Text.isNameChar

end RequestLog
