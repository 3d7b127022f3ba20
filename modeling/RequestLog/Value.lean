import RequestLog.Number.Binary
import RequestLog.Number.Literal
import RequestLog.Text.Quoted
import RequestLog.Text.Utf8

/-!
Values that a host hands to the log or gets back from it: what a field of a request holds, what an
extractor returns, what a setting is set to. A value has two texts, its literal and its display,
and a third one, in which octets are read as UTF-8, for what is written into a line. Some values
refuse a text: whole numbers with too many digits, and objects of the host that fail to tell
theirs.
-/
namespace RequestLog

/-- Why a text is refused: the failure with which the making of it ends. -/
structure Refusal where
  category : String
  message : String
  /-- Whether the category is one of those which also tell that an argument does not fit its place
  in a message. -/
  misfit : Bool
deriving DecidableEq, Repr

/-- An object of the host. The log sees its kind, which object it is, and what it tells as its
texts. -/
structure Object where
  kind : String
  number : Nat
  display : Except Refusal String
  literal : Except Refusal String

/-- A value of a host. -/
inductive Value where
  | null
  | bool (b : Bool)
  | int (n : Int)
  | float (x : Float)
  | text (s : String)
  | octets (os : List UInt8)
  | list (items : List Value)
  | object (o : Object)
deriving Inhabited

def commaJoin (texts : List String) : String :=
  ", ".intercalate texts

namespace Value

def boolWord (b : Bool) : String :=
  if b then "True" else "False"

/-- The refusal of a numeral that would have too many digits. -/
def tooManyDigits : Refusal where
  category := "ValueError"
  message := "Exceeds the limit (" ++ Number.intText Number.maxDigits
    ++ " digits) for integer string conversion; "
    ++ "use sys.set_int_max_str_digits() to increase the limit"
  misfit := true

/-- The numeral of a whole number, unless it has too many digits. -/
def numeral (n : Int) : Except Refusal String :=
  if Number.maxDigits < Number.digitCount n.natAbs then .error tooManyDigits
  else .ok (Number.intText n)

mutual

/-- The literal of a value: texts and octets are quoted, lists stand in brackets. -/
def literal : Value → Except Refusal String
  | null => .ok "None"
  | bool b => .ok (boolWord b)
  | int n => numeral n
  | float x => .ok (Number.floatLiteral x)
  | text s => .ok (Text.quote s)
  | octets os => .ok (Text.quoteOctets os)
  | list items => (literals items).map fun texts => "[" ++ commaJoin texts ++ "]"
  | object o => o.literal

def literals : List Value → Except Refusal (List String)
  | [] => .ok []
  | v :: rest => do return (← literal v) :: (← literals rest)

end

/-- The display of a value: a text is its own display, an object may have one of its own, and any
other value shows its literal. -/
def display : Value → Except Refusal String
  | text s => .ok s
  | object o => o.display
  | v => literal v

/-- The text of a value in a line: octets are read as UTF-8 with replacement characters. -/
def toText : Value → Except Refusal String
  | octets os => .ok (String.ofList (Text.Utf8.decodeReplacing os))
  | v => display v

def kind : Value → String
  | null => "NoneType"
  | bool _ => "bool"
  | int _ => "int"
  | float _ => "float"
  | text _ => "str"
  | octets _ => "bytes"
  | list _ => "list"
  | object o => o.kind

/-- The name of a value's kind in messages about arguments. -/
def argumentKind : Value → String
  | null => "None"
  | v => kind v

def isNull : Value → Bool
  | null => true
  | _ => false

/-- Whether a value counts as true: it is neither null, nor false, nor zero, nor empty. -/
def truthy : Value → Bool
  | null => false
  | bool b => b
  | int n => n != 0
  | float x => x != 0.0
  | text s => ! s.isEmpty
  | octets os => ! os.isEmpty
  | list items => ! items.isEmpty
  | object _ => true

theorem truthy_text (s : String) : (text s).truthy = true ↔ s ≠ "" := by
  simp [truthy]

/-- The value itself if it counts as true, else the other one. -/
def orElse (v other : Value) : Value :=
  if v.truthy then v else other

/-- The value itself if it counts as true, else null. -/
def orNull (v : Value) : Value :=
  v.orElse null

def ofText? : Option String → Value
  | some s => text s
  | none => null

/-- The whole number that a truth value or a whole number counts as. -/
def whole? : Value → Option Int
  | bool b => some (if b then 1 else 0)
  | int n => some n
  | _ => none

/-- Whether a double-precision number is exactly a whole number. -/
def floatIsWhole (x : Float) (n : Int) : Bool :=
  match Number.read x with
  | .finite b => b.num % b.den == 0 && b.truncate == n
  | _ => false

mutual

/-- Equality of values, numbers of all kinds being compared by what they count; an object equals
itself alone. -/
def equals : Value → Value → Bool
  | null, null => true
  | float x, float y => x == y
  | float x, bool b => floatIsWhole x (if b then 1 else 0)
  | float x, int n => floatIsWhole x n
  | bool b, float x => floatIsWhole x (if b then 1 else 0)
  | int n, float x => floatIsWhole x n
  | bool a, bool b => a == b
  | int m, int n => m == n
  | bool b, int n => (if b then 1 else 0) == n
  | int n, bool b => n == (if b then 1 else 0)
  | text s, text t => s == t
  | octets a, octets b => a == b
  | list a, list b => allEqual a b
  | object a, object b => a.number == b.number
  | _, _ => false

/-- Equality of lists of values, place by place. -/
def allEqual : List Value → List Value → Bool
  | [], [] => true
  | a :: as, b :: bs => equals a b && allEqual as bs
  | _, _ => false

end

/-- The literal of values in parentheses; a single one is followed by a comma. -/
def tupleOf : List String → String
  | [one] => "(" ++ one ++ ",)"
  | texts => "(" ++ commaJoin texts ++ ")"

end Value

end RequestLog
