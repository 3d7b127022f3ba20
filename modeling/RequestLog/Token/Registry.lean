import RequestLog.Format.Segment
import RequestLog.Token.Builtin

/-!
Registries: tables from token names to extractors. A registry is filled while a log is set up, and
is frozen when the first format is built on it; a frozen registry takes no registration any more.
-/
namespace RequestLog

/-- Whether a format can mention a token of a name, which has to be a text. -/
def isTokenNameOf : Value → Except Fault Bool
  | .text name => .ok (isTokenName name.toList)
  | v => .error (.notJoinable v)

/-- A table from token names to extractors. -/
structure Registry (σ : Type) where
  table : Table (Extractor σ)
  frozen : Bool

namespace Registry

variable {σ : Type}

def empty : Registry σ := ⟨Table.empty, false⟩

/-- The registry with an extractor registered under a name. A frozen registry, a value that cannot
be called and a name that no format can mention are refused, in this order. -/
def register (r : Registry σ) (name : Value) (offer : ExtractorOffer σ) :
    Except Fault (Registry σ) :=
  if r.frozen then .error (.registryFrozen name)
  else
    match offer with
    | .value v => .error (.extractorNotCallable name v)
    | .extractor e =>
      match name with
      | .text name =>
        if isTokenName name.toList then .ok { r with table := r.table.put name e }
        else .error (.tokenNameInvalid name)
      | v => .error (.notJoinable v)

/-- The registry of pairs that are registered one after the other. -/
def ofOffers (pairs : List (Value × ExtractorOffer σ)) : Except Fault (Registry σ) :=
  pairs.foldlM (fun r p => r.register p.1 p.2) empty

def freeze (r : Registry σ) : Registry σ :=
  { r with frozen := true }

/-- A registry of its own with the same entries, not frozen. -/
def copy (r : Registry σ) : Registry σ :=
  { r with frozen := false }

def contains (r : Registry σ) (name : String) : Bool :=
  r.table.contains name

def get (r : Registry σ) (name : String) : Except Fault (Extractor σ) :=
  match r.table.get? name with
  | some e => .ok e
  | none => .error (.unknownToken (.text name) none)

/-- The extractor of a token whose name may be no text; a list cannot be looked up. -/
def find (r : Registry σ) : Value → Except Fault (Extractor σ)
  | .text name => r.get name
  | .list items => .error (.unhashable (Value.list items).kind)
  | v => .error (.unknownToken v none)

/-- Whether a registry has a token whose name may be no text. -/
def containsValue (r : Registry σ) : Value → Except Fault Bool
  | .text name => .ok (r.contains name)
  | .list items => .error (.unhashable (Value.list items).kind)
  | _ => .ok false

/-- Arguments as an extractor gets them: never none at all. -/
def someArgs (args : List Value) : List Value :=
  if args.isEmpty then [.text ""] else args

def resolve (r : Registry σ) (name : Value) (s : Snapshot σ) (args : List Value) :
    Action σ Value :=
  (Action.ofExcept (r.find name)).andThen fun e => e.call s (someArgs args)

/-- The names of the tokens, in the order of their first registration. -/
def names (r : Registry σ) : List String :=
  r.table.names

def literal (r : Registry σ) : String :=
  "<TokenRegistry frozen=" ++ Value.boolWord r.frozen ++ " tokens=" ++ Fault.nameList r.names ++
  ">"

/-- The registry of the tokens that every log knows. -/
def builtin (host : Host σ) : Registry σ :=
  ⟨Table.ofList (Builtin.extractors host), false⟩

end Registry

end RequestLog
