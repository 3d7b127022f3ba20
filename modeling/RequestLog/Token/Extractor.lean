import RequestLog.Record

/-!
Extractors: what computes the value of a token from a snapshot and the token's arguments.
-/
namespace RequestLog

/-- An extractor, with its description. -/
structure Extractor (σ : Type) where
  shown : String
  call : Snapshot σ → List Value → Action σ Value

/-- What a host offers as an extractor. -/
inductive ExtractorOffer (σ : Type) where
  | extractor (e : Extractor σ)
  | value (v : Value)

namespace Extractor

variable {σ : Type}

/-- The extractor of a function of the snapshot and the arguments. -/
def ofFunction (shown : String) (f : Snapshot σ → List Value → Except Fault Value) : Extractor σ :=
  ⟨shown, fun snapshot args => Action.ofExcept (f snapshot args)⟩

/-- The first argument if it counts as true, else the default. -/
def firstArg (args : List Value) (default : Value) : Value :=
  (args.headD (.text "")).orElse default

end Extractor

/-- The whole part of a value that counts as a number or is the numeral of one. -/
def Value.toWhole : Value → Except Fault Int
  | .bool b => .ok (if b then 1 else 0)
  | .int n => .ok n
  | .float x =>
    match Number.read x with
    | .finite b => .ok b.truncate
    | .notANumber => .error .wholeOfNaN
    | .infinite _ => .error .wholeOfInfinity
  | .text s => (Number.parseInt s.toList).mapError fun f => .numeral f (Text.quote s)
  | .octets os => (Number.parseOctets os).mapError fun f => .numeral f (Text.quoteOctets os)
  | v => .error (.notNumber v)

end RequestLog
