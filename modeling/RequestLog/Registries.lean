import RequestLog.Formatter

/-!
The registries of a host by name, and what it may do to them in any order.
-/
namespace RequestLog

/-- The registries of a host by name. -/
abbrev Registries (σ : Type) := Table (Registry σ)

namespace Registries

/-- What a host does with one of its registries. -/
inductive Event (σ : Type) where
  /-- Makes a registry of pairs of names and extractors. -/
  | create (name : String) (pairs : List (Value × ExtractorOffer σ))
  | register (name : String) (token : Value) (offer : ExtractorOffer σ)
  | freeze (name : String)
  | copy (name target : String)
  /-- Builds a formatter. -/
  | build (name : String) (settings : FormatterSettings)

variable {σ : Type}

def registry (rs : Registries σ) (name : String) : Except Fault (Registry σ) :=
  match rs.get? name with
  | some r => .ok r
  | none => .error (.missing name)

/-- The registries with a new one under a name, if it was made. -/
def putMade (rs : Registries σ) (name : String) :
    Except Fault (Registry σ) → Except Fault (Option (Formatter σ)) × Registries σ
  | .ok r => (.ok none, rs.put name r)
  | .error f => (.error f, rs)

/-- What comes of an event, which is a formatter if one was built, and the registries after it. -/
def step (rs : Registries σ) : Event σ → Except Fault (Option (Formatter σ)) × Registries σ
  | .create name pairs => putMade rs name (Registry.ofOffers pairs)
  | .register name token offer => putMade rs name
      ((rs.registry name).bind (·.register token offer))
  | .freeze name => putMade rs name ((rs.registry name).map Registry.freeze)
  | .copy name target => putMade rs target ((rs.registry name).map Registry.copy)
  | .build name settings =>
    match rs.registry name with
    | .error f => (.error f, rs)
    | .ok r => ((Formatter.build r settings).1.map some,
        rs.put name (Formatter.build r settings).2)

/-- What comes of events one after the other, and the registries after them. -/
def run : List (Event σ) → Registries σ →
    List (Except Fault (Option (Formatter σ))) × Registries σ
  | [], rs => ([], rs)
  | e :: rest, rs =>
    let first := rs.step e
    let later := run rest first.2
    (first.1 :: later.1, later.2)

end Registries

end RequestLog
