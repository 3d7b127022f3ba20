import RequestLog.Fault

/-!
Rings: the most recent lines, up to a limit, in the order in which they came.
-/
namespace RequestLog

/-- The most recent entries, up to a limit if there is one. -/
structure Ring (α : Type) where
  limit : Option Nat
  items : List α

namespace Ring

variable {α : Type}

def maxLimit : Int := Int.pow 2 63 - 1

def limitOf : Value → Except Fault (Option Nat)
  | .null => .ok none
  | v =>
    match v.whole? with
    | none => .error .limitNotWhole
    | some n =>
      if maxLimit < n ∨ n < -maxLimit - 1 then .error .limitTooLarge
      else if n < 0 then .error .limitNegative
      else .ok (some n.toNat)

def empty (limit : Option Nat) : Ring α := ⟨limit, []⟩

def cut (limit : Option Nat) (items : List α) : List α :=
  match limit with
  | none => items
  | some n => items.drop (items.length - n)

/-- The ring with an entry at its end; beyond the limit the oldest entry is dropped. -/
def push (r : Ring α) (a : α) : Ring α :=
  { r with items := cut r.limit (r.items ++ [a]) }

def clear (r : Ring α) : Ring α :=
  { r with items := [] }

def size (r : Ring α) : Nat :=
  r.items.length

/-- The entry at an index, a negative one counting from the end. Where there is none, an index
beyond every place that entries can have is told apart. -/
def get (r : Ring α) (index : Int) : Except Fault α :=
  let place := if index < 0 then index + r.items.length else index
  match if place < 0 then none else r.items[place.toNat]? with
  | some a => .ok a
  | none =>
    .error (if maxLimit < index ∨ index < -maxLimit - 1 then .indexTooLarge else .noEntry)

def getAt (r : Ring α) (index : Value) : Except Fault α :=
  match index.whole? with
  | some n => r.get n
  | none => .error (.indexNotWhole index)

/-- The description of a ring whose limit was set by a value. -/
def literal (r : Ring α) (limit : Value) : Except Refusal String :=
  limit.literal.map fun shown =>
    "<AggregateEmitter limit=" ++ shown ++ " entry_count=" ++ Number.intText r.size ++ ">"

end Ring

end RequestLog
