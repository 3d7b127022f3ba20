/-!
Tables from names to entries, in the order in which the names were first put in. A name put in
again keeps its place and takes the new entry.
-/
namespace RequestLog

/-- A table from names to entries. -/
structure Table (α : Type) where
  entries : List (String × α)

namespace Table

variable {α : Type}

def empty : Table α := ⟨[]⟩

def get? (t : Table α) (name : String) : Option α :=
  t.entries.lookup name

def contains (t : Table α) (name : String) : Bool :=
  (t.get? name).isSome

def names (t : Table α) : List String :=
  t.entries.map Prod.fst

/-- The pairs with the entry of a name replaced, or with the name and its entry at the end. -/
def putIn (name : String) (entry : α) : List (String × α) → List (String × α)
  | [] => [(name, entry)]
  | (n, e) :: rest => if n = name then (n, entry) :: rest else (n, e) :: putIn name entry rest

def put (t : Table α) (name : String) (entry : α) : Table α :=
  ⟨putIn name entry t.entries⟩

def erase (t : Table α) (name : String) : Table α :=
  ⟨t.entries.filter (·.1 ≠ name)⟩

/-- The table of a list of pairs, put in one after the other. -/
def ofList (pairs : List (String × α)) : Table α :=
  pairs.foldl (fun t p => t.put p.1 p.2) empty

/-- The table with the entry of a name changed by a function of the entry it had. -/
def change (t : Table α) (name : String) (f : Option α → α) : Table α :=
  t.put name (f (t.get? name))

end Table

end RequestLog
