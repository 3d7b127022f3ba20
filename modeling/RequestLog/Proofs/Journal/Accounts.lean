import RequestLog.Proofs.Watch.Journals

/-!
Accounts of runs. Every hook that a host calls is put down as a moment, with the record that it is
about, what it answers and the calls that it makes. Records are numbered in the order of the hooks
that start them, since a name may stand for one record after the other.
-/
namespace RequestLog

/-- What a host does with the requests that a logger serves, in any order. -/
inductive Hook (σ : Type) where
  | start (id : String) (request : Request)
  | handled (id : String)
  | responded (id : String)
  | failed (id : String) (notFound : Bool)
  /-- The host fills in the response between the hooks of the logger. -/
  | setStatus (id : String) (status : Value)
  | setHeader (id : String) (name value : Value)
  /-- The host's state changes by itself. -/
  | elapse (change : σ → σ)

namespace Hook

variable {σ : Type}

def event : Hook σ → Event σ
  | start id request => .start id request
  | handled id => .handled id
  | responded id => .responded id
  | failed id notFound => .failed id notFound
  | setStatus id status => .setStatus id status
  | setHeader id name value => .setHeader id name value
  | elapse change => .elapse change

def isStart : Hook σ → Bool
  | start .. => true
  | _ => false

def isTerminal : Hook σ → Bool
  | responded _ => true
  | failed .. => true
  | _ => false

end Hook

/-- The records that names stand for, by their numbers, and the number of the next record. -/
structure Ledger where
  next : Nat
  names : Table Nat

namespace Ledger

variable {σ : Type}

def empty : Ledger := ⟨0, Table.empty⟩

def recordOf (g : Ledger) : Hook σ → Option Nat
  | .start _ _ => some g.next
  | .handled id => g.names.get? id
  | .responded id => g.names.get? id
  | .failed id _ => g.names.get? id
  | .setStatus id _ => g.names.get? id
  | .setHeader id _ _ => g.names.get? id
  | .elapse _ => none

/-- The ledger after a hook. A record whose start failed gets no name. -/
def after (g : Ledger) (hook : Hook σ) (answer : Except Fault (Answer σ)) : Ledger :=
  match hook, answer with
  | .start id _, .ok _ => ⟨g.next + 1, g.names.put id g.next⟩
  | .start _ _, .error _ => ⟨g.next + 1, g.names⟩
  | _, _ => g

end Ledger

/-- A hook that was called: the record that it was about, its answer and the calls that it made. -/
structure Moment (σ : Type) where
  hook : Hook σ
  record : Option Nat
  answer : Except Fault (Answer σ)
  calls : List (Call σ)

namespace Moment

variable {σ : Type}

def about (k : Nat) (m : Moment σ) : Bool :=
  m.record == some k

/-- Whether a moment is a hook at the end of the request of a record. -/
def closes (k : Nat) (m : Moment σ) : Bool :=
  m.hook.isTerminal && m.about k

def entries (m : Moment σ) : List (Snapshot σ × String) :=
  Call.entries m.calls

/-- Whether the predicate left the line of a moment out. -/
def leftOut (m : Moment σ) : Bool :=
  m.calls.any Call.leavesOut

/-- The record of a moment, once for each entry of the moment. -/
def emitters (m : Moment σ) : List Nat :=
  m.entries.flatMap fun _ => m.record.toList

/-- The record at the end of whose request a moment is. -/
def closing (m : Moment σ) : List Nat :=
  if m.hook.isTerminal then m.record.toList else []

end Moment

namespace Journal

variable {σ : Type} (l : Logger σ) (host : Host σ)

def moment (g : Ledger) (j : Journal σ) (hook : Hook σ) : Moment σ :=
  ⟨hook, g.recordOf hook, (step l host hook.event j).1, callsOf l host hook.event j⟩

/-- The moments of hooks one after the other. -/
def account : List (Hook σ) → Ledger → Journal σ → List (Moment σ)
  | [], _, _ => []
  | hook :: rest, g, j =>
    let m := moment l host g j hook
    m :: account rest (g.after hook m.answer) (step l host hook.event j).2

/-- The journal of a host that has not served any request. -/
def fresh (s : σ) : Journal σ := ⟨Table.empty, s⟩

theorem hooks_account (hooks : List (Hook σ)) (g : Ledger) (j : Journal σ) :
    (account l host hooks g j).map Moment.hook = hooks := by
  induction hooks generalizing g j with
  | nil => rfl
  | cons hook rest ih => rw [account, List.map_cons, ih, moment]

end Journal

/-- What moments handed to the emitter for a record, in their order. -/
def Moment.entriesOf {σ : Type} (k : Nat) (moments : List (Moment σ)) :
    List (Snapshot σ × String) :=
  (moments.filter (·.about k)).flatMap Moment.entries

/-- The moments at the end of the request of a record, in their order. -/
def Moment.endings {σ : Type} (k : Nat) (moments : List (Moment σ)) : List (Moment σ) :=
  moments.filter (·.closes k)

end RequestLog
