import RequestLog.Proofs.Journal.Accounts

/-!
Runs in which a host calls everything that a logger and its records offer, in any order. Every
event is put down as a stroke with the record that it is about, as it was before and as it is
afterwards. The strokes of one record make up a run of that record alone: each finds the record as
the one before left it, whatever has been done to other records in between.
-/
namespace RequestLog

variable {σ : Type}

namespace Event

/-- The name of the record that an event finds; a request that comes in makes a record of its
own. -/
def name? : Event σ → Option String
  | start .. => none
  | handled id => some id
  | responded id => some id
  | failed id _ => some id
  | log id => some id
  | format id => some id
  | markHandling id => some id
  | finish id => some id
  | markLogged id => some id
  | snapshot id => some id
  | setStatus id _ => some id
  | setHeader id _ _ => some id
  | setTimes id _ _ => some id
  | elapse _ => none

def isStart : Event σ → Bool
  | start .. => true
  | _ => false

def isTerminal : Event σ → Bool
  | responded _ => true
  | failed .. => true
  | _ => false

/-- Whether an event logs a record without regard to what has been done to it. -/
def isLog : Event σ → Bool
  | log _ => true
  | _ => false

end Event

namespace Ledger

/-- The number of the record that an event is about. -/
def subject (g : Ledger) : Event σ → Option Nat
  | .start .. => some g.next
  | e => e.name?.bind g.names.get?

/-- The ledger after an event. A record whose start failed gets no name. -/
def follow (g : Ledger) (e : Event σ) (answer : Except Fault (Answer σ)) : Ledger :=
  match e, answer with
  | .start id _, .ok _ => ⟨g.next + 1, g.names.put id g.next⟩
  | .start _ _, .error _ => ⟨g.next + 1, g.names⟩
  | _, _ => g

end Ledger

/-- An event that took place: the record that it was about, before and afterwards, what it answered
and the calls that it made. -/
structure Stroke (σ : Type) where
  event : Event σ
  record : Option Nat
  before : Option (Record σ)
  after : Option (Record σ)
  answer : Except Fault (Answer σ)
  calls : List (Call σ)

namespace Stroke

def about (k : Nat) (m : Stroke σ) : Bool :=
  m.record == some k

def entries (m : Stroke σ) : List (Snapshot σ × String) :=
  Call.entries m.calls

/-- Whether the record of a stroke had been logged before. -/
def settled (m : Stroke σ) : Bool :=
  m.before.any Record.isLogged

/-- Whether each stroke finds the record as the one before it left it. Nothing happens to a record
that is none. -/
def Linked : Option (Record σ) → List (Stroke σ) → Prop
  | _, [] => True
  | r, m :: rest => r.isSome = true ∧ m.before = r ∧ Linked m.after rest

/-- Whether strokes are all that happens to one record, from the one that makes it on. -/
def Life : List (Stroke σ) → Prop
  | [] => True
  | m :: rest => m.before = none ∧ Linked m.after rest

end Stroke

namespace Journal

variable (l : Logger σ) (host : Host σ)

/-- The record that is left of what an event was about. A start that fails leaves none. -/
def remains (e : Event σ) (answer : Except Fault (Answer σ)) (records : Table (Record σ)) :
    Option (Record σ) :=
  match e, answer with
  | .start id _, .ok _ => records.get? id
  | .start _ _, .error _ => none
  | e, _ => e.name?.bind records.get?

def stroke (g : Ledger) (j : Journal σ) (e : Event σ) : Stroke σ where
  event := e
  record := g.subject e
  before := e.name?.bind j.records.get?
  after := remains e (step l host e j).1 (step l host e j).2.records
  answer := (step l host e j).1
  calls := callsOf l host e j

/-- The strokes of events one after the other. -/
def strokes : List (Event σ) → Ledger → Journal σ → List (Stroke σ)
  | [], _, _ => []
  | e :: rest, g, j =>
    let m := stroke l host g j e
    m :: strokes rest (g.follow e m.answer) (step l host e j).2

theorem answers_strokes (events : List (Event σ)) (g : Ledger) (j : Journal σ) :
    (strokes l host events g j).map Stroke.answer = (run l host events j).1 := by
  induction events generalizing g j with
  | nil => rfl
  | cons e rest ih => simp [strokes, run, stroke, ih]

theorem calls_strokes (events : List (Event σ)) (g : Ledger) (j : Journal σ) :
    (strokes l host events g j).flatMap Stroke.calls = trace l host events j := by
  induction events generalizing g j with
  | nil => rfl
  | cons e rest ih => simp [strokes, trace, stroke, ih]

/-- A ledger knows the records of a journal by their names. -/
structure Named (g : Ledger) (records : Table (Record σ)) : Prop where
  known : ∀ id, g.names.get? id = none ↔ records.get? id = none
  apart : ∀ id id' k, g.names.get? id = some k → g.names.get? id' = some k → id = id'
  below : ∀ id k, g.names.get? id = some k → k < g.next

/-- Whether a number has been given to a record, which is as told as long as it has a name. -/
def Holds (g : Ledger) (records : Table (Record σ)) (k : Nat) (r : Option (Record σ)) : Prop :=
  k < g.next ∧ ∀ id, g.names.get? id = some k → records.get? id = r ∧ r.isSome = true

/-- What an event makes of a ledger and of the records, of which it changes one at most. -/
inductive Turnover (g : Ledger) (records : Table (Record σ)) :
    Option Nat → Option (Record σ) → Option (Record σ) → Ledger → Table (Record σ) → Prop where
  | nothing : Turnover g records none none none g records
  | change {id : String} {k : Nat} {r r' : Record σ} (name : g.names.get? id = some k)
      (found : records.get? id = some r) :
      Turnover g records (some k) (some r) (some r') g (records.put id r')
  | lose : Turnover g records (some g.next) none none ⟨g.next + 1, g.names⟩ records
  | enter {id : String} {r : Record σ} :
      Turnover g records (some g.next) none (some r) ⟨g.next + 1, g.names.put id g.next⟩
        (records.put id r)

section Turnovers

variable {l host} {g g' : Ledger} {records records' : Table (Record σ)} {k : Nat}
  {subject : Option Nat} {before after r : Option (Record σ)} {j : Journal σ} {id : String}
  {e : Event σ}

/-- An event that finds a record by its name is an action on the record. -/
theorem step_eq_onRecord (h : e.name? = some id) : ∃ act, step l host e = onRecord id act := by
  cases e <;> cases h <;> simp only [step] <;> exact ⟨_, rfl⟩

theorem subject_of_name (h : e.name? = some id) (g : Ledger) : g.subject e = g.names.get? id := by
  cases e <;> cases h <;> rfl

theorem follow_of_name (h : e.name? = some id) (g : Ledger) (answer : Except Fault (Answer σ)) :
    g.follow e answer = g := by
  cases e <;> cases h <;> rfl

theorem remains_of_name (h : e.name? = some id) (answer : Except Fault (Answer σ)) :
    remains e answer records = records.get? id := by
  cases e <;> cases h <;> rfl

theorem step_start_of_error {request : Request} {f : Fault} {s : σ}
    (hs : l.startRequest host request j.host = (.error f, s)) :
    step l host (.start id request) j = (.error f, ⟨j.records, s⟩) := by
  simp only [step, start, hs]

theorem step_start_of_ok {request : Request} {r : Record σ} {s : σ}
    (hs : l.startRequest host request j.host = (.ok r, s)) :
    step l host (.start id request) j = (.ok .nothing, ⟨j.records.put id r, s⟩) := by
  simp only [step, start, hs]

/-- An event changes no record but the one that it is about. -/
theorem turnover_stroke (l : Logger σ) (host : Host σ) (h : Named g j.records) (e : Event σ) :
    Turnover g j.records (stroke l host g j e).record (stroke l host g j e).before
      (stroke l host g j e).after (g.follow e (step l host e j).1)
      (step l host e j).2.records := by
  cases hid : e.name? with
  | some id =>
    obtain ⟨act, hact⟩ : ∃ act, step l host e = onRecord id act := step_eq_onRecord hid
    simp only [stroke, subject_of_name hid, follow_of_name hid, remains_of_name hid, hid,
      Option.bind_some, hact]
    cases hr : j.records.get? id with
    | none =>
      have hk : g.names.get? id = none := (h.known id).mpr hr
      rw [onRecord_of_missing hr, hk, hr]
      exact .nothing
    | some r =>
      obtain ⟨k, hk⟩ : ∃ k, g.names.get? id = some k := by
        apply Option.ne_none_iff_exists'.mp
        intro hk
        cases hr.symm.trans ((h.known id).mp hk)
      rw [onRecord_of_present hr, hk, Table.get?_put, if_pos rfl]
      exact .change hk hr
  | none =>
    cases e with
    | elapse change => exact .nothing
    | start id request =>
      rcases hs : l.startRequest host request j.host with ⟨f | r, s⟩
      · rw [stroke, step_start_of_error hs]
        exact .lose
      · have hafter : remains (.start id request) (.ok .nothing)
            (j.records.put id r) = some r := by
          rw [remains, Table.get?_put, if_pos rfl]
        rw [stroke, step_start_of_ok hs, hafter]
        exact .enter
    | _ => cases hid

theorem Named.empty : Named Ledger.empty (Table.empty : Table (Record σ)) where
  known _ := ⟨fun _ => rfl, fun _ => rfl⟩
  apart _ _ _ h := nomatch h
  below _ _ h := nomatch h

theorem Turnover.named (h : Turnover g records subject before after g' records')
    (hn : Named g records) : Named g' records' := by
  cases h with
  | nothing => exact hn
  | lose => exact ⟨hn.known, hn.apart, fun id k hk => Nat.lt_succ_of_lt (hn.below id k hk)⟩
  | @change id k r r' name found =>
    refine ⟨fun id' => ?_, hn.apart, hn.below⟩
    rw [Table.get?_put]
    split
    · next heq => simp [heq, name]
    · exact hn.known id'
  | @enter id r =>
    refine ⟨fun id' => ?_, fun id₁ id₂ k h₁ h₂ => ?_, fun id' k hk => ?_⟩
    · rw [Table.get?_put, Table.get?_put]
      split
      · simp
      · exact hn.known id'
    · rw [Table.get?_put] at h₁ h₂
      -- the number of the new record is none of an older one
      split at h₁ <;> split at h₂
      · next e₁ e₂ => exact e₁.trans e₂.symm
      · cases h₁
        exact absurd (hn.below _ _ h₂) (Nat.lt_irrefl _)
      · cases h₂
        exact absurd (hn.below _ _ h₁) (Nat.lt_irrefl _)
      · exact hn.apart id₁ id₂ k h₁ h₂
    · rw [Table.get?_put] at hk
      split at hk
      · cases hk
        exact Nat.lt_succ_self _
      · exact Nat.lt_succ_of_lt (hn.below id' k hk)

/-- An event finds the record that it is about as it is, and leaves what it makes of it. -/
theorem Turnover.same (h : Turnover g records (some k) before after g' records')
    (hn : Named g records) (hr : Holds g records k r) :
    (r.isSome = true ∧ before = r) ∧ Holds g' records' k after := by
  cases h with
  | @change id _ r₁ r₂ name found =>
    obtain ⟨hrecord, hsome⟩ := hr.2 id name
    refine ⟨⟨hsome, found.symm.trans hrecord⟩, hr.1, fun id' hid' => ?_⟩
    rw [hn.apart id' id k hid' name, Table.get?_put, if_pos rfl]
    exact ⟨rfl, rfl⟩
  | lose => exact absurd hr.1 (Nat.lt_irrefl _)
  | enter => exact absurd hr.1 (Nat.lt_irrefl _)

/-- A record that an event is not about stays as it is. -/
theorem Turnover.other (h : Turnover g records subject before after g' records')
    (hk : subject ≠ some k) (hr : Holds g records k r) : Holds g' records' k r := by
  cases h with
  | nothing => exact hr
  | lose => exact ⟨Nat.lt_succ_of_lt hr.1, hr.2⟩
  | @change id k' r₁ r₂ name found =>
    refine ⟨hr.1, fun id' hid' => ?_⟩
    have hne : id' ≠ id := by
      rintro rfl
      exact hk (name.symm.trans hid')
    rw [Table.get?_put, if_neg hne]
    exact hr.2 id' hid'
  | @enter id r₁ =>
    refine ⟨Nat.lt_succ_of_lt hr.1, fun id' hid' => ?_⟩
    rw [Table.get?_put] at hid' ⊢
    split at hid'
    · exact absurd hid' hk
    · next hne =>
      rw [if_neg hne]
      exact hr.2 id' hid'

/-- The event that a new number is given at makes the record of it. -/
theorem Turnover.fresh (h : Turnover g records (some k) before after g' records')
    (hn : Named g records) (hk : g.next ≤ k) : before = none ∧ Holds g' records' k after := by
  cases h with
  | change name found => exact absurd (hn.below _ k name) (Nat.not_lt.mpr hk)
  | lose =>
    refine ⟨rfl, Nat.lt_succ_self _, fun id hid => ?_⟩
    exact absurd (hn.below id _ hid) (Nat.lt_irrefl _)
  | @enter id r₁ =>
    refine ⟨rfl, Nat.lt_succ_self _, fun id' hid' => ?_⟩
    rw [Table.get?_put] at hid' ⊢
    split
    · exact ⟨rfl, rfl⟩
    · next hne =>
      rw [if_neg hne] at hid'
      exact absurd (hn.below id' _ hid') (Nat.lt_irrefl _)

theorem Turnover.next_le (h : Turnover g records subject before after g' records')
    (hk : subject ≠ some k) (hle : g.next ≤ k) : g'.next ≤ k := by
  cases h with
  | nothing => exact hle
  | change name found => exact hle
  | lose => exact Nat.lt_of_le_of_ne hle fun heq => hk (congrArg some heq)
  | enter => exact Nat.lt_of_le_of_ne hle fun heq => hk (congrArg some heq)

end Turnovers

variable {l host} {g : Ledger} {j : Journal σ}

/-- The strokes of a record that has been made find it as the one before left it. -/
theorem linked_of_holds (events : List (Event σ)) (hn : Named g j.records) {k : Nat}
    {r : Option (Record σ)} (hr : Holds g j.records k r) :
    Stroke.Linked r ((strokes l host events g j).filter (·.about k)) := by
  -- the invariant is that the number holds the record that the last stroke about it left
  induction events generalizing g j r with
  | nil => trivial
  | cons e rest ih =>
    have hturn := turnover_stroke l host hn e
    have hnamed := hturn.named hn
    rw [strokes, List.filter_cons]
    split
    · next habout =>
      rw [beq_iff_eq.mp habout] at hturn
      obtain ⟨⟨hsome, hbefore⟩, hafter⟩ := hturn.same hn hr
      exact ⟨hsome, hbefore, ih hnamed hafter⟩
    · next hother =>
      have hne : (stroke l host g j e).record ≠ some k := fun heq => hother (beq_iff_eq.mpr heq)
      exact ih hnamed (hturn.other hne hr)

theorem life_of_next_le (events : List (Event σ)) (hn : Named g j.records) {k : Nat}
    (hk : g.next ≤ k) : Stroke.Life ((strokes l host events g j).filter (·.about k)) := by
  -- up to the stroke that gives the number away nothing is about it
  induction events generalizing g j with
  | nil => trivial
  | cons e rest ih =>
    have hturn := turnover_stroke l host hn e
    have hnamed := hturn.named hn
    rw [strokes, List.filter_cons]
    split
    · next habout =>
      rw [beq_iff_eq.mp habout] at hturn
      obtain ⟨hbefore, hafter⟩ := hturn.fresh hn hk
      exact ⟨hbefore, linked_of_holds rest hnamed hafter⟩
    · next hother =>
      have hne : (stroke l host g j e).record ≠ some k := fun heq => hother (beq_iff_eq.mpr heq)
      exact ih hnamed (hturn.next_le hne hk)

/-- Every record of a run has a life of its own. -/
theorem life_strokes (events : List (Event σ)) (s : σ) (k : Nat) :
    Stroke.Life ((strokes l host events Ledger.empty (fresh s)).filter (·.about k)) :=
  life_of_next_le events Named.empty (Nat.zero_le k)

/-- What holds of every stroke from a journal that a ledger knows holds of all strokes of a run. -/
theorem forall_mem_strokes {P : Stroke σ → Prop}
    (hP : ∀ g (j : Journal σ) e, Named g j.records → P (stroke l host g j e))
    (events : List (Event σ)) (hn : Named g j.records) : ∀ m ∈ strokes l host events g j, P m := by
  induction events generalizing g j with
  | nil => exact fun _ hm => nomatch hm
  | cons e rest ih =>
    have hnamed := (turnover_stroke l host hn e).named hn
    intro m hm
    rcases List.mem_cons.mp hm with rfl | hm
    · exact hP g j e hn
    · exact ih hnamed m hm

end Journal

end RequestLog
