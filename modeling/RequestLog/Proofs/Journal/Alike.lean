import Mathlib.Logic.Function.Basic
import RequestLog.Proofs.Format.Clocks
import RequestLog.Proofs.Journal.Passage

/-!
Runs of one logger beside those of another. Options are all that the records of two loggers differ
in, so long as the clocks of their hosts stand alike: what a hook makes of a record, and the
snapshot that a line is made of, can be told without the options.
-/
namespace RequestLog

variable {σ : Type}

namespace Snapshot

/-- The snapshot as a logger of given options takes it. -/
def under (o : Options σ) (s : Snapshot σ) : Snapshot σ :=
  { s with options := some o }

end Snapshot

namespace Record

/-- The record as a logger of given options keeps it. -/
def under (o : Options σ) (r : Record σ) : Record σ :=
  { r with options := some o }

variable (o : Options σ) (r : Record σ) (now : ClockReading)

@[simp] theorem snapshot_under : (r.under o).snapshot = r.snapshot.under o := rfl

@[simp] theorem isLogged_under : (r.under o).isLogged = r.isLogged := rfl

@[simp] theorem finish_under : (r.under o).finish now = (r.finish now).under o := by
  obtain ⟨_, _, _, _, _, endAt, _, stage⟩ := r
  cases endAt <;> cases stage <;> rfl

@[simp] theorem markHandling_under : (r.under o).markHandling = r.markHandling.under o := by
  obtain ⟨_, _, _, _, _, _, _, stage⟩ := r
  cases stage <;> rfl

@[simp] theorem noteFailure_under (notFound : Bool) :
    (r.under o).noteFailure notFound = (r.noteFailure notFound).under o := by
  cases notFound <;> rfl

theorem setHeader_under (name value : Value) :
    (r.under o).setHeader name value = (r.setHeader name value).map (under o) := by
  rw [setHeader, setHeader]
  show (r.response.setHeader name value).map _ = _
  cases r.response.setHeader name value <;> rfl

@[simp] theorem headed_under (name value : Value) :
    (r.under o).headed name value = (r.headed name value).under o := by
  rw [headed, headed, setHeader_under]
  cases r.setHeader name value <;> rfl

@[simp] theorem conclude_under (l : Logger σ) :
    (r.under o).conclude l now = (r.conclude l now).under o := by
  unfold conclude
  rw [isLogged_under, finish_under]
  split <;> rfl

/-- What an event makes of a record does not depend on the options. -/
theorem pass_under (l : Logger σ) (e : Event σ) :
    (r.under o).pass l now e = (r.pass l now e).under o := by
  cases e <;> simp [pass] <;> rfl

/-- Of the logger it depends on nothing but when its lines are made. -/
theorem pass_congr {l₁ l₂ : Logger σ} (h : l₁.immediate = l₂.immediate) (e : Event σ) :
    r.pass l₁ now e = r.pass l₂ now e := by
  cases e <;> simp [pass, conclude, h]

end Record

namespace Logger

/-- A logger that is asked for a line of every request as it ends: it leaves none out, and making a
line leaves the clocks as they are. -/
structure Steady (l : Logger σ) (host : Host σ) : Prop where
  deferred : l.immediate = false
  all : l.skip = none
  keeps : ∀ snapshot, (l.formatter.line host snapshot).Keeps host.now

/-- What it comes to that a snapshot is logged: its line is handed to the emitter, whatever the
emitter does with it, as the clocks stand where it is made, unless it is not made. -/
inductive HandsOn (l : Logger σ) (host : Host σ) (snapshot : Snapshot σ) (s after : σ)
    (calls : List (Call σ)) : Prop where
  | line (line : String) (u : σ) (made : (l.formatter.line host snapshot s).1 = .ok line)
      (clocks : host.now u = host.now s) (host : after = (l.emitter.emit snapshot line u).2)
      (entries : Call.entries calls = [(snapshot, line)])
  | refused (fault : Fault) (fails : (l.formatter.line host snapshot s).1 = .error fault)
      (clocks : host.now after = host.now s) (entries : Call.entries calls = [])

variable {l : Logger σ} {host : Host σ}

theorem logSnapshot_of_all (h : l.skip = none) (snapshot : Snapshot σ) (s : σ) :
    l.logSnapshot host snapshot s = l.write host snapshot s := by
  rw [logSnapshot_eq, skips, h]
  rfl

namespace Steady

theorem logSnapshot_handsOn (h : l.Steady host) (snapshot : Snapshot σ) (s : σ) :
    l.HandsOn host snapshot s (l.logSnapshot host snapshot s).2
      (l.watched.logSnapshot host.watched snapshot.watched ([], s)).2.1 := by
  obtain ⟨made, hmade, hrendering⟩ := l.formatter.line_watched host snapshot s
  have hwritten := hmade []
  rw [List.nil_append] at hwritten
  have hall : l.watched.skip = none := by simp [Logger.watched, h.all]
  rw [logSnapshot_of_all h.all, logSnapshot_of_all hall, write, write, formatter_watched]
  cases hline : (l.formatter.line host snapshot s).1 with
  | ok line =>
    rw [hline] at hwritten
    refine .line line (l.formatter.line host snapshot s).2 hline (h.keeps snapshot s) ?_ ?_
    · rw [Action.andThen_of_fst hline, Action.andThen_done]
    · have hemitted := l.emit_watched snapshot line made (l.formatter.line host snapshot s).2
      rw [Action.andThen_of_ok hwritten, Action.andThen_done, hemitted, Call.entries_append,
        Call.entries_of_rendering hrendering]
      rfl
  | error fault =>
    rw [hline] at hwritten
    rw [Action.andThen_of_error (Prod.ext hline rfl), Action.andThen_of_error hwritten]
    exact .refused fault hline (h.keeps snapshot s) (Call.entries_of_rendering hrendering)

/-- The end of a request hands on the line of its record, if that has not been logged. -/
theorem conclude_handsOn (h : l.Steady host) {r : Record σ} (hr : r.isLogged = false) (s : σ) :
    l.HandsOn host (r.finish (host.now s)).snapshot s (l.conclude host (r, s)).2.2
      (l.callsOfConclude host (r, s)) := by
  have hopen : (l.immediate || r.isLogged) = false := by simp [h.deferred, hr]
  rw [callsOfConclude_of_open (w := (r, s)) l host hopen, conclude_of_open l host hopen,
    logRequest_apply]
  exact h.logSnapshot_handsOn _ s

end Steady

end Logger

namespace Hook

theorem isTerminal_event (hook : Hook σ) : hook.event.isTerminal = hook.isTerminal := by
  cases hook <;> rfl

end Hook

namespace Journal

/-- Records by their names, whatever their options are. -/
abbrev Bare (σ : Type) := String → Option (Record σ)

/-- Whether a journal holds records under given options, and no others. -/
def Bears (o : Options σ) (records : Bare σ) (j : Journal σ) : Prop :=
  ∀ id, j.records.get? id = (records id).map (Record.under o)

/-- What a hook makes of records, by a reading of the clocks, if no line is made of them at the
start. -/
def turn (l : Logger σ) (now : ClockReading) (records : Bare σ) : Hook σ → Bare σ
  | .start id request =>
    Function.update records id (some (Record.start request Response.initial none now).markHandling)
  | hook =>
    match hook.event.name? with
    | some id => Function.update records id ((records id).map (·.pass l now hook.event))
    | none => records

/-- The snapshot that a line is made of at a hook: that of a record which has not been logged, as
its request ends. -/
def due (now : ClockReading) (records : Bare σ) (hook : Hook σ) : Option (Snapshot σ) :=
  if hook.isTerminal then
    (hook.event.name?.bind records).bind fun r =>
      if r.isLogged then none else some ((r.noteFailure hook.event.isNotFound).finish now).snapshot
  else none

variable {l : Logger σ} {host : Host σ} {j : Journal σ} {o : Options σ} {records : Bare σ}
    {e : Event σ}
  {id : String} {r : Record σ}

theorem turn_of_name {hook : Hook σ} (hid : hook.event.name? = some id) (now : ClockReading) :
    turn l now records hook =
      Function.update records id ((records id).map (·.pass l now hook.event)) := by
  cases hook <;> cases hid <;> rfl

theorem turn_congr {l₁ l₂ : Logger σ} (h : l₁.immediate = l₂.immediate) (now : ClockReading)
    (records : Bare σ) (hook : Hook σ) : turn l₁ now records hook = turn l₂ now records hook := by
  cases hook <;> simp [turn, Record.pass_congr _ _ h]

theorem bears_fresh (o : Options σ) (s : σ) : (fresh s).Bears o fun _ => none :=
  fun _ => rfl

theorem Bears.put (h : j.Bears o records) (id : String) (r : Record σ) (s : σ) :
    Bears o (Function.update records id (some r)) ⟨j.records.put id (r.under o), s⟩ := by
  intro id'
  rw [Table.get?_put, Function.update_apply]
  split
  · rfl
  · exact h id'

theorem Bears.step_of_name (h : j.Bears l.options records) (hid : e.name? = some id) :
    (step l host e j).2.Bears l.options
      (Function.update records id ((records id).map (·.pass l (host.now j.host) e))) := by
  obtain ⟨act, hact⟩ : ∃ act, step l host e = onRecord id act := step_eq_onRecord hid
  cases hr : records id with
  | none =>
    have hmissing : j.records.get? id = none := by simp [h id, hr]
    rw [hact, onRecord_of_missing hmissing, Option.map_none, ← hr, Function.update_eq_self]
    exact h
  | some r =>
    have hfound : j.records.get? id = some (r.under l.options) := by simp [h id, hr]
    have hbefore : (stroke l host Ledger.empty j e).before = some (r.under l.options) := by
      simp [stroke, hid, hfound]
    have hafter := (after_of_onRecord act hid hact hbefore).symm.trans (after_stroke hbefore)
    rw [hact, onRecord_of_present hfound, Option.some.inj hafter, Record.pass_under]
    exact h.put id _ _

/-- A hook makes of the records of a journal what it makes of them without their options. -/
theorem Bears.step (hd : l.immediate = false) (h : j.Bears l.options records) (hook : Hook σ) :
    (step l host hook.event j).2.Bears l.options (turn l (host.now j.host) records hook) := by
  cases hid : hook.event.name? with
  | some id =>
    rw [turn_of_name hid]
    exact h.step_of_name hid
  | none =>
    cases hook with
    | start id request =>
      have hstart := l.startRequest_of_deferred host hd request j.host
      simp only [Hook.event, step_start_of_ok hstart]
      exact h.put id _ _
    | elapse change => exact h
    | _ => cases hid

section Steps

variable {hook : Hook σ} {snapshot : Snapshot σ}

theorem host_of_isTerminal (hr : (stroke l host Ledger.empty j e).before = some r)
    (ht : e.isTerminal = true) : (step l host e j).2.host =
      (l.conclude host (r.noteFailure e.isNotFound, j.host)).2.2 := by
  cases e with
  | responded id =>
    have hfound : j.records.get? id = some r := hr
    rw [step, onRecord_of_present hfound, speaking_apply]
    rfl
  | failed id notFound =>
    have hfound : j.records.get? id = some r := hr
    rw [step, onRecord_of_present hfound, speaking_apply, Logger.onError_apply]
    rfl
  | _ => cases ht

/-- What is due at a hook is the snapshot of the record that the hook is about, at its end. -/
theorem exists_of_due {now : ClockReading} (h : due now records hook = some snapshot) :
    hook.isTerminal = true ∧ ∃ id r, hook.event.name? = some id ∧ records id = some r ∧
      r.isLogged = false ∧
      snapshot = ((r.noteFailure hook.event.isNotFound).finish now).snapshot := by
  simp only [due, Option.ite_none_right_eq_some, Option.bind_eq_some_iff,
    Option.ite_none_left_eq_some, Bool.not_eq_true, Option.some.injEq] at h
  obtain ⟨ht, r, ⟨id, hid, hr⟩, hlogged, hsnapshot⟩ := h
  exact ⟨ht, id, r, hid, hr, hlogged, hsnapshot.symm⟩

/-- At a hook at which a line is due, the line of the snapshot is handed on. -/
theorem Bears.handsOn (hl : l.Steady host) (h : j.Bears l.options records)
    (hdue : due (host.now j.host) records hook = some snapshot) :
    l.HandsOn host (snapshot.under l.options) j.host (Journal.step l host hook.event j).2.host
      (callsOf l host hook.event j) := by
  obtain ⟨ht, id, r, hid, hr, hlogged, rfl⟩ := exists_of_due hdue
  have hbefore : (stroke l host Ledger.empty j hook.event).before = some (r.under l.options) := by
    simp [stroke, hid, h id, hr]
  have hterminal : hook.event.isTerminal = true := hook.isTerminal_event.trans ht
  rw [callsOf_of_isTerminal hbefore hterminal, host_of_isTerminal hbefore hterminal]
  have hopen : ((r.noteFailure hook.event.isNotFound).under l.options).isLogged = false := by
    rw [Record.isLogged_under, Record.isLogged_noteFailure, hlogged]
  have hhands := hl.conclude_handsOn hopen j.host
  rw [Record.noteFailure_under]
  rwa [Record.finish_under, Record.snapshot_under] at hhands

/-- Whether a step hands nothing to the emitter and leaves the host as it is. -/
def Idle (l : Logger σ) (host : Host σ) (e : Event σ) (j : Journal σ) : Prop :=
  Call.entries (callsOf l host e j) = [] ∧ (Journal.step l host e j).2.host = j.host

theorem idle_of_quiet {act : Action (Record σ × σ) (Answer σ)}
    {watchedAct : Action (Record (Watched σ) × Watched σ) (Answer (Watched σ))}
    (hstep : Journal.step l host e = onRecord id act)
    (hwatched : Journal.step l.watched host.watched e.watched = onRecord id watchedAct)
    (hc : CopiesOn Quiet watchedAct act) (hhost : ∀ r s, (act (r, s)).2.2 = s) :
    Idle l host e j := by
  rcases step_cases_of_onRecord hstep hwatched hc j with
    ⟨-, hmissing, hcalls⟩ | ⟨r, -, hcalls, hpresent⟩
  · simp [Idle, hcalls, hmissing]
  · have hnone : callsOf l host e j = [] := hcalls
    simp [Idle, hnone, hpresent, hhost]

theorem idle_of_missing {act : Action (Record σ × σ) (Answer σ)}
    {watchedAct : Action (Record (Watched σ) × Watched σ) (Answer (Watched σ))}
    (hstep : Journal.step l host e = onRecord id act)
    (hwatched : Journal.step l.watched host.watched e.watched = onRecord id watchedAct)
    (hc : CopiesOn (Closes l host) watchedAct act) (hr : j.records.get? id = none) :
    Idle l host e j := by
  rcases step_cases_of_onRecord hstep hwatched hc j with ⟨-, hmissing, hcalls⟩ | ⟨r, hfound, -⟩
  · simp [Idle, hcalls, hmissing]
  · simp [hr] at hfound

/-- The end of a request that has been logged does nothing. -/
theorem idle_of_logged (hr : (stroke l host Ledger.empty j e).before = some r)
    (ht : e.isTerminal = true) (hlogged : r.isLogged = true) : Idle l host e j := by
  have hsettled : (l.immediate || (r.noteFailure e.isNotFound).isLogged) = true := by
    rw [Record.isLogged_noteFailure, hlogged, Bool.or_true]
  have hcalls : l.callsOfConclude host (r.noteFailure e.isNotFound, j.host) = [] :=
    l.callsOfConclude_of_settled host hsettled
  rw [Idle, callsOf_of_isTerminal hr ht, host_of_isTerminal hr ht, hcalls,
    Logger.conclude_of_settled l host hsettled]
  exact ⟨rfl, rfl⟩

theorem Bears.idle_of_terminal (h : j.Bears o records) (hid : hook.event.name? = some id)
    (ht : hook.isTerminal = true) (hdue : due (host.now j.host) records hook = none)
    (hmissing : j.records.get? id = none → Idle l host hook.event j) :
    Idle l host hook.event j := by
  cases hr : records id with
  | none => exact hmissing (by simp [h id, hr])
  | some r =>
    have hbefore : (stroke l host Ledger.empty j hook.event).before = some (r.under o) := by
      simp [stroke, hid, h id, hr]
    have hlogged : r.isLogged = true := by simpa [due, ht, hid, hr] using hdue
    exact idle_of_logged hbefore (hook.isTerminal_event.trans ht) hlogged

/-- Nothing is handed on at any other hook, and only a change of the host by itself changes the
host. -/
theorem Bears.idle (hd : l.immediate = false) (h : j.Bears o records)
    (hdue : due (host.now j.host) records hook = none) (he : ∀ change, hook ≠ .elapse change) :
    Idle l host hook.event j := by
  cases hook with
  | start id request =>
    have hbegins : Begins l host (Journal.step l host (.start id request) j).1
        (callsOf l host (.start id request) j) := (start_watched l host id request j).callsOf
    obtain ⟨r, -, snapshot, hopens⟩ := hbegins
    rw [Logger.Opens, hd, if_neg Bool.false_ne_true] at hopens
    have hstart := l.startRequest_of_deferred host hd request j.host
    exact ⟨by simp [Hook.event, hopens.1], by rw [Hook.event, step_start_of_ok hstart]⟩
  | handled id => exact idle_of_quiet rfl rfl (finish_watched host) fun r s => rfl
  | setStatus id status =>
    exact idle_of_quiet rfl rfl (change_watched fun r => r.setStatus_watched status) fun r s => rfl
  | setHeader id name value =>
    refine idle_of_quiet rfl rfl (setHeader_watched name value) fun r s => ?_
    rw [silent_apply, Logger.setHeader_apply]
  | responded id =>
    exact h.idle_of_terminal rfl rfl hdue (idle_of_missing rfl rfl (onResponse_watched l host))
  | failed id notFound =>
    exact h.idle_of_terminal rfl rfl hdue
      (idle_of_missing rfl rfl (onError_watched l host notFound))
  | elapse change => exact absurd rfl (he change)

end Steps

end Journal

end RequestLog
