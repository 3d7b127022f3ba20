import RequestLog.Proofs.Journal.Strokes
import RequestLog.Proofs.PlainHost
import RequestLog.Proofs.Telling

/-!
How often a record is logged in a run of all that a host may call. The hooks of a logger never log
a record that has been logged; only logging a record by itself does not ask for that, and every
call of it logs the record once more.
-/
namespace RequestLog

open Journal (Closes Begins Copies CopiesOn Quiet onRecord speaking silent callsOf)

variable {σ : Type} (l : Logger σ) (host : Host σ)

namespace Stroke

/-- What a stroke may come to. -/
inductive Possible : Stroke σ → Prop where
  /-- A request comes in. -/
  | start {id : String} {request : Request} {k : Option Nat} {after : Option (Record σ)}
      {answer : Except Fault (Answer σ)} {calls : List (Call σ)}
      (begins : Begins l host answer calls)
      (logged : ∀ r ∈ after, r.isLogged = l.immediate) :
      Possible ⟨.start id request, k, none, after, answer, calls⟩
  /-- No record is found. -/
  | idle {e : Event σ} {answer : Except Fault (Answer σ)} (start : e.isStart = false) :
      Possible ⟨e, none, none, none, answer, []⟩
  | log {id : String} {k : Option Nat} {r r' : Record σ} {line : Except Fault (Option String)}
      {calls : List (Call σ)} (logging : l.Logging host r.snapshot line calls)
      (logged : r'.isLogged = true) :
      Possible ⟨.log id, k, some r, some r', line.map .line, calls⟩
  /-- The request ends. -/
  | ending {e : Event σ} {k : Option Nat} {r r' : Record σ} {line : Except Fault (Option String)}
      {calls : List (Call σ)} (terminal : e.isTerminal = true)
      (concludes : ∃ snapshot, l.Concludes host (l.immediate || r.isLogged) snapshot line calls)
      (logged : r'.isLogged = (r.isLogged || ! l.immediate)) :
      Possible ⟨e, k, some r, some r', line.map .line, calls⟩
  /-- Nothing is handed to the emitter. -/
  | silent {e : Event σ} {k : Option Nat} {r r' : Record σ} {answer : Except Fault (Answer σ)}
      {calls : List (Call σ)} (plain : e.isLog = false ∧ e.isTerminal = false ∧ e.isStart = false)
      (entries : Call.entries calls = []) (logged : r.isLogged = true → r'.isLogged = true) :
      Possible ⟨e, k, some r, some r', answer, calls⟩

/-- Whether a stroke logs a record that has been logged. -/
def relogs (m : Stroke σ) : Bool :=
  m.event.isLog && m.settled

/-- How many lines a record may still give without being logged again: none if nothing is left of
it. -/
def allowance : Option (Record σ) → Nat
  | none => 0
  | some r => (! r.isLogged).toNat

/-- Whether the predicate left the line of a stroke out. -/
def leftOut (m : Stroke σ) : Bool :=
  m.calls.any Call.leavesOut

namespace Possible

variable {l host} {m : Stroke σ}

/-- A stroke hands on no more than what its record may give before it and may not give afterwards,
unless it logs the record again. A record that is made may give one line. -/
theorem length_entries_add_le (h : m.Possible l host) : m.entries.length + allowance m.after ≤
    m.relogs.toNat + m.before.elim 1 fun r => allowance (some r) := by
  cases h with
  | @start id request k after answer calls begins logged =>
    obtain ⟨opened, -, snapshot, hopens⟩ := begins
    have hentries : (Call.entries calls).length ≤ l.immediate.toNat := by
      rw [Logger.Opens] at hopens
      split at hopens
      · next hi =>
        obtain ⟨line, hlogging, -⟩ := hopens
        rw [hi]
        exact hlogging.length_entries_le
      · rw [hopens.1]
        exact Nat.zero_le _
    have hafter : allowance after ≤ (! l.immediate).toNat := by
      cases after with
      | none => exact Nat.zero_le _
      | some r => rw [allowance, logged r rfl]
    have hone : l.immediate.toNat + (! l.immediate).toNat = 1 := by cases l.immediate <;> rfl
    have hsum := Nat.add_le_add hentries hafter
    rw [hone] at hsum
    exact hsum.trans (Nat.le_add_left 1 _)
  | idle start => exact Nat.zero_le _
  | @log id k r r' line calls logging logged =>
    have hone : (Call.entries calls).length ≤ 1 := logging.length_entries_le
    simp only [entries, allowance, relogs, Event.isLog, settled, Option.any_some, Option.elim_some,
      logged]
    cases r.isLogged <;> simpa using hone
  | @ending e k r r' line calls terminal concludes logged =>
    obtain ⟨snapshot, hlogging⟩ := concludes
    simp only [entries, allowance, Option.elim_some, logged]
    cases hset : l.immediate || r.isLogged with
    | true =>
      rw [hset, Logger.Concludes, if_pos rfl] at hlogging
      rw [hlogging.2]
      cases r.isLogged <;> cases l.immediate <;> simp [Call.entries]
    | false =>
      rw [hset, Logger.Concludes, if_neg Bool.false_ne_true] at hlogging
      have hone := hlogging.length_entries_le
      rw [Bool.or_eq_false_iff] at hset
      simpa [hset.1, hset.2] using hone.trans (Nat.le_add_left 1 _)
  | @silent e k r r' answer calls plain none logged =>
    simp only [entries, none, allowance, Option.elim_some]
    cases hr : r.isLogged with
    | true => simp [logged hr]
    | false => cases r'.isLogged <;> simp

/-- A record that has been logged is handed to the emitter only if it is logged by itself. -/
theorem entries_of_settled (h : m.Possible l host) (hs : m.settled = true)
    (hlog : m.event.isLog = false) :
    m.entries = [] := by
  cases h with
  | start begins logged => cases hs
  | idle start => rfl
  | log logging logged => cases hlog
  | ending terminal concludes logged =>
    obtain ⟨snapshot, hconcludes⟩ := concludes
    rw [show Record.isLogged _ = true from hs, Bool.or_true] at hconcludes
    simp [entries, hconcludes.2]
  | silent plain none logged => exact none

/-- A hook at the end of a request answers no line for a record that has been logged. -/
theorem answer_of_settled (h : m.Possible l host) (hs : m.settled = true)
    (hterminal : m.event.isTerminal = true) : m.answer = .ok (.line none) := by
  cases h with
  | start begins logged => cases hs
  | idle start => cases hs
  | log logging logged => cases hterminal
  | ending terminal concludes logged =>
    obtain ⟨snapshot, hconcludes⟩ := concludes
    rw [show Record.isLogged _ = true from hs, Bool.or_true] at hconcludes
    rw [hconcludes.1]
    rfl
  | silent plain none logged => cases plain.2.1.symm.trans hterminal

end Possible

theorem length_relogs_cons (m : Stroke σ) (rest : List (Stroke σ)) :
    ((m :: rest).filter relogs).length = m.relogs.toNat + (rest.filter relogs).length := by
  rw [List.filter_cons]
  cases m.relogs <;> simp [Nat.add_comm]

/-- The lines of a record that has been made: those of the strokes that log it again, and what it
may still give. -/
theorem length_entries_of_linked {strokes : List (Stroke σ)}
    (hp : ∀ m ∈ strokes, m.Possible l host) {r : Option (Record σ)} (hl : Linked r strokes) :
    (strokes.flatMap entries).length ≤ (strokes.filter relogs).length + allowance r := by
  induction strokes generalizing r with
  | nil => exact Nat.zero_le _
  | cons m rest ih =>
    obtain ⟨hsome, rfl, hrest⟩ := hl
    obtain ⟨r, hr⟩ := Option.isSome_iff_exists.mp hsome
    have hm := (hp m List.mem_cons_self).length_entries_add_le
    have hlater := ih (fun m' hm' => hp m' (List.mem_cons_of_mem _ hm')) hrest
    rw [hr, Option.elim_some] at hm
    rw [hr, List.flatMap_cons, List.length_append, length_relogs_cons]
    omega

/-- A record gives one line at most, besides those of the strokes that log it again. -/
theorem length_entries_of_life {strokes : List (Stroke σ)} (hp : ∀ m ∈ strokes, m.Possible l host)
    (hl : Life strokes) :
    (strokes.flatMap entries).length ≤ 1 + (strokes.filter relogs).length := by
  cases strokes with
  | nil => exact Nat.zero_le _
  | cons m rest =>
    obtain ⟨hbefore, hrest⟩ := hl
    have hm := (hp m List.mem_cons_self).length_entries_add_le
    have hlater :=
      length_entries_of_linked l host (fun m' hm' => hp m' (List.mem_cons_of_mem _ hm')) hrest
    rw [hbefore, Option.elim_none] at hm
    rw [List.flatMap_cons, List.length_append, length_relogs_cons]
    omega

end Stroke

namespace Journal

variable {l host} {g : Ledger} {j : Journal σ} {e : Event σ} {id : String}

/-- An event on the record of a name is possible if its action makes a possible stroke of any
record. -/
theorem possible_of_onRecord {act : Action (Record σ × σ) (Answer σ)}
    {watchedAct : Action (Record (Watched σ) × Watched σ) (Answer (Watched σ))}
    {made : Record σ → Except Fault (Answer σ) → List (Call σ) → Prop} (hn : Named g j.records)
    (hid : e.name? = some id) (hstart : e.isStart = false)
    (hstep : step l host e = onRecord id act)
    (hwatched : step l.watched host.watched e.watched = onRecord id watchedAct)
    (hc : CopiesOn made watchedAct act)
    (hmade : ∀ k r s calls, made r (act (r, s)).1 calls →
      Stroke.Possible l host ⟨e, k, some r, some (act (r, s)).2.1, (act (r, s)).1, calls⟩) :
    (stroke l host g j e).Possible l host := by
  rcases step_cases_of_onRecord hstep hwatched hc j with ⟨hr, hmissing, hcalls⟩ | ⟨r, hr, hm,
    hpresent⟩
  · have hk : g.names.get? id = none := (hn.known id).mpr hr
    rw [stroke, subject_of_name hid, remains_of_name hid, hid, Option.bind_some, hmissing, hcalls,
      hk, hr]
    exact .idle hstart
  · have hpossible := hmade (g.names.get? id) r j.host _ hm
    rwa [stroke, subject_of_name hid, remains_of_name hid, hid, Option.bind_some, hpresent,
      Table.get?_put, if_pos rfl, hr]

theorem possible_of_quiet {act : Action (Record σ × σ) Unit}
    {watchedAct : Action (Record (Watched σ) × Watched σ) (Answer (Watched σ))}
    (hn : Named g j.records) (hid : e.name? = some id)
    (hplain : e.isLog = false ∧ e.isTerminal = false ∧ e.isStart = false)
    (hstep : step l host e = onRecord id (silent act))
    (hwatched : step l.watched host.watched e.watched = onRecord id watchedAct)
    (hc : CopiesOn Quiet watchedAct (silent act))
    (hlogged : ∀ r s, r.isLogged = true → (act (r, s)).2.1.isLogged = true) :
    (stroke l host g j e).Possible l host := by
  refine possible_of_onRecord hn hid hplain.2.2 hstep hwatched hc ?_
  rintro k r s calls rfl
  refine .silent hplain rfl fun hr => ?_
  rw [silent_apply]
  exact hlogged r s hr

theorem conclude_isLogged (r : Record σ) (s : σ) :
    (l.conclude host (r, s)).2.1.isLogged = (r.isLogged || ! l.immediate) := by
  cases h : l.immediate || r.isLogged with
  | true =>
    rw [Logger.conclude_of_settled l host h]
    cases hi : l.immediate with
    | true => simp
    | false => simpa [hi] using h
  | false =>
    rw [Logger.conclude_of_open l host h, Logger.logRequest_apply]
    rw [Bool.or_eq_false_iff] at h
    simp [h.1, Record.isLogged, Record.markLogged]

theorem possible_of_ending {act : Action (Record σ × σ) (Option String)}
    {watchedAct : Action (Record (Watched σ) × Watched σ) (Answer (Watched σ))}
    (hn : Named g j.records) (hid : e.name? = some id) (hterminal : e.isTerminal = true)
    (hstart : e.isStart = false) (hstep : step l host e = onRecord id (speaking act))
    (hwatched : step l.watched host.watched e.watched = onRecord id watchedAct)
    (hc : CopiesOn (Closes l host) watchedAct (speaking act))
    (hlogged : ∀ r s, (act (r, s)).2.1.isLogged = (r.isLogged || ! l.immediate)) :
    (stroke l host g j e).Possible l host := by
  refine possible_of_onRecord hn hid hstart hstep hwatched hc ?_
  rintro k r s calls ⟨line, hline, hconcludes⟩
  rw [hline]
  refine .ending hterminal hconcludes ?_
  rw [speaking_apply]
  exact hlogged r s

theorem possible_stroke (hn : Named g j.records) (e : Event σ) :
    (stroke l host g j e).Possible l host := by
  cases e with
  | start id request =>
    refine .start (start_watched l host id request j).callsOf fun r hr => ?_
    rcases hs : l.startRequest host request j.host with ⟨f | r', s⟩
    · rw [step_start_of_error hs] at hr
      cases hr
    · rw [step_start_of_ok hs, remains, Table.get?_put, if_pos rfl] at hr
      cases hr
      exact l.startRequest_settles host hs
  | elapse change => exact .idle rfl
  | handled id =>
    exact possible_of_quiet hn rfl ⟨rfl, rfl, rfl⟩ rfl rfl (finish_watched host)
      fun r s hr => (r.isLogged_finish _).trans hr
  | finish id =>
    exact possible_of_quiet hn rfl ⟨rfl, rfl, rfl⟩ rfl rfl (finish_watched host)
      fun r s hr => (r.isLogged_finish _).trans hr
  | markHandling id =>
    refine possible_of_quiet hn rfl ⟨rfl, rfl, rfl⟩ rfl rfl
      (change_watched Record.markHandling_watched) fun r s hr => ?_
    have hstage : r.stage = .logged := beq_iff_eq.mp hr
    rw [Logger.onRecord, Action.change_apply, Record.markHandling, hstage]
    exact hr
  | markLogged id =>
    exact possible_of_quiet hn rfl ⟨rfl, rfl, rfl⟩ rfl rfl
      (change_watched Record.markLogged_watched) fun r s hr => rfl
  | setStatus id status =>
    exact possible_of_quiet hn rfl ⟨rfl, rfl, rfl⟩ rfl rfl
      (change_watched fun r => r.setStatus_watched status) fun r s hr => hr
  | setHeader id name value =>
    refine possible_of_quiet hn rfl ⟨rfl, rfl, rfl⟩ rfl rfl (setHeader_watched name value)
      fun r s hr => ?_
    rw [Logger.setHeader_apply]
    exact (r.isLogged_headed name value).trans hr
  | setTimes id startAt endAt =>
    exact possible_of_quiet hn rfl ⟨rfl, rfl, rfl⟩ rfl rfl
      (change_watched fun r => rfl) fun r s hr => hr
  | responded id =>
    exact possible_of_ending hn rfl rfl rfl rfl rfl (onResponse_watched l host) conclude_isLogged
  | failed id notFound =>
    refine possible_of_ending hn rfl rfl rfl rfl rfl (onError_watched l host notFound) fun r
      s => ?_
    rw [Logger.onError_apply, conclude_isLogged]
    cases notFound <;> rfl
  | log id =>
    refine possible_of_onRecord hn rfl rfl rfl rfl (speaking_watched (l.logRequest_watched host))
      ?_
    rintro k r s calls ⟨line, hline, hlogging⟩
    rw [hline]
    exact .log hlogging (by rw [speaking_apply, Logger.logRequest_apply]; rfl)
  | format id =>
    refine possible_of_onRecord hn rfl rfl rfl rfl (formatLine_watched l host) ?_
    intro k r s calls hcalls
    refine .silent ⟨rfl, rfl, rfl⟩ hcalls fun hr => ?_
    rw [speaking_apply]
    exact hr
  | snapshot id =>
    refine possible_of_onRecord hn rfl rfl rfl rfl snapshot_watched ?_
    rintro k r s calls rfl
    exact .silent ⟨rfl, rfl, rfl⟩ rfl fun hr => hr

end Journal

namespace Stroke

/-- What strokes handed to the emitter for a record, in their order. -/
def entriesOf (k : Nat) (strokes : List (Stroke σ)) : List (Snapshot σ × String) :=
  (strokes.filter (·.about k)).flatMap entries

/-- The strokes that log a record which has been logged. -/
def relogsOf (k : Nat) (strokes : List (Stroke σ)) : List (Stroke σ) :=
  (strokes.filter (·.about k)).filter relogs

end Stroke

namespace Journal

open Stroke

/-- In a run of all that a host may call, the strokes tell all answers and calls. A record is
handed to the emitter once at most, not counting the calls that log it by itself after it has been
logged. Of a record that has been logged no other call hands anything to the emitter, and the hooks
at the end of its request answer no line. Whether a record has been logged or not, to log it by
itself is one logging of it as it is: if it does not fail, as it does not with a reliable logger,
it answers the line that it hands on, and hands one on unless the predicate leaves it out. -/
theorem strokes_log_once (l : Logger σ) (host : Host σ) (events : List (Event σ)) (s : σ) :
    let strokes := Journal.strokes l host events Ledger.empty (fresh s)
    strokes.map Stroke.answer = (run l host events (fresh s)).1 ∧
    strokes.flatMap Stroke.calls = trace l host events (fresh s) ∧
    (∀ k, (entriesOf k strokes).length ≤ 1 + (relogsOf k strokes).length) ∧
    (∀ m ∈ strokes, m.settled = true →
      (m.event.isLog = false → m.entries = []) ∧
      (m.event.isTerminal = true → m.answer = .ok (.line none))) ∧
    ∀ m ∈ strokes, m.event.isLog = true → ∀ r, m.before = some r →
      (∃ line, m.answer = line.map .line ∧ l.Logging host r.snapshot line m.calls) ∧
      (∀ a, m.answer = .ok a → a = .line (m.entries.head?.map Prod.snd) ∧
        (m.entries.length = 1 ↔ m.leftOut = false)) ∧
      (l.Reliable host → m.answer = .ok (.line (m.entries.head?.map Prod.snd)) ∧
        (m.entries.length = 1 ↔ m.leftOut = false)) := by
  intro strokes
  have hpossible : ∀ m ∈ strokes, m.Possible l host :=
    forall_mem_strokes (fun _ _ e hn => possible_stroke hn e) events Named.empty
  refine ⟨answers_strokes .., calls_strokes .., fun k => ?_, fun m hm hs => ⟨?_, ?_⟩, ?_⟩
  · exact length_entries_of_life l host (fun m hm => hpossible m (List.mem_filter.mp hm).1)
      (life_strokes events s k)
  · exact (hpossible m hm).entries_of_settled hs
  · exact (hpossible m hm).answer_of_settled hs
  · intro m hm hlog r hbefore
    have hlogging : ∃ line, m.answer = line.map .line ∧
        l.Logging host r.snapshot line m.calls := by
      cases hpossible m hm with
      | start begins logged => cases hlog
      | idle start => cases hbefore
      | log logging logged =>
        cases hbefore
        exact ⟨_, rfl, logging⟩
      | @ending e _ _ _ _ _ terminal concludes logged => cases e <;> cases terminal <;> cases hlog
      | silent plain none logged => cases plain.1.symm.trans hlog
    refine ⟨hlogging, ?_, fun hr => ?_⟩
    · intro a ha
      obtain ⟨line, hanswer, hlogging⟩ := hlogging
      rw [ha] at hanswer
      obtain ⟨line, rfl, rfl⟩ := map_eq_ok.mp hanswer.symm
      obtain ⟨hline, hiff⟩ := hlogging.answer_of_ok
      exact ⟨congrArg Answer.line hline, hiff⟩
    · obtain ⟨answer, hanswer, hlogging⟩ := hlogging
      obtain ⟨line, rfl⟩ := hr.answer_ok hlogging
      obtain ⟨hline, hiff⟩ := hlogging.answer_of_ok
      exact ⟨hanswer.trans (by rw [hline]; rfl), hiff⟩

/-- A request that is logged twice by itself before it is responded to. -/
def loggedTwice : List (Event (List String)) :=
  [.start "a" PlainHost.request, .log "a", .log "a", .responded "a"]

theorem strokes_log_once_plain :
    (PlainHost.logger false).Reliable PlainHost.host ∧
      ∃ first second third fourth, strokes (PlainHost.logger false) PlainHost.host loggedTwice
          Ledger.empty (fresh []) = [first, second, third, fourth] ∧
        second.settled = false ∧ second.entries.length = 1 ∧
        third.settled = true ∧ third.entries.length = 1 ∧
        third.answer = .ok (.line (third.entries.head?.map Prod.snd)) ∧
        fourth.answer = .ok (.line none) ∧ fourth.entries = [] := by
  have hr : (PlainHost.logger false).Reliable PlainHost.host := by
    refine ⟨fun _ _ _ => rfl, fun _ _ => ⟨_, rfl⟩, fun p hp _ _ => ?_⟩
    cases hp
    rfl
  obtain ⟨-, -, -, hsettled, hlog⟩ :=
    strokes_log_once (PlainHost.logger false) PlainHost.host loggedTwice []
  obtain ⟨-, -, hsecond⟩ := hlog _ (.tail _ (.head _)) rfl _ rfl
  obtain ⟨-, -, hthird⟩ := hlog _ (.tail _ (.tail _ (.head _))) rfl _ rfl
  obtain ⟨hquiet, hnone⟩ := hsettled _ (.tail _ (.tail _ (.tail _ (.head _)))) rfl
  exact ⟨hr, _, _, _, _, rfl, rfl, (hsecond hr).2.mpr rfl, rfl, (hthird hr).2.mpr rfl,
    (hthird hr).1, hnone rfl, hquiet rfl⟩

end Journal

end RequestLog
