import RequestLog.Logger.Journal
import RequestLog.Proofs.Watch.Hooks

/-!
Watched journals. A watched logger takes the steps of the logger, and writes down the calls that
every step makes.
-/
namespace RequestLog

namespace Event

variable {σ : Type}

def watched : Event σ → Event (Watched σ)
  | start id request => start id request
  | handled id => handled id
  | responded id => responded id
  | failed id notFound => failed id notFound
  | log id => log id
  | format id => format id
  | markHandling id => markHandling id
  | finish id => finish id
  | markLogged id => markLogged id
  | snapshot id => snapshot id
  | setStatus id status => setStatus id status
  | setHeader id name value => setHeader id name value
  | setTimes id startAt endAt => setTimes id startAt endAt
  | elapse change => elapse fun w => (w.1, change w.2)

end Event

namespace Answer

variable {σ : Type}

def watched : Answer σ → Answer (Watched σ)
  | nothing => nothing
  | line l => line l
  | snapshot s => snapshot s.watched

end Answer

namespace Journal

variable {σ : Type}

def watched (calls : List (Call σ)) (j : Journal σ) : Journal (Watched σ) :=
  ⟨j.records.map fun _ => Record.watched, (calls, j.host)⟩

/-- A watched action on journals does what an action does and writes down calls, of which a
relation to the answer holds. -/
def Copies (made : Except Fault (Answer σ) → List (Call σ) → Prop)
    (watchedAct : Action (Journal (Watched σ)) (Answer (Watched σ)))
    (act : Action (Journal σ) (Answer σ)) (j : Journal σ) : Prop :=
  ∃ more, (∀ calls, watchedAct (j.watched calls) =
      ((act j).1.map Answer.watched, (act j).2.watched (calls ++ more))) ∧ made (act j).1 more

/-- A watched action on the record of a request does what an action does. -/
def CopiesOn (made : Record σ → Except Fault (Answer σ) → List (Call σ) → Prop)
    (watchedAct : Action (Record (Watched σ) × Watched σ) (Answer (Watched σ)))
    (act : Action (Record σ × σ) (Answer σ)) : Prop :=
  ∀ r s, ∃ more, (∀ calls, watchedAct (r.watched, (calls, s)) =
      ((act (r, s)).1.map Answer.watched,
        ((act (r, s)).2.1.watched, (calls ++ more, (act (r, s)).2.2)))) ∧
        made r (act (r, s)).1 more

/-- What a hook that logs nothing comes to. -/
def Quiet (_ : Record σ) (_ : Except Fault (Answer σ)) (calls : List (Call σ)) : Prop :=
  calls = []

/-- What a hook at the end of a request comes to on its record. -/
def Closes (l : Logger σ) (host : Host σ) (r : Record σ) (answer : Except Fault (Answer σ))
    (calls : List (Call σ)) : Prop :=
  ∃ line, answer = line.map .line ∧
    ∃ snapshot, l.Concludes host (l.immediate || r.isLogged) snapshot line calls

/-- What a hook at the start of a request comes to. -/
def Begins (l : Logger σ) (host : Host σ) (answer : Except Fault (Answer σ))
    (calls : List (Call σ)) : Prop :=
  ∃ r, answer = r.map (fun _ => .nothing) ∧ ∃ snapshot, l.Opens host snapshot r calls

theorem put_watched (records : Table (Record σ)) (id : String) (r : Record σ) :
    (records.map fun _ => Record.watched).put id r.watched =
      (records.put id r).map fun _ => Record.watched :=
  Table.put_map (fun _ => Record.watched) records id r

theorem onRecord_of_missing {id : String} {j : Journal σ} (h : j.records.get? id = none)
    (act : Action (Record σ × σ) (Answer σ)) : onRecord id act j = (.error (.missing id), j) := by
  simp only [onRecord, h]

theorem onRecord_of_present {id : String} {j : Journal σ} {r : Record σ}
    (h : j.records.get? id = some r) (act : Action (Record σ × σ) (Answer σ)) :
    onRecord id act j = ((act (r, j.host)).1,
      ⟨j.records.put id (act (r, j.host)).2.1, (act (r, j.host)).2.2⟩) := by
  simp only [onRecord, h]

theorem onRecord_watched {made : Record σ → Except Fault (Answer σ) → List (Call σ) → Prop}
    {watchedAct : Action (Record (Watched σ) × Watched σ) (Answer (Watched σ))}
    {act : Action (Record σ × σ) (Answer σ)} (h : CopiesOn made watchedAct act) (id : String)
    (j : Journal σ) :
    Copies (fun answer calls => (j.records.get? id = none ∧ calls = []) ∨
        ∃ r, j.records.get? id = some r ∧ made r answer calls)
      (onRecord id watchedAct) (onRecord id act) j := by
  have hget : ∀ calls,
    (j.watched calls).records.get? id = (j.records.get? id).map Record.watched :=
    fun _ => Table.get?_map (fun _ => Record.watched) j.records id
  cases hr : j.records.get? id with
  | none =>
    refine ⟨[], fun calls => ?_, .inl ⟨rfl, rfl⟩⟩
    rw [onRecord_of_missing hr, onRecord_of_missing (by rw [hget, hr]; rfl), List.append_nil]
    rfl
  | some r =>
    obtain ⟨more, hw, hm⟩ := h r j.host
    rw [Copies, onRecord_of_present hr]
    refine ⟨more, fun calls => ?_, .inr ⟨r, rfl, hm⟩⟩
    rw [onRecord_of_present (r := r.watched) (by rw [hget, hr]; rfl)]
    have hh : (j.watched calls).host = (calls, j.host) := rfl
    rw [hh, hw]
    simp only [watched, put_watched]

theorem silent_apply (act : Action (Record σ × σ) Unit) (w : Record σ × σ) :
    silent act w = ((act w).1.map fun _ => .nothing, (act w).2) :=
  Action.andThen_done ..

theorem speaking_apply (act : Action (Record σ × σ) (Option String)) (w : Record σ × σ) :
    speaking act w = ((act w).1.map .line, (act w).2) :=
  Action.andThen_done ..

/-- An action that does not touch the host is copied without calls. -/
theorem silent_watched {watchedAct : Action (Record (Watched σ) × Watched σ) Unit}
    {act : Action (Record σ × σ) Unit} {f : Record σ → σ → Except Fault Unit × Record σ}
    (ha : ∀ r s, act (r, s) = ((f r s).1, ((f r s).2, s)))
    (hw : ∀ r calls s, watchedAct (r.watched, (calls, s)) =
      ((f r s).1, ((f r s).2.watched, (calls, s)))) :
    CopiesOn Quiet (silent watchedAct) (silent act) := by
  intro r s
  refine ⟨[], fun calls => ?_, rfl⟩
  rw [silent_apply, silent_apply, ha, hw, List.append_nil]
  rcases (f r s).1 with _ | _ <;> rfl

theorem speaking_watched {watchedAct : Action (Record (Watched σ) × Watched σ) (Option String)}
    {act : Action (Record σ × σ) (Option String)}
    {made : Record σ → Except Fault (Option String) → List (Call σ) → Prop}
    (h : ∀ r s, ∃ more, (∀ calls, watchedAct (r.watched, (calls, s)) =
      ((act (r, s)).1, ((act (r, s)).2.1.watched, (calls ++ more, (act (r, s)).2.2)))) ∧
        made r (act (r, s)).1 more) :
    CopiesOn (fun r answer calls => ∃ line, answer = line.map .line ∧ made r line calls)
      (speaking watchedAct) (speaking act) := by
  intro r s
  obtain ⟨more, hw, hm⟩ := h r s
  simp only [speaking_apply]
  refine ⟨more, fun calls => ?_, _, rfl, hm⟩
  rw [hw]
  rcases (act (r, s)).1 with _ | _ <;> rfl

variable (l : Logger σ) (host : Host σ)

theorem change_watched {change : Record σ → Record σ}
    {watchedChange : Record (Watched σ) → Record (Watched σ)}
    (h : ∀ r, watchedChange r.watched = (change r).watched) :
    CopiesOn Quiet (silent (Logger.onRecord watchedChange)) (silent (Logger.onRecord change)) := by
  apply silent_watched (f := fun r _ => (.ok (), change r))
  · intro r s
    rfl
  · intro r calls s
    simp only [Logger.onRecord, Action.change_apply, h]

theorem finish_watched :
    CopiesOn Quiet (silent (Logger.finish host.watched)) (silent (Logger.finish host)) := by
  apply silent_watched (f := fun r s => (.ok (), r.finish (host.now s)))
  · intro r s
    rfl
  · intro r calls s
    rw [Logger.finish_apply, Record.finish_watched]
    rfl

theorem setHeader_watched (name value : Value) : CopiesOn Quiet
    (silent (Logger.setHeader name value : Action (Record (Watched σ) × Watched σ) Unit))
    (silent (Logger.setHeader name value : Action (Record σ × σ) Unit)) := by
  apply silent_watched (f := fun r _ => ((r.setHeader name value).map fun _ => (),
    r.headed name value))
  · exact fun r s => Logger.setHeader_apply name value r s
  · intro r calls s
    rw [Logger.setHeader_apply, Record.setHeader_watched, Record.headed_watched]
    rcases r.setHeader name value with _ | _ <;> rfl

theorem onResponse_watched :
    CopiesOn (Closes l host) (speaking (l.watched.onResponse host.watched))
      (speaking (l.onResponse host)) := by
  refine speaking_watched fun r s => ?_
  obtain ⟨more, hw, hm⟩ := l.conclude_watched host r s
  exact ⟨more, hw, _, hm⟩

theorem onError_watched (notFound : Bool) :
    CopiesOn (Closes l host) (speaking (l.watched.onError host.watched notFound))
      (speaking (l.onError host notFound)) :=
  speaking_watched (l.onError_watched host notFound)

theorem start_watched (id : String) (request : Request) (j : Journal σ) :
    Copies (Begins l host) (start l.watched host.watched id request) (start l host id request)
    j := by
  obtain ⟨more, hw, hm⟩ := l.startRequest_watched host request j.host
  have hh : ∀ calls, (j.watched calls).host = (calls, j.host) := fun _ => rfl
  rcases hs : l.startRequest host request j.host with ⟨f | r, s⟩
  · rw [hs] at hw hm
    refine ⟨more, fun calls => ?_, .error f, ?_, ?_⟩
    · simp only [start, hh, hs, hw, Except.map]
      rfl
    · simp only [start, hs, Except.map]
    · exact ⟨_, hm⟩
  · rw [hs] at hw hm
    refine ⟨more, fun calls => ?_, .ok r, ?_, ?_⟩
    · simp only [start, hh, hs, hw, Except.map]
      rw [watched, watched, ← put_watched]
      rfl
    · simp only [start, hs, Except.map]
    · exact ⟨_, hm⟩

/-- A line that is only formatted is not handed to the emitter. -/
theorem formatLine_watched :
    CopiesOn (fun _ _ calls => Call.entries calls = [])
      (fun w => speaking (Action.onHost ((l.watched.formatLine host.watched w.1.snapshot).andThen
        fun line => Action.done (some line))) w)
      (fun w => speaking (Action.onHost ((l.formatLine host w.1.snapshot).andThen
        fun line => Action.done (some line))) w) := by
  intro r s
  obtain ⟨more, hw, hrendering⟩ := l.formatter.line_watched host r.snapshot s
  refine ⟨more, fun calls => ?_, Call.entries_of_rendering hrendering⟩
  have hl : l.watched.formatLine host.watched r.watched.snapshot (calls, s) =
      ((l.formatLine host r.snapshot s).1, (calls ++ more, (l.formatLine host r.snapshot s).2)) :=
    hw calls
  simp only [speaking_apply, Action.onHost_apply, Action.andThen_done, hl]
  rcases (l.formatLine host r.snapshot s).1 with _ | _ <;> rfl

theorem snapshot_watched :
    CopiesOn (fun _ _ calls => calls = [])
      (fun w : Record (Watched σ) × Watched σ => (.ok (.snapshot w.1.snapshot), w))
      (fun w => (.ok (.snapshot w.1.snapshot), w)) :=
  fun r s => ⟨[], fun calls => by simp [Except.map, Answer.watched], rfl⟩

theorem step_watched (e : Event σ) (j : Journal σ) :
    Copies (fun _ _ => True) (step l.watched host.watched e.watched) (step l host e) j := by
  have weaken : ∀ {made watchedAct act}, Copies made watchedAct act j →
      Copies (fun _ _ => True) watchedAct act j :=
    fun ⟨more, hw, _⟩ => ⟨more, hw, trivial⟩
  cases e with
  | start id request => exact weaken (start_watched l host id request j)
  | handled id => exact weaken (onRecord_watched (finish_watched host) id j)
  | responded id => exact weaken (onRecord_watched (onResponse_watched l host) id j)
  | failed id notFound => exact weaken (onRecord_watched (onError_watched l host notFound) id j)
  | log id => exact weaken (onRecord_watched (speaking_watched (l.logRequest_watched host)) id j)
  | format id => exact weaken (onRecord_watched (formatLine_watched l host) id j)
  | markHandling id =>
    exact weaken (onRecord_watched (change_watched Record.markHandling_watched) id j)
  | finish id => exact weaken (onRecord_watched (finish_watched host) id j)
  | markLogged id =>
    exact weaken (onRecord_watched (change_watched Record.markLogged_watched) id j)
  | snapshot id =>
    exact weaken (onRecord_watched snapshot_watched id j)
  | setStatus id status =>
    exact weaken (onRecord_watched (change_watched fun r => r.setStatus_watched status) id j)
  | setHeader id name value =>
    exact weaken (onRecord_watched (setHeader_watched name value) id j)
  | setTimes id startAt endAt =>
    exact weaken (onRecord_watched (change_watched fun r => rfl) id j)
  | elapse change => exact ⟨[], fun calls => by simp [step, Event.watched, watched, Except.map,
      Answer.watched], trivial⟩

def callsOf (e : Event σ) (j : Journal σ) : List (Call σ) :=
  (step l.watched host.watched e.watched (j.watched [])).2.host.1

/-- What is known of a step and its calls is known of the calls written down. -/
theorem Copies.callsOf {made : Except Fault (Answer σ) → List (Call σ) → Prop} {e : Event σ}
    {j : Journal σ} (h : Copies made (step l.watched host.watched e.watched) (step l host e) j) :
    made (step l host e j).1 (callsOf l host e j) := by
  obtain ⟨more, hw, hm⟩ := h
  have hc : Journal.callsOf l host e j = more := by
    rw [Journal.callsOf, hw]
    rfl
  exact hc ▸ hm

/-- A step on the record of a name either finds none, or does and calls what its action does and
calls. -/
theorem step_cases_of_onRecord {l : Logger σ} {host : Host σ}
    {act : Action (Record σ × σ) (Answer σ)}
    {watchedAct : Action (Record (Watched σ) × Watched σ) (Answer (Watched σ))}
    {made : Record σ → Except Fault (Answer σ) → List (Call σ) → Prop} {e : Event σ} {id : String}
    (hstep : step l host e = onRecord id act)
    (hwatched : step l.watched host.watched e.watched = onRecord id watchedAct)
    (hc : CopiesOn made watchedAct act) (j : Journal σ) :
    (j.records.get? id = none ∧ step l host e j = (.error (.missing id), j) ∧
      callsOf l host e j = []) ∨
      ∃ r, j.records.get? id = some r ∧ made r (act (r, j.host)).1 (callsOf l host e j) ∧
        step l host e j = ((act (r, j.host)).1,
          ⟨j.records.put id (act (r, j.host)).2.1, (act (r, j.host)).2.2⟩) := by
  have hcopies := onRecord_watched hc id j
  rw [← hstep, ← hwatched] at hcopies
  rcases hcopies.callsOf with ⟨hnone, hcalls⟩ | ⟨r, hr, hm⟩
  · exact .inl ⟨hnone, by rw [hstep, onRecord_of_missing hnone], hcalls⟩
  · rw [hstep, onRecord_of_present hr] at hm ⊢
    exact .inr ⟨r, hr, hm, rfl⟩

theorem step_watched_eq (e : Event σ) (calls : List (Call σ)) (j : Journal σ) :
    step l.watched host.watched e.watched (j.watched calls) =
      ((step l host e j).1.map Answer.watched,
        (step l host e j).2.watched (calls ++ callsOf l host e j)) := by
  obtain ⟨more, hw, -⟩ := step_watched l host e j
  rw [callsOf, hw, hw]
  rfl

/-- The calls that events make, one after the other. -/
def trace : List (Event σ) → Journal σ → List (Call σ)
  | [], _ => []
  | e :: rest, j => callsOf l host e j ++ trace rest (step l host e j).2

/-- A watched logger answers what the logger answers, and writes down the calls of all events. -/
theorem run_watched (events : List (Event σ)) (calls : List (Call σ)) (j : Journal σ) :
    run l.watched host.watched (events.map Event.watched) (j.watched calls) =
      ((run l host events j).1.map (·.map Answer.watched),
        (run l host events j).2.watched (calls ++ trace l host events j)) := by
  induction events generalizing calls j with
  | nil => simp [run, trace]
  | cons e rest ih => simp [run, trace, step_watched_eq, ih]

end Journal

end RequestLog
