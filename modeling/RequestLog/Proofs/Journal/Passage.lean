import RequestLog.Proofs.Journal.Relogging
import RequestLog.Proofs.Watch.Lines

/-!
What a single event makes of the record that it finds. No event but one that sets the times takes a
record back to an earlier stage, or changes the start of its request, or its end once this has been
captured.
-/
namespace RequestLog

variable {σ : Type}

namespace Event

/-- Whether an event tells that nothing was found. -/
def isNotFound : Event σ → Bool
  | failed _ notFound => notFound
  | _ => false

/-- Whether an event puts given times in place of those of a record. -/
def setsTimes : Event σ → Bool
  | setTimes .. => true
  | _ => false

end Event

namespace Record

/-- The record as a hook at the end of its request leaves it. -/
def conclude (l : Logger σ) (now : ClockReading) (r : Record σ) : Record σ :=
  if l.immediate || r.isLogged then r else (r.finish now).markLogged

/-- The record as a failure leaves it before the request ends. -/
def noteFailure (r : Record σ) (notFound : Bool) : Record σ :=
  if notFound then r.setStatus Logger.notFoundStatus else r

/-- What an event makes of the record that it finds, by a reading of the clocks. -/
def pass (l : Logger σ) (now : ClockReading) (r : Record σ) : Event σ → Record σ
  | .handled _ => r.finish now
  | .responded _ => r.conclude l now
  | .failed _ notFound => (r.noteFailure notFound).conclude l now
  | .log _ => r.markLogged
  | .markHandling _ => r.markHandling
  | .finish _ => r.finish now
  | .markLogged _ => r.markLogged
  | .setStatus _ status => r.setStatus status
  | .setHeader _ name value => r.headed name value
  | .setTimes _ startAt endAt => Journal.withTimes startAt endAt r
  | .start .. | .format _ | .snapshot _ | .elapse _ => r

/-- What a record keeps of an earlier one: its stage is none before the earlier one's, the request
and its start are the same, and so is its end if it had been captured. -/
structure Follows (r r' : Record σ) : Prop where
  rank : r.stage.rank ≤ r'.stage.rank
  request : r'.request = r.request
  startAt : r'.startAt = r.startAt
  startTime : r'.startTime = r.startTime
  ended : r.endAt.isSome = true → r'.endAt = r.endAt ∧ r'.endTime = r.endTime

/-- Whether the end of a record is that of a reading of the clocks. A record without one has not
ended. -/
structure EndsAt (r : Record σ) (reading : Option ClockReading) : Prop where
  endAt : r.endAt = reading.map ClockReading.lapse
  endTime : r.endTime = reading.map ClockReading.wall
  ended : r.stage = .ended → r.endAt.isSome = true

/-- Whether an event captures the end of the record that it finds. -/
def captures (l : Logger σ) (r : Record σ) : Event σ → Bool
  | .handled _ | .finish _ => true
  | .responded _ | .failed .. => ! (l.immediate || r.isLogged)
  | _ => false

namespace Follows

variable {r r' r'' : Record σ}

theorem refl (r : Record σ) : r.Follows r := ⟨Nat.le_refl _, rfl, rfl, rfl, fun _ => ⟨rfl, rfl⟩⟩

theorem trans (h : r.Follows r') (h' : r'.Follows r'') : r.Follows r'' where
  rank := h.rank.trans h'.rank
  request := h'.request.trans h.request
  startAt := h'.startAt.trans h.startAt
  startTime := h'.startTime.trans h.startTime
  ended hr := by
    obtain ⟨hat, htime⟩ := h.ended hr
    obtain ⟨hat', htime'⟩ := h'.ended (by rwa [hat])
    exact ⟨hat'.trans hat, htime'.trans htime⟩

/-- A record of a stage that is none before that of a record with the same times follows it. -/
theorem of_stage {stage : Stage} (h : r.stage.rank ≤ stage.rank) :
    r.Follows { r with stage := stage } :=
  ⟨h, rfl, rfl, rfl, fun _ => ⟨rfl, rfl⟩⟩

theorem of_response (r : Record σ) (response : Response) :
    r.Follows { r with response := response } :=
  ⟨Nat.le_refl _, rfl, rfl, rfl, fun _ => ⟨rfl, rfl⟩⟩

end Follows

variable (l : Logger σ) (now : ClockReading) (r : Record σ)

theorem rank_le_logged (stage : Stage) : stage.rank ≤ Stage.logged.rank := by
  cases stage <;> decide

theorem follows_markLogged : r.Follows r.markLogged :=
  .of_stage (rank_le_logged _)

theorem follows_markHandling : r.Follows r.markHandling := by
  unfold markHandling
  split
  · next hstage => exact .of_stage (by rw [hstage]; decide)
  · exact .refl r

theorem follows_finish : r.Follows (r.finish now) := by
  obtain ⟨_, _, _, _, _, endAt, _, stage⟩ := r
  cases endAt with
  | none =>
    cases stage <;>
      exact ⟨by simp [finish, Stage.rank], rfl, rfl, rfl, fun h => absurd h Bool.false_ne_true⟩
  | some at_ => cases stage <;> exact ⟨by simp [finish, Stage.rank], rfl, rfl, rfl,
      fun _ => ⟨rfl, rfl⟩⟩

theorem follows_conclude : r.Follows (r.conclude l now) := by
  unfold conclude
  split
  · exact .refl r
  · exact (r.follows_finish now).trans (follows_markLogged _)

theorem follows_noteFailure (notFound : Bool) : r.Follows (r.noteFailure notFound) := by
  unfold noteFailure
  split
  · exact .of_response r _
  · exact .refl r

theorem follows_pass {e : Event σ} (he : e.setsTimes = false) : r.Follows (r.pass l now e) := by
  cases e with
  | handled id => exact r.follows_finish now
  | finish id => exact r.follows_finish now
  | responded id => exact r.follows_conclude l now
  | failed id notFound => exact (r.follows_noteFailure notFound).trans (follows_conclude l now _)
  | log id => exact r.follows_markLogged
  | markLogged id => exact r.follows_markLogged
  | markHandling id => exact r.follows_markHandling
  | setStatus id status => exact .of_response r _
  | setHeader id name value =>
    obtain ⟨headers, hheaded⟩ := r.exists_headed name value
    rw [pass, hheaded]
    exact .of_response r _
  | setTimes id startAt endAt => cases he
  | _ => exact .refl r

variable {l now r} {reading : Option ClockReading}

theorem EndsAt.finish (h : r.EndsAt reading) : (r.finish now).EndsAt (reading.or (some now)) := by
  obtain ⟨_, _, _, _, _, endAt, endTime, stage⟩ := r
  obtain ⟨rfl, rfl, -⟩ := h
  cases reading with
  | none => cases stage <;> exact ⟨rfl, rfl, fun _ => rfl⟩
  | some earlier => cases stage <;> exact ⟨rfl, rfl, fun _ => rfl⟩

theorem EndsAt.markLogged (h : r.EndsAt reading) : r.markLogged.EndsAt reading :=
  ⟨h.endAt, h.endTime, fun hstage => nomatch hstage⟩

theorem EndsAt.markHandling (h : r.EndsAt reading) : r.markHandling.EndsAt reading := by
  unfold Record.markHandling
  split
  · exact ⟨h.endAt, h.endTime, fun hstage => nomatch hstage⟩
  · exact h

theorem EndsAt.noteFailure (h : r.EndsAt reading) (notFound : Bool) :
    (r.noteFailure notFound).EndsAt reading := by
  cases notFound with
  | true => exact ⟨h.endAt, h.endTime, h.ended⟩
  | false => exact h

theorem pass_of_isTerminal {e : Event σ} (ht : e.isTerminal = true) :
    r.pass l now e = (r.noteFailure e.isNotFound).conclude l now := by
  cases e with
  | responded id => rfl
  | failed id notFound => rfl
  | _ => cases ht

theorem captures_of_isTerminal {e : Event σ} (ht : e.isTerminal = true) :
    r.captures l e = ! (l.immediate || r.isLogged) := by
  cases e with
  | responded id => rfl
  | failed id notFound => rfl
  | _ => cases ht

theorem isLogged_noteFailure (notFound : Bool) :
    (r.noteFailure notFound).isLogged = r.isLogged := by
  cases notFound <;> rfl

theorem response_noteFailure (notFound : Bool) : (r.noteFailure notFound).response =
    ⟨if notFound then Logger.notFoundStatus else r.response.status, r.response.headers⟩ := by
  cases notFound <;> rfl

theorem EndsAt.conclude (h : r.EndsAt reading) : (r.conclude l now).EndsAt
    (reading.or (if (! (l.immediate || r.isLogged)) = true then some now else none)) := by
  unfold Record.conclude
  cases l.immediate || r.isLogged with
  | true => simpa using h
  | false => exact h.finish.markLogged

/-- Where an event captures the end of a record, it is the present one unless there is one
already. -/
theorem EndsAt.pass (h : r.EndsAt reading) {e : Event σ} (he : e.setsTimes = false) :
    (r.pass l now e).EndsAt (reading.or (if r.captures l e then some now else none)) := by
  have hplain {r' : Record σ} (h' : r'.EndsAt reading) :
      r'.EndsAt (reading.or (if false = true then some now else none)) := by
    rwa [if_neg Bool.false_ne_true, Option.or_none]
  cases e with
  | handled id => exact h.finish
  | finish id => exact h.finish
  | responded id => exact h.conclude
  | failed id notFound =>
    have hconclude : ((r.noteFailure notFound).conclude l now).EndsAt _ :=
      (h.noteFailure notFound).conclude
    rwa [isLogged_noteFailure] at hconclude
  | log id => exact hplain h.markLogged
  | markLogged id => exact hplain h.markLogged
  | markHandling id => exact hplain h.markHandling
  | setStatus id status => exact hplain ⟨h.endAt, h.endTime, h.ended⟩
  | setHeader id name value =>
    obtain ⟨headers, hheaded⟩ := r.exists_headed name value
    rw [Record.pass, hheaded]
    exact hplain ⟨h.endAt, h.endTime, h.ended⟩
  | setTimes id startAt endAt => cases he
  | _ => exact hplain h

end Record

namespace Journal

variable {l : Logger σ} {host : Host σ} {g : Ledger} {j : Journal σ} {e : Event σ} {id : String}
  {r : Record σ}

theorem after_of_onRecord (act : Action (Record σ × σ) (Answer σ)) (hid : e.name? = some id)
    (hstep : step l host e = onRecord id act) (hr : (stroke l host g j e).before = some r) :
    (stroke l host g j e).after = some (act (r, j.host)).2.1 := by
  rw [stroke, hid, Option.bind_some] at hr
  rw [stroke, remains_of_name hid, hstep, onRecord_of_present hr, Table.get?_put, if_pos rfl]

theorem conclude_record (r : Record σ) (s : σ) :
    (l.conclude host (r, s)).2.1 = r.conclude l (host.now s) := by
  rw [Record.conclude]
  cases h : l.immediate || r.isLogged with
  | true =>
    rw [Logger.conclude_of_settled l host h]
    rfl
  | false =>
    rw [Logger.conclude_of_open l host h]
    rfl

/-- A stroke that finds a record leaves what its event makes of the record. -/
theorem after_stroke (hr : (stroke l host g j e).before = some r) :
    (stroke l host g j e).after = some (r.pass l (host.now j.host) e) := by
  cases e with
  | start id request => cases hr
  | elapse change => cases hr
  | responded id =>
    rw [after_of_onRecord _ rfl rfl hr, speaking_apply]
    exact congrArg some (conclude_record r j.host)
  | failed id notFound =>
    rw [after_of_onRecord _ rfl rfl hr, speaking_apply, Logger.onError_apply, conclude_record]
    rfl
  | log id =>
    rw [after_of_onRecord _ rfl rfl hr, speaking_apply]
    rfl
  | format id =>
    rw [after_of_onRecord
      (fun w => speaking (Action.onHost ((l.formatLine host w.1.snapshot).andThen
      fun line => Action.done (some line))) w) rfl rfl hr, speaking_apply]
    rfl
  | snapshot id => exact after_of_onRecord (fun w => (.ok (.snapshot w.1.snapshot), w)) rfl rfl hr
  | setHeader id name value =>
    rw [after_of_onRecord _ rfl rfl hr, silent_apply, Logger.setHeader_apply]
    rfl
  | _ =>
    rw [after_of_onRecord _ rfl rfl hr, silent_apply]
    rfl

theorem get?_watched (calls : List (Call σ)) (hr : j.records.get? id = some r) :
    (j.watched calls).records.get? id = some r.watched := by
  rw [watched, Table.get?_map (fun _ => Record.watched), hr]
  rfl

theorem noteFailure_watched (r : Record σ) (notFound : Bool) :
    r.watched.noteFailure notFound = (r.noteFailure notFound).watched := by
  cases notFound with
  | true => exact r.setStatus_watched _
  | false => rfl

/-- The calls of a hook at the end of a request are those that are made when the request ends. -/
theorem callsOf_of_isTerminal (hr : (stroke l host g j e).before = some r)
    (ht : e.isTerminal = true) :
    callsOf l host e j = l.callsOfConclude host (r.noteFailure e.isNotFound, j.host) := by
  cases e with
  | responded id =>
    have hfound := get?_watched [] hr
    simp only [callsOf, Event.watched, step]
    rw [onRecord_of_present hfound, speaking_apply]
    rfl
  | failed id notFound =>
    have hfound := get?_watched [] hr
    simp only [callsOf, Event.watched, step]
    rw [onRecord_of_present hfound, speaking_apply, Logger.onError_apply]
    have hnote : (if notFound then r.watched.setStatus Logger.notFoundStatus else r.watched) =
      (r.noteFailure notFound).watched := noteFailure_watched r notFound
    rw [hnote]
    rfl
  | _ => cases ht

end Journal

end RequestLog
