import RequestLog.Proofs.Watch.Logging

/-!
The hooks of a watched logger. A hook at the end of a request logs the record once, if the logger
logs then and the record has not been logged; a record of a logger that logs immediately has been
logged before the host sees it.
-/
namespace RequestLog.Logger

variable {σ : Type} (l : Logger σ) (host : Host σ)

/-- What a hook at the end of a request comes to on a record that was logged or not, and is as in a
snapshot then. -/
def Concludes (settled : Bool) (snapshot : Snapshot σ) (answer : Except Fault (Option String))
    (calls : List (Call σ)) : Prop :=
  if settled then answer = .ok none ∧ calls = [] else l.Logging host snapshot answer calls

/-- What a hook at the start of a request comes to, whose record is as in a snapshot then. -/
def Opens (snapshot : Snapshot σ) (answer : Except Fault (Record σ)) (calls : List (Call σ)) :
    Prop :=
  if l.immediate then
    ∃ line, l.Logging host snapshot line calls ∧ ∀ f, answer = .error f ↔ line = .error f
  else calls = [] ∧ ∃ r, answer = .ok r

theorem finish_apply (r : Record σ) (s : σ) :
    finish host (r, s) = (.ok (), (r.finish (host.now s), s)) := rfl

theorem setHeader_apply (name value : Value) (r : Record σ) (s : σ) :
    setHeader name value (r, s) =
      ((r.setHeader name value).map fun _ => (), (r.headed name value, s)) := by
  simp only [setHeader, Record.headed]
  rcases r.setHeader name value with _ | _ <;> rfl

theorem logRequest_apply (r : Record σ) (s : σ) :
    l.logRequest host (r, s) = ((l.logSnapshot host r.snapshot s).1,
      (r.markLogged, (l.logSnapshot host r.snapshot s).2)) := rfl

theorem conclude_of_settled {r : Record σ} (h : (l.immediate || r.isLogged) = true) (s : σ) :
    l.conclude host (r, s) = (.ok none, (r, s)) := by
  simp only [conclude, h, if_true]

theorem conclude_of_open {r : Record σ} (h : (l.immediate || r.isLogged) = false) (s : σ) :
    l.conclude host (r, s) = l.logRequest host (r.finish (host.now s), s) := by
  simp only [conclude, h, Bool.false_eq_true, if_false]
  rw [Action.andThen_of_ok (finish_apply host r s)]

theorem onError_apply (notFound : Bool) (r : Record σ) (s : σ) :
    l.onError host notFound (r, s) =
      l.conclude host (if notFound then r.setStatus notFoundStatus else r, s) := rfl

/-- A record is settled once a hook at the end of its request has been called. -/
theorem conclude_settles (r : Record σ) (s : σ) :
    (l.immediate || (l.conclude host (r, s)).2.1.isLogged) = true := by
  cases h : l.immediate || r.isLogged with
  | true => rw [conclude_of_settled l host h, h]
  | false =>
    rw [conclude_of_open l host h, logRequest_apply]
    simp [Record.isLogged, Record.markLogged]

theorem onError_settles (notFound : Bool) (r : Record σ) (s : σ) :
    (l.immediate || (l.onError host notFound (r, s)).2.1.isLogged) = true := by
  rw [onError_apply]
  exact l.conclude_settles host _ s

theorem logRequest_watched (r : Record σ) (s : σ) :
    ∃ more, (∀ calls, l.watched.logRequest host.watched (r.watched, (calls, s)) =
        ((l.logRequest host (r, s)).1, ((l.logRequest host (r, s)).2.1.watched,
          (calls ++ more, (l.logRequest host (r, s)).2.2)))) ∧
      l.Logging host r.snapshot (l.logRequest host (r, s)).1 more := by
  obtain ⟨more, hw, hlog⟩ := l.logSnapshot_watched host r.snapshot s
  refine ⟨more, fun calls => ?_, hlog⟩
  rw [logRequest_apply, logRequest_apply, Record.snapshot_watched, hw, Record.markLogged_watched]

theorem conclude_watched (r : Record σ) (s : σ) :
    ∃ more, (∀ calls, l.watched.conclude host.watched (r.watched, (calls, s)) =
        ((l.conclude host (r, s)).1, ((l.conclude host (r, s)).2.1.watched,
          (calls ++ more, (l.conclude host (r, s)).2.2)))) ∧
      l.Concludes host (l.immediate || r.isLogged) (r.finish (host.now s)).snapshot
        (l.conclude host (r, s)).1 more := by
  cases h : l.immediate || r.isLogged with
  | true =>
    refine ⟨[], fun calls => ?_, ?_⟩
    · rw [conclude_of_settled l host h, conclude_of_settled (r := r.watched) l.watched host.watched
        h, List.append_nil]
    · rw [conclude_of_settled l host h]
      exact ⟨rfl, rfl⟩
  | false =>
    obtain ⟨more, hw, hlog⟩ := l.logRequest_watched host (r.finish (host.now s)) s
    rw [conclude_of_open l host h]
    refine ⟨more, fun calls => ?_, hlog⟩
    rw [conclude_of_open (r := r.watched) l.watched host.watched h, ← hw, Record.finish_watched]
    rfl

theorem onError_watched (notFound : Bool) (r : Record σ) (s : σ) :
    ∃ more, (∀ calls, l.watched.onError host.watched notFound (r.watched, (calls, s)) =
        ((l.onError host notFound (r, s)).1, ((l.onError host notFound (r, s)).2.1.watched,
          (calls ++ more, (l.onError host notFound (r, s)).2.2)))) ∧
      ∃ snapshot, l.Concludes host (l.immediate || r.isLogged) snapshot
        (l.onError host notFound (r, s)).1 more := by
  simp only [onError_apply]
  cases notFound with
  | true =>
    obtain ⟨more, hw, hm⟩ := l.conclude_watched host (r.setStatus notFoundStatus) s
    exact ⟨more, hw, _, hm⟩
  | false =>
    obtain ⟨more, hw, hm⟩ := l.conclude_watched host r s
    exact ⟨more, hw, _, hm⟩

/-- The record of a request that comes in. -/
def opened (request : Request) (s : σ) : Record σ :=
  Record.start request Response.initial (some l.options) (host.now s)

theorem startRequest_of_deferred (h : l.immediate = false) (request : Request) (s : σ) :
    l.startRequest host request s = (.ok (l.opened host request s).markHandling, s) := by
  simp only [startRequest, h, Bool.false_eq_true, if_false, opened]

theorem startRequest_of_immediate (h : l.immediate = true) (request : Request) (s : σ) :
    l.startRequest host request s =
      ((l.logSnapshot host (l.opened host request s).snapshot s).1.map
          fun _ => (l.opened host request s).markLogged.markHandling,
        (l.logSnapshot host (l.opened host request s).snapshot s).2) := by
  simp only [startRequest, h, if_true, logRequest_apply, opened]
  generalize l.logSnapshot host (Record.start request Response.initial (some l.options)
    (host.now s)).snapshot s = logged
  obtain ⟨_ | _, _⟩ := logged <;> rfl

/-- A hook at the start of a request makes a settled record exactly if the logger logs then. -/
theorem startRequest_settles {request : Request} {s t : σ} {r : Record σ}
    (h : l.startRequest host request s = (.ok r, t)) : r.isLogged = l.immediate := by
  cases hi : l.immediate with
  | true =>
    rw [startRequest_of_immediate l host hi] at h
    have h1 := congrArg Prod.fst h
    generalize (l.logSnapshot host (l.opened host request s).snapshot s).1 = logged at h1
    cases logged with
    | error f => cases h1
    | ok line =>
      cases h1
      rfl
  | false =>
    rw [startRequest_of_deferred l host hi] at h
    cases h
    rfl

theorem opened_watched (request : Request) (calls : List (Call σ)) (s : σ) :
    l.watched.opened host.watched request (calls, s) = (l.opened host request s).watched := rfl

theorem startRequest_watched (request : Request) (s : σ) :
    ∃ more, (∀ calls, l.watched.startRequest host.watched request (calls, s) =
        ((l.startRequest host request s).1.map Record.watched,
          (calls ++ more, (l.startRequest host request s).2))) ∧
      l.Opens host (l.opened host request s).snapshot (l.startRequest host request s).1 more := by
  cases hi : l.immediate with
  | false =>
    rw [startRequest_of_deferred l host hi]
    refine ⟨[], fun calls => ?_, ?_⟩
    · rw [startRequest_of_deferred l.watched host.watched hi, opened_watched,
        Record.markHandling_watched, List.append_nil]
      rfl
    · rw [Opens, hi]
      exact ⟨rfl, _, rfl⟩
  | true =>
    obtain ⟨more, hw, hlog⟩ := l.logSnapshot_watched host (l.opened host request s).snapshot s
    rw [startRequest_of_immediate l host hi]
    refine ⟨more, fun calls => ?_, ?_⟩
    · rw [startRequest_of_immediate l.watched host.watched hi, opened_watched,
        Record.snapshot_watched, hw, Record.markLogged_watched, Record.markHandling_watched]
      rcases (l.logSnapshot host (l.opened host request s).snapshot s).1 with _ | _ <;> rfl
    · rw [Opens, hi]
      refine ⟨_, hlog, fun f => ?_⟩
      rcases (l.logSnapshot host (l.opened host request s).snapshot s).1 with _ | _ <;>
        simp [Except.map]

end RequestLog.Logger
