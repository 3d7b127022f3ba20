import RequestLog.Gateway.Middleware
import RequestLog.Proofs.Watch.Hooks

/-!
Watched middleware. The application behind a watched logger writes down that it is entered; what it
does, and what the server does with its body, leaves the calls alone and does not log the record. A
writer that the server gives to the application stays the same writer.
-/
namespace RequestLog

namespace Writer

variable {κ σ : Type}

/-- A writer beside something that it leaves as it is. -/
def onHost (writer : Writer σ) : Writer (κ × σ) :=
  writer.map fun write c => Action.onHost (write c)

/-- What a writer does to the host while something stands beside it. -/
def alone (k : κ) (writer : Writer (κ × σ)) : Writer σ :=
  writer.map fun write c s => ((write c (k, s)).1, (write c (k, s)).2.2)

@[simp] theorem alone_onHost (k : κ) (writer : Writer σ) : writer.onHost.alone k = writer := by
  cases writer <;> rfl

@[simp] theorem map_alone_onHost (k : κ) (given : Except Fault (Writer σ)) :
    (given.map onHost).map (alone k) = given := by
  cases given with
  | error f => rfl
  | ok writer => exact congrArg Except.ok (alone_onHost k writer)

end Writer

namespace Process

variable {σ γ α β : Type}

def watched (f : α → β) : Process σ γ α → Process (Watched σ) γ β
  | done a => done (f a)
  | fail fault => fail fault
  | chunk c next => chunk c (next.watched f)
  | start status headers trouble next =>
    start status headers trouble fun given => (next (given.map (Writer.alone []))).watched f
  | touch act next => touch (Action.onHost act) fun r w => (next r w.2).watched f

end Process

namespace Body

variable {σ : Type}

def watched (body : Body σ) : Body (Watched σ) :=
  ⟨body.opening.watched (Process.watched id), body.close.map (Process.watched id)⟩

end Body

namespace App

variable {σ : Type}

def watched (app : App σ) : App (Watched σ) := fun environ =>
  .touch (Action.change fun w => (w.1 ++ [.entered environ], w.2)) fun _ _ =>
    (app environ).watched Body.watched

end App

namespace StartResponse

variable {σ : Type}

def watched (server : StartResponse σ) : StartResponse (Watched σ) :=
  fun status headers trouble w =>
    ((server status headers trouble w.2).1.map Writer.onHost,
      (w.1, (server status headers trouble w.2).2))

end StartResponse

namespace Move

variable {σ : Type}

def watched : Move σ → Move (Watched σ)
  | take demand => take demand
  | close => close
  | elapse change => elapse fun w => (w.1, change w.2)

end Move

/-- A record and the state of its host, with the calls made so far beside the latter. -/
def beside {σ : Type} (calls : List (Call σ)) (w : Record σ × σ) :
    Record (Watched σ) × Watched σ :=
  (w.1.watched, (calls, w.2))

namespace StartResponse

variable {σ : Type}

/-- What starts a response leaves it as it was whether the record is logged. -/
def Keeps (onStart : StartResponse σ (Record σ × σ)) : Prop :=
  ∀ status headers trouble w, (onStart status headers trouble w).2.1.isLogged = w.1.isLogged

/-- What starts a response in a watched host does what starts it in the host, and makes no call. -/
def Mimics (watchedStart : StartResponse (Watched σ) (Record (Watched σ) × Watched σ))
    (onStart : StartResponse σ (Record σ × σ)) : Prop :=
  ∀ status headers trouble calls w, watchedStart status headers trouble (beside calls w) =
    ((onStart status headers trouble w).1.map Writer.onHost,
      beside calls (onStart status headers trouble w).2)

end StartResponse

namespace Process

section Walk

variable {ρ σ γ : Type} {server : StartResponse σ (ρ × σ)}

theorem walk_zero (p : Process σ γ Unit) (w : ρ × σ) :
    p.walk server (some 0) w = (([], .left), w) := by
  cases p <;> rfl

theorem walk_chunk {demand : Option Nat} (hd : demand ≠ some 0) (c : γ) (next : Process σ γ Unit)
    (w : ρ × σ) : (chunk c next).walk server demand w =
      ((c :: (next.walk server (demand.map (· - 1)) w).1.1,
        (next.walk server (demand.map (· - 1)) w).1.2),
        (next.walk server (demand.map (· - 1)) w).2) := by
  rw [walk]
  exact hd

theorem walk_start {demand : Option Nat} (hd : demand ≠ some 0) (status : Value)
    (headers : HeaderSource) (trouble : Value)
    (next : Except Fault (Writer σ) → Process σ γ Unit) (w : ρ × σ) :
    (start status headers trouble next).walk server demand w =
      (next (server status headers trouble w).1).walk server demand
        (server status headers trouble w).2 := by
  rw [walk]
  exact hd

theorem walk_touch {demand : Option Nat} (hd : demand ≠ some 0) (act : Action σ Unit)
    (next : Except Fault Unit → σ → Process σ γ Unit) (w : ρ × σ) :
    (touch act next).walk server demand w =
      (next (act w.2).1 (act w.2).2).walk server demand (w.1, (act w.2).2) := by
  rw [walk]
  exact hd

end Walk

open StartResponse (Keeps Mimics)

variable {σ γ α β : Type} {onStart : StartResponse σ (Record σ × σ)}
  {watchedStart : StartResponse (Watched σ) (Record (Watched σ) × Watched σ)}

theorem finish_watched (h : Mimics watchedStart onStart) (f : α → β) (p : Process σ Empty α)
    (calls : List (Call σ)) (w : Record σ × σ) :
    (p.watched f).finish watchedStart (beside calls w) =
      ((p.finish onStart w).1.map f, beside calls (p.finish onStart w).2) := by
  -- on the tree of the process; the calls stay the same while the record and the host change
  induction p generalizing w with
  | done a => rfl
  | fail fault => rfl
  | chunk c next ih => exact c.elim
  | start status headers trouble next ih =>
    simp only [watched, finish]
    rw [h, Writer.map_alone_onHost, ih]
  | touch act next ih => exact ih (act w.2).1 (act w.2).2 (w.1, (act w.2).2)

theorem walk_watched (h : Mimics watchedStart onStart) (p : Process σ γ Unit) (demand : Option Nat)
    (calls : List (Call σ)) (w : Record σ × σ) :
    (p.watched id).walk watchedStart demand (beside calls w) =
      ((p.walk onStart demand w).1, beside calls (p.walk onStart demand w).2) := by
  induction p generalizing w demand with
  | done a => rcases demand with _ | _ | n <;> rfl
  | fail fault => rcases demand with _ | _ | n <;> rfl
  | chunk c next ih =>
    -- without demand the walk stops here, and the equations of `walk` do not apply
    by_cases hd : demand = some 0
    · rw [hd, walk_zero, walk_zero]
    · rw [watched, walk_chunk hd, walk_chunk hd, ih]
  | start status headers trouble next ih =>
    by_cases hd : demand = some 0
    · rw [hd, walk_zero, walk_zero]
    · rw [watched, walk_start hd, walk_start hd, h, Writer.map_alone_onHost, ih]
  | touch act next ih =>
    by_cases hd : demand = some 0
    · rw [hd, walk_zero, walk_zero]
    · rw [watched, walk_touch hd, walk_touch hd]
      exact ih (act w.2).1 (act w.2).2 demand (w.1, (act w.2).2)

theorem isLogged_finish (h : Keeps onStart) (p : Process σ Empty α) (w : Record σ × σ) :
    (p.finish onStart w).2.1.isLogged = w.1.isLogged := by
  induction p generalizing w with
  | done a => rfl
  | fail fault => rfl
  | chunk c next ih => exact c.elim
  | start status headers trouble next ih =>
    rw [finish, ih, h]
  | touch act next ih => exact ih (act w.2).1 (act w.2).2 (w.1, (act w.2).2)

theorem isLogged_walk (h : Keeps onStart) (p : Process σ γ Unit) (demand : Option Nat)
    (w : Record σ × σ) : (p.walk onStart demand w).2.1.isLogged = w.1.isLogged := by
  induction p generalizing w demand with
  | done a => rcases demand with _ | _ | n <;> rfl
  | fail fault => rcases demand with _ | _ | n <;> rfl
  | chunk c next ih =>
    by_cases hd : demand = some 0
    · rw [hd, walk_zero]
    · rw [walk_chunk hd, ih]
  | start status headers trouble next ih =>
    by_cases hd : demand = some 0
    · rw [hd, walk_zero]
    · rw [walk_start hd, ih, h]
  | touch act next ih =>
    by_cases hd : demand = some 0
    · rw [hd, walk_zero]
    · rw [walk_touch hd, ih]

end Process

namespace Body

open StartResponse (Keeps Mimics)

variable {ρ σ : Type} {onStart : StartResponse σ (Record σ × σ)}
  {watchedStart : StartResponse (Watched σ) (Record (Watched σ) × Watched σ)}

theorem walk_of_opened {server : StartResponse σ (ρ × σ)} (body : Body σ) {w v : ρ × σ}
    {chunks : Process σ Value Unit} (h : body.opening.finish server w = (.ok chunks, v))
    (demand : Option Nat) : body.walk server demand w = chunks.walk server demand v := by
  rw [walk, h]

theorem walk_of_refused {server : StartResponse σ (ρ × σ)} (body : Body σ) {w v : ρ × σ}
    {f : Fault} (h : body.opening.finish server w = (.error f, v)) (demand : Option Nat) :
    body.walk server demand w = (([], .raised f), v) := by
  rw [walk, h]

theorem walk_watched (h : Mimics watchedStart onStart) (body : Body σ) (demand : Option Nat)
    (calls : List (Call σ)) (w : Record σ × σ) :
    body.watched.walk watchedStart demand (beside calls w) =
      ((body.walk onStart demand w).1, beside calls (body.walk onStart demand w).2) := by
  have hopening := Process.finish_watched h (Process.watched id) body.opening calls w
  rcases ho : body.opening.finish onStart w with ⟨f | chunks, v⟩
  · rw [ho] at hopening
    rw [walk_of_refused body ho, walk_of_refused body.watched hopening]
  · rw [ho] at hopening
    rw [walk_of_opened body ho, walk_of_opened body.watched hopening]
    exact Process.walk_watched h chunks demand calls v

theorem isLogged_walk (h : Keeps onStart) (body : Body σ) (demand : Option Nat)
    (w : Record σ × σ) :
    (body.walk onStart demand w).2.1.isLogged = w.1.isLogged := by
  have hopened := Process.isLogged_finish h body.opening w
  rcases ho : body.opening.finish onStart w with ⟨f | chunks, v⟩
  · rw [walk_of_refused body ho, ← hopened, ho]
  · rw [walk_of_opened body ho, Process.isLogged_walk h, ← hopened, ho]

end Body

/-- Whether a failure tells if it is that nothing was found. -/
def Fault.tells (f : Fault) : Bool :=
  f.isNotFound.isOk

namespace Middleware

variable {σ : Type}

/-- A middleware whose logger is watched. -/
def watched (m : Middleware σ) : Middleware (Watched σ) :=
  ⟨m.app.watched, m.shown, m.logger.watched⟩

theorem startResponse_apply (server : StartResponse σ) (status : Value) (headers : HeaderSource)
    (trouble : Value) (r : Record σ) (s : σ) :
    startResponse server status headers trouble (r, s) =
      match Headers.normalize headers with
      | .ok normal => ((server status headers trouble s).1,
          (withHeaders normal (r.setStatus (parseStatus status)),
            (server status headers trouble s).2))
      | .error f => (.error f, (r.setStatus (parseStatus status), s)) := by
  rcases hn : Headers.normalize headers with f | normal
  · simp only [startResponse, hn]
    rfl
  · simp only [startResponse, hn]
    rfl

theorem startResponse_keeps (server : StartResponse σ) : (startResponse server).Keeps := by
  rintro status headers trouble ⟨r, s⟩
  rw [startResponse_apply]
  cases Headers.normalize headers <;> rfl

theorem startResponse_mimics (server : StartResponse σ) :
    StartResponse.Mimics (startResponse server.watched) (startResponse server) := by
  rintro status headers trouble calls ⟨r, s⟩
  rw [beside, startResponse_apply, startResponse_apply]
  cases Headers.normalize headers <;> rfl

variable (l : Logger σ) (host : Host σ)

/-- The record as it is logged after a failure. -/
def failed (notFound : Bool) (r : Record σ) : Record σ :=
  if notFound then (withFailure notFound r).setStatus Logger.notFoundStatus
  else withFailure notFound r

/-- Logging a failure that tells whether nothing was found is a hook at the end of the request. -/
theorem logFailure_of_tells {f : Fault} {notFound : Bool} (h : f.isNotFound = .ok notFound)
    (w : Record σ × σ) : logFailure l host f w = l.conclude host (failed notFound w.1, w.2) := by
  rw [logFailure, Action.andThen_of_ok (by rw [h]; rfl)]
  rfl

/-- A failure that does not tell whether nothing was found is not even logged. -/
theorem logFailure_of_refused {f g : Fault} (h : f.isNotFound = .error g) (w : Record σ × σ) :
    logFailure l host f w = (.error g, w) := by
  rw [logFailure, Action.andThen_of_error (by rw [h]; rfl)]

theorem withFailure_watched (notFound : Bool) (r : Record σ) :
    withFailure notFound r.watched = (withFailure notFound r).watched := by
  have hc : lacksStatus r.watched = lacksStatus r := rfl
  rw [withFailure, withFailure, hc]
  split <;> rfl

theorem failed_watched (notFound : Bool) (r : Record σ) :
    failed notFound r.watched = (failed notFound r).watched := by
  unfold failed
  split <;> simp only [withFailure_watched, Record.setStatus_watched]

theorem isLogged_failed (notFound : Bool) (r : Record σ) :
    (failed notFound r).isLogged = r.isLogged := by
  unfold failed withFailure
  split <;> split <;> rfl

theorem passedOn_apply (f : Fault) (w : Record σ × σ) :
    passedOn l host f w = ((match (logFailure l host f w).1 with | .ok _ => f | .error g => g),
      (logFailure l host f w).2) := by
  unfold passedOn
  rcases logFailure l host f w with ⟨_ | _, _, _⟩ <;> rfl

theorem passedOn_of_refused {f g : Fault} (h : f.isNotFound = .error g) (w : Record σ × σ) :
    passedOn l host f w = (g, w) := by
  rw [passedOn_apply, logFailure_of_refused l host h]

/-- What a hook at the end of a request comes to on a record. -/
def Ends (w : Record σ × σ) (calls : List (Call σ)) : Prop :=
  l.Concludes host (l.immediate || w.1.isLogged) (w.1.finish (host.now w.2)).snapshot
    (l.conclude host w).1 calls

/-- What passing a failure on comes to, with the record that is left: it is a hook at the end of
the request, which settles the record, if the failure tells whether nothing was found; and nothing
otherwise. -/
structure Passes (w : Record σ × σ) (f : Fault) (r : Record σ) (calls : List (Call σ)) : Prop where
  ends : ∀ notFound, f.isNotFound = .ok notFound →
    Ends l host (failed notFound w.1, w.2) calls ∧ (l.immediate || r.isLogged) = true
  passes : f.tells = false → calls = [] ∧ r.isLogged = w.1.isLogged

theorem passedOn_watched (f : Fault) (w : Record σ × σ) :
    ∃ more, (∀ calls, passedOn l.watched host.watched f (beside calls w) =
        ((passedOn l host f w).1, beside (calls ++ more) (passedOn l host f w).2)) ∧
      Passes l host w f (passedOn l host f w).2.1 more := by
  rcases hf : f.isNotFound with g | notFound
  · rw [passedOn_of_refused l host hf]
    refine ⟨[], fun calls => ?_, ⟨fun _ h => ?_, fun _ => ⟨rfl, rfl⟩⟩⟩
    · rw [passedOn_of_refused _ _ hf, List.append_nil]
    · rw [hf] at h
      cases h
  · have htells : f.tells = true := by rw [Fault.tells, hf]; rfl
    obtain ⟨more, hw, hm⟩ := l.conclude_watched host (failed notFound w.1) w.2
    have hfailure : ∀ calls, logFailure l.watched host.watched f (beside calls w) =
        ((logFailure l host f w).1, beside (calls ++ more) (logFailure l host f w).2) := by
      intro calls
      rw [logFailure_of_tells _ _ hf, logFailure_of_tells _ _ hf, beside, failed_watched, hw]
      rfl
    rw [passedOn_apply, logFailure_of_tells l host hf]
    refine ⟨more, fun calls => ?_, ⟨fun _ h => ?_, by simp [htells]⟩⟩
    · rw [passedOn_apply, hfailure, logFailure_of_tells l host hf]
    · rw [hf] at h
      cases h
      exact ⟨hm, l.conclude_settles host _ _⟩

variable (m : Middleware σ) (server : StartResponse σ) (body : Body σ)

/-- Closes the body alone. -/
def shut (server : StartResponse σ) (body : Body σ) : Action (Record σ × σ) Unit :=
  match body.close with
  | .able p => p.finish (startResponse server)
  | _ => Action.done ()

theorem shut_of_able {p : Process σ Empty Unit} (h : body.close = .able p) :
    shut server body = p.finish (startResponse server) := by
  rw [shut, h]

/-- What a move of a server meets in the body, with the record and the host as they are left,
before the logger takes a part in it. -/
def met (server : StartResponse σ) (body : Body σ) : Move σ → Record σ × σ → Stop × (Record σ × σ)
  | .take demand, w =>
    if demand = some 0 then (.left, w)
    else
      let walked := body.walk (startResponse server) demand w
      (walked.1.2, walked.2)
  | .close, w =>
    let r := shut server body w
    (.ofExcept r.1, r.2)
  | .elapse change, w => (.ended, (w.1, change w.2))

/-- The record with which a move ends the request, if it does: it closes the body, or meets a
failure of the body that tells whether nothing was found. -/
def ending? : Move σ → Stop × (Record σ × σ) → Option (Record σ × σ)
  | .close, (_, w) => some w
  | .take _, (.raised f, w) => f.isNotFound.toOption.map fun notFound => (failed notFound w.1, w.2)
  | _, _ => none

theorem close_apply (w : Record σ × σ) :
    m.close host server body w =
      ((match (m.logger.conclude host (shut server body w).2).1 with
        | .ok _ => (shut server body w).1
        | .error g => .error g), (m.logger.conclude host (shut server body w).2).2) := by
  have hlast : ∀ v, ((m.logger.onResponse host).andThen fun _ => Action.done ()) v =
      ((m.logger.conclude host v).1.map fun _ => (), (m.logger.conclude host v).2) :=
    fun v => Action.andThen_done ..
  have hclose : m.close host server body = Action.ensuring (shut server body)
      ((m.logger.onResponse host).andThen fun _ => Action.done ()) := rfl
  simp only [hclose, Action.ensuring, hlast]
  rcases m.logger.conclude host (shut server body w).2 with ⟨_ | _, _⟩ <;> rfl

theorem shut_watched (calls : List (Call σ)) (w : Record σ × σ) :
    shut server.watched body.watched (beside calls w) =
      ((shut server body w).1, beside calls (shut server body w).2) := by
  cases hc : body.close with
  | able p =>
    have hw : body.watched.close = .able (p.watched id) := by rw [Body.watched, hc]; rfl
    have hp := Process.finish_watched (startResponse_mimics server) id p calls w
    rw [shut_of_able _ _ hc, shut_of_able _ _ hw, hp]
    rcases (p.finish (startResponse server) w).1 with _ | _ <;> rfl
  | missing =>
    have hw : body.watched.close = .missing := by rw [Body.watched, hc]; rfl
    rw [shut, shut, hc, hw]
    rfl
  | value v =>
    have hw : body.watched.close = .value v := by rw [Body.watched, hc]; rfl
    rw [shut, shut, hc, hw]
    rfl

theorem isLogged_shut (w : Record σ × σ) : (shut server body w).2.1.isLogged = w.1.isLogged := by
  cases hc : body.close with
  | able p =>
    rw [shut_of_able _ _ hc]
    exact Process.isLogged_finish (startResponse_keeps server) p w
  | missing => simp only [shut, hc, Action.done_apply]
  | value v => simp only [shut, hc, Action.done_apply]

/-- Without demand a body is not even opened. -/
theorem take_zero (w : Record σ × σ) : m.take host server body (some 0) w = (([], .left), w) := by
  simp [take]

theorem take_of_raised {demand : Option Nat} {w v : Record σ × σ} {chunks : List Value} {f : Fault}
    (hd : demand ≠ some 0)
    (h : body.walk (startResponse server) demand w = ((chunks, .raised f), v)) :
    m.take host server body demand w =
      ((chunks, .raised (leaving (passedOn m.logger host f v).1)),
        (passedOn m.logger host f v).2) := by
  simp only [take, if_neg hd, h]

theorem take_of_quiet {demand : Option Nat} {w v : Record σ × σ} {chunks : List Value}
    {stop : Stop} (hd : demand ≠ some 0)
    (h : body.walk (startResponse server) demand w = ((chunks, stop), v))
    (hs : ∀ f, stop ≠ .raised f) : m.take host server body demand w = ((chunks, stop), v) := by
  unfold take
  rw [if_neg hd, h]
  split
  · next heq =>
    cases heq
    exact absurd rfl (hs _)
  · rfl

/-- Closing a body is a hook at the end of the request. -/
theorem close_watched (w : Record σ × σ) :
    ∃ more, (∀ calls, m.watched.close host.watched server.watched body.watched (beside calls w) =
        ((m.close host server body w).1, beside (calls ++ more) (m.close host server body w).2)) ∧
      Ends m.logger host (shut server body w).2 more := by
  obtain ⟨more, hw, hm⟩ :=
    m.logger.conclude_watched host (shut server body w).2.1 (shut server body w).2.2
  -- shutting the body makes no call, so that all calls are those of the hook behind it
  refine ⟨more, fun calls => ?_, hm⟩
  have hc : m.watched.logger.conclude host.watched (beside calls (shut server body w).2) =
      ((m.logger.conclude host (shut server body w).2).1,
        beside (calls ++ more) (m.logger.conclude host (shut server body w).2).2) := hw calls
  rw [close_apply, close_apply, shut_watched, hc]

/-- What a move with a record comes to: one that ends the request is a hook at its end and settles
the record, and any other one makes no call and leaves the record as it was. -/
structure Moves (logged : Bool) (end? : Option (Record σ × σ)) (r : Record σ)
    (calls : List (Call σ)) : Prop where
  ends : ∀ w, end? = some w →
    w.1.isLogged = logged ∧ Ends l host w calls ∧ (l.immediate || r.isLogged) = true
  passes : end? = none → calls = [] ∧ r.isLogged = logged

theorem Passes.moves {l : Logger σ} {host : Host σ} {w : Record σ × σ} {demand : Option Nat}
    {f : Fault} {r : Record σ} {calls : List (Call σ)} (h : Passes l host w f r calls) :
    Moves l host w.1.isLogged (ending? (.take demand) (.raised f, w)) r calls := by
  rcases hf : f.isNotFound with g | notFound
  · have htells : f.tells = false := by rw [Fault.tells, hf]; rfl
    refine ⟨fun v hv => ?_, fun _ => h.passes htells⟩
    rw [ending?, hf] at hv
    cases hv
  · refine ⟨fun v hv => ?_, fun hv => ?_⟩
    · rw [ending?, hf] at hv
      cases hv
      exact ⟨isLogged_failed notFound w.1, h.ends notFound hf⟩
    · rw [ending?, hf] at hv
      cases hv

theorem Moves.quiet {l : Logger σ} {host : Host σ} {logged : Bool} {r : Record σ}
    (h : r.isLogged = logged) : Moves l host logged none r [] :=
  ⟨nofun, fun _ => ⟨rfl, h⟩⟩

theorem move_watched (mv : Move σ) (w : Record σ × σ) :
    ∃ more, (∀ calls, m.watched.move host.watched server.watched body.watched mv.watched
          (beside calls w) =
        ((m.move host server body mv w).1, beside (calls ++ more)
          (m.move host server body mv w).2)) ∧
      Moves m.logger host w.1.isLogged (ending? mv (met server body mv w))
        (m.move host server body mv w).2.1 more := by
  cases mv with
  | elapse change =>
    exact ⟨[], fun calls => by rw [List.append_nil]; rfl, Moves.quiet rfl⟩
  | close =>
    obtain ⟨more, hw, hm⟩ := close_watched host m server body w
    refine ⟨more, fun calls => ?_, ⟨fun v hv => ?_, nofun⟩⟩
    · simp only [move, Move.watched, hw]
    · cases hv
      refine ⟨isLogged_shut server body w, hm, ?_⟩
      rw [move, close_apply]
      exact m.logger.conclude_settles host _ _
  | take demand =>
    have hmove : m.move host server body (.take demand) w = m.take host server body demand w := rfl
    rw [hmove]
    by_cases hd : demand = some 0
    · rw [hd, take_zero, met, if_pos rfl]
      refine ⟨[], fun calls => ?_, Moves.quiet rfl⟩
      rw [List.append_nil]
      exact take_zero ..
    have hwalk := fun calls => body.walk_watched (startResponse_mimics server) demand calls w
    have hkept := body.isLogged_walk (startResponse_keeps server) demand w
    rw [met, if_neg hd, ← hkept]
    rcases h : body.walk (startResponse server) demand w with ⟨⟨chunks, stop⟩, v⟩
    rw [h] at hwalk
    cases stop with
    | raised f =>
      obtain ⟨more, hw, hm⟩ := passedOn_watched m.logger host f v
      rw [take_of_raised host m server body hd h]
      refine ⟨more, fun calls => ?_, hm.moves⟩
      have hpassed :=
        take_of_raised host.watched m.watched server.watched body.watched hd (hwalk calls)
      rw [show m.watched.logger = m.logger.watched from rfl, hw] at hpassed
      exact hpassed
    | ended =>
      rw [take_of_quiet host m server body hd h (by simp)]
      refine ⟨[], fun calls => ?_, Moves.quiet rfl⟩
      rw [List.append_nil]
      exact take_of_quiet host.watched m.watched server.watched body.watched hd (hwalk calls)
        (by simp)
    | left =>
      rw [take_of_quiet host m server body hd h (by simp)]
      refine ⟨[], fun calls => ?_, Moves.quiet rfl⟩
      rw [List.append_nil]
      exact take_of_quiet host.watched m.watched server.watched body.watched hd (hwalk calls)
        (by simp)

/-- Lets the application answer a request of which there is a record. -/
def answer (environ : Environ) (r : Record σ) : Action σ (Record σ × Body σ) := fun s =>
  match (m.app environ).finish (startResponse server) (r, s) with
  | (.ok body, w) => (.ok ((Logger.afterHandle host w).2.1, body), (Logger.afterHandle host w).2.2)
  | (.error f, w) => (.error (passedOn m.logger host f w).1, (passedOn m.logger host f w).2.2)

theorem call_eq (environ : Environ) : m.call host server environ =
    (Action.ofExcept environ.request).andThen fun request =>
      (m.logger.startRequest host request).andThen (answer host m server environ) := rfl

theorem call_of_error {environ : Environ} {f : Fault} (h : environ.request = .error f) (s : σ) :
    m.call host server environ s = (.error f, s) := by
  rw [call_eq, Action.andThen_of_error (by rw [h]; rfl)]

theorem call_of_request {environ : Environ} {request : Request} (h : environ.request = .ok request)
    (s : σ) : m.call host server environ s =
      (m.logger.startRequest host request).andThen (answer host m server environ) s := by
  rw [call_eq, Action.andThen_of_ok (by rw [h]; rfl)]

theorem call_of_started {environ : Environ} {request : Request} {r : Record σ} {s t : σ}
    (h : environ.request = .ok request) (hs : m.logger.startRequest host request s = (.ok r, t)) :
    m.call host server environ s = answer host m server environ r t := by
  rw [call_of_request host m server h, Action.andThen_of_ok hs]

/-- The application is not entered if the logger fails at the start of the request. -/
theorem call_of_unstarted {environ : Environ} {request : Request} {f : Fault} {s t : σ}
    (h : environ.request = .ok request)
    (hs : m.logger.startRequest host request s = (.error f, t)) :
    m.call host server environ s = (.error f, t) := by
  rw [call_of_request host m server h, Action.andThen_of_error hs]

/-- What an answer comes to: the application gives a body, or its failure is passed on. -/
def Answers (result : Except Fault (Body σ)) (w : Record σ × σ) (calls : List (Call σ)) : Prop :=
  match result with
  | .ok _ => calls = []
  | .error f => ∃ r, Passes l host w f r calls

/-- The application is entered before anything else is called. -/
theorem answer_watched (environ : Environ) (r : Record σ) (s : σ) :
    ∃ more, (∀ calls, answer host.watched m.watched server.watched environ r.watched (calls, s) =
        ((answer host m server environ r s).1.map fun p => (p.1.watched, p.2.watched),
          (calls ++ .entered environ :: more, (answer host m server environ r s).2))) ∧
      Answers m.logger host ((m.app environ).finish (startResponse server) (r, s)).1
        ((m.app environ).finish (startResponse server) (r, s)).2 more := by
  have henter : ∀ calls, (m.watched.app environ).finish (startResponse server.watched)
      (r.watched, (calls, s)) = ((m.app environ).watched Body.watched).finish
        (startResponse server.watched) (beside (calls ++ [.entered environ]) (r, s)) :=
    fun _ => rfl
  have hfinish := fun calls => (henter calls).trans (Process.finish_watched
    (startResponse_mimics server) Body.watched (m.app environ) (calls ++ [.entered environ])
    (r, s))
  simp only [answer]
  rcases h : (m.app environ).finish (startResponse server) (r, s) with ⟨f | body, r', s'⟩
  · rw [h] at hfinish
    obtain ⟨more, hw, hm⟩ := passedOn_watched m.logger host f (r', s')
    refine ⟨more, fun calls => ?_, _, hm⟩
    have hl : m.watched.logger = m.logger.watched := rfl
    simp only [hfinish, Except.map, hl, hw]
    rw [List.append_assoc, List.singleton_append]
    rfl
  · rw [h] at hfinish
    refine ⟨[], fun calls => ?_, rfl⟩
    simp only [hfinish, Except.map, beside, Logger.afterHandle, Logger.finish_apply]
    rw [Record.finish_watched]
    rfl

end Middleware

end RequestLog
