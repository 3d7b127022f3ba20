import RequestLog.Proofs.PlainHost
import RequestLog.Proofs.Telling
import RequestLog.Proofs.Token.Telling
import RequestLog.Proofs.Watch.Gateway

/-!
One line of each request that passes a middleware, whatever the application and the server do. A
logger that does not log immediately makes it when the application fails, else when the body fails
or is closed for the first time; a logger that logs immediately makes it before the application is
entered. There is none if something about the request cannot be told, and a failure that does not
tell whether nothing was found leaves the request open.
-/
namespace RequestLog

/-- A move that a server has made: what it met in the body, and the calls that were made in it. -/
structure Turn (σ : Type) where
  move : Move σ
  met : Stop × (Record σ × σ)
  calls : List (Call σ)

namespace Turn

variable {σ : Type}

/-- The record and the host with which the request ended in a turn, if it did: the body was closed,
or failed. -/
def end? (t : Turn σ) : Option (Record σ × σ) :=
  Middleware.ending? t.move t.met

end Turn

namespace Middleware

variable {σ : Type} (m : Middleware σ) (host : Host σ) (server : StartResponse σ) (body : Body σ)

def callsOfCall (environ : Environ) (s : σ) : List (Call σ) :=
  (m.watched.call host.watched server.watched environ ([], s)).2.1

def callsOfMove (mv : Move σ) (w : Record σ × σ) : List (Call σ) :=
  (m.watched.move host.watched server.watched body.watched mv.watched (beside [] w)).2.2.1

/-- The moves of a server one after the other, from a record and the state of the host. -/
def turns : List (Move σ) → Record σ × σ → List (Turn σ)
  | [], _ => []
  | mv :: rest, w =>
    ⟨mv, met server body mv w, callsOfMove m host server body mv w⟩ ::
      turns rest (m.move host server body mv w).2

theorem callsOfMove_moves (mv : Move σ) (w : Record σ × σ) :
    Moves m.logger host w.1.isLogged (ending? mv (met server body mv w))
      (m.move host server body mv w).2.1 (callsOfMove m host server body mv w) := by
  obtain ⟨more, hw, hm⟩ := move_watched host m server body mv w
  have hc : callsOfMove m host server body mv w = more := by
    rw [callsOfMove, hw]
    rfl
  exact hc ▸ hm

/-- The snapshot of a record as it is at the end of its request. -/
def lastSnapshot (host : Host σ) (w : Record σ × σ) : Snapshot σ :=
  (w.1.finish (host.now w.2)).snapshot

section Ends

variable {l : Logger σ} {host : Host σ} {w : Record σ × σ} {calls : List (Call σ)}

theorem Ends.calls_of_settled (h : Ends l host w calls)
    (hs : (l.immediate || w.1.isLogged) = true) :
    calls = [] := by
  rw [Ends, hs, Logger.Concludes, if_pos rfl] at h
  exact h.2

theorem Ends.once (h : Ends l host w calls) (hs : (l.immediate || w.1.isLogged) = false)
    (hskip : l.skip = none) : l.LogsOnce host (lastSnapshot host w) calls := by
  rw [Ends, hs, Logger.Concludes, if_neg Bool.false_ne_true] at h
  exact h.once hskip

end Ends

/-- Whether turns log a request as a logger that does not log immediately does: at the first end of
it, if there is one, and with the record as it is then. -/
def LoggedIn (l : Logger σ) (host : Host σ) (made : List (Turn σ)) : Prop :=
  (made.any (·.end?.isSome) = false ∧ ∀ t ∈ made, t.calls = []) ∨
    ∃ before turn after w, made = before ++ turn :: after ∧ before.any (·.end?.isSome) = false ∧
      turn.end? = some w ∧ l.LogsOnce host (lastSnapshot host w) turn.calls ∧
      ∀ t ∈ before ++ after, t.calls = []

section Turns

variable {m host}

/-- Nothing is called any more once the record is settled. -/
theorem calls_of_settled (moves : List (Move σ)) {w : Record σ × σ}
    (hs : (m.logger.immediate || w.1.isLogged) = true) :
    ∀ t ∈ turns m host server body moves w, t.calls = [] := by
  induction moves generalizing w with
  | nil => simp [turns]
  | cons mv rest ih =>
    have hmv := callsOfMove_moves m host server body mv w
    rw [turns]
    cases he : ending? mv (met server body mv w) with
    | some v =>
      obtain ⟨hlogged, hends, hafter⟩ := hmv.ends v he
      have hcalls := hends.calls_of_settled (by rw [hlogged, hs])
      exact List.forall_mem_cons.mpr ⟨hcalls, ih hafter⟩
    | none =>
      obtain ⟨hcalls, hkept⟩ := hmv.passes he
      exact List.forall_mem_cons.mpr ⟨hcalls, ih (by rw [hkept, hs])⟩

/-- The first end of the request of a record that is not settled logs it, and settles it. -/
theorem loggedIn_turns (hskip : m.logger.skip = none) (moves : List (Move σ)) {w : Record σ × σ}
    (hs : (m.logger.immediate || w.1.isLogged) = false) :
    LoggedIn m.logger host (turns m host server body moves w) := by
  -- the invariant is that the record is not settled, which a move keeps that does not end the
  -- request
  induction moves generalizing w with
  | nil => exact .inl ⟨rfl, by simp [turns]⟩
  | cons mv rest ih =>
    have hmv := callsOfMove_moves m host server body mv w
    rw [turns]
    cases he : ending? mv (met server body mv w) with
    | some v =>
      obtain ⟨hlogged, hends, hafter⟩ := hmv.ends v he
      have honce := hends.once (by rw [hlogged, hs]) hskip
      exact .inr ⟨[], _, _, v, rfl, rfl, he, honce, calls_of_settled server body rest hafter⟩
    | none =>
      obtain ⟨hcalls, hkept⟩ := hmv.passes he
      have hopen : Turn.end? ⟨mv, met server body mv w, callsOfMove m host server body mv w⟩ =
        none :=
        he
      rcases ih (by rw [hkept, hs]) with ⟨hnone, hquiet⟩ | ⟨before, turn, after, v, hrest,
        hrestless⟩
      · exact .inl ⟨by rw [List.any_cons, hopen, hnone]; rfl,
          List.forall_mem_cons.mpr ⟨hcalls, hquiet⟩⟩
      · obtain ⟨hbefore, hturn, honce, hquiet⟩ := hrestless
        refine .inr ⟨_ :: before, turn, after, v, by rw [hrest]; rfl, ?_, hturn, honce, ?_⟩
        · rw [List.any_cons, hopen, hbefore]
          rfl
        · exact List.forall_mem_cons.mpr ⟨hcalls, hquiet⟩

end Turns

section Calls

variable {m host} {environ : Environ} {request : Request} {r : Record σ} {s t : σ}

/-- A call of the middleware starts the record, enters the application, and lets it answer. -/
theorem callsOfCall_of_started (h : environ.request = .ok request)
    (hstart : m.logger.startRequest host request s = (.ok r, t)) :
    ∃ before after, callsOfCall m host server environ s = before ++ .entered environ :: after ∧
      m.logger.Opens host (m.logger.opened host request s).snapshot (.ok r) before ∧
      Answers m.logger host ((m.app environ).finish (startResponse server) (r, t)).1
        ((m.app environ).finish (startResponse server) (r, t)).2 after := by
  obtain ⟨before, hbefore, hopens⟩ := m.logger.startRequest_watched host request s
  obtain ⟨after, hafter, hanswers⟩ := answer_watched host m server environ r t
  rw [hstart] at hopens
  refine ⟨before, after, ?_, hopens, hanswers⟩
  have hstart' : m.watched.logger.startRequest host.watched request ([], s) =
      (.ok r.watched, (before, t)) := by
    have hw := hbefore []
    rw [hstart] at hw
    exact hw
  rw [callsOfCall, call_of_started host.watched m.watched server.watched h hstart', hafter]

/-- The application is not entered if the logger fails at the start of the request. -/
theorem callsOfCall_of_unstarted {f : Fault} (h : environ.request = .ok request)
    (hstart : m.logger.startRequest host request s = (.error f, t)) :
    m.logger.Opens host (m.logger.opened host request s).snapshot (.error f)
      (callsOfCall m host server environ s) := by
  obtain ⟨before, hbefore, hopens⟩ := m.logger.startRequest_watched host request s
  have hw := hbefore []
  rw [hstart] at hopens hw
  have hcalls : callsOfCall m host server environ s = before := by
    rw [callsOfCall, call_of_unstarted host.watched m.watched server.watched h hw]
    rfl
  rwa [hcalls]

theorem call_of_returned (h : environ.request = .ok request)
    (hstart : m.logger.startRequest host request s = (.ok r, t)) {body : Body σ} {w : Record σ × σ}
    (happ : (m.app environ).finish (startResponse server) (r, t) = (.ok body, w)) :
    m.call host server environ s =
      (.ok ((Logger.afterHandle host w).2.1, body), (Logger.afterHandle host w).2.2) := by
  rw [call_of_started host m server h hstart]
  simp only [answer, happ]

end Calls

/-- What becomes of a request that an environment describes, whatever the application and the
server do, if the logger has no predicate. A logger that logs immediately logs it before the
application is entered, and never again. Any other one logs it when the application fails, or else
in the first move of the server that closes the body or in which the body fails; it logs nothing if
there is no such move. A failure that does not tell whether nothing was found is none of these. -/
theorem call_one_line (m : Middleware σ) (host : Host σ) (server : StartResponse σ)
    (environ : Environ) (s : σ) {request : Request} (hrequest : environ.request = .ok request)
    (hskip : m.logger.skip = none) :
    (∀ f t, m.logger.startRequest host request s = (.error f, t) →
      m.logger.immediate = true ∧ m.logger.LogsOnce host (m.logger.opened host request s).snapshot
        (callsOfCall m host server environ s)) ∧
    (∀ r t, m.logger.startRequest host request s = (.ok r, t) → ∃ before after,
      callsOfCall m host server environ s = before ++ .entered environ :: after ∧
      (if m.logger.immediate then
        m.logger.LogsOnce host (m.logger.opened host request s).snapshot before else before = []) ∧
      (∀ f w, (m.app environ).finish (startResponse server) (r, t) = (.error f, w) →
        (∀ notFound, f.isNotFound = .ok notFound → if m.logger.immediate then after = []
          else m.logger.LogsOnce host (lastSnapshot host (failed notFound w.1, w.2)) after) ∧
        (f.tells = false → after = [])) ∧
      (∀ body w, (m.app environ).finish (startResponse server) (r, t) = (.ok body, w) →
        after = [] ∧ ∃ r' t', m.call host server environ s = (.ok (r', body), t') ∧
          ∀ moves, if m.logger.immediate then
              ∀ turn ∈ turns m host server body moves (r', t'), turn.calls = []
            else LoggedIn m.logger host (turns m host server body moves (r', t')))) := by
  constructor
  · intro f t hstart
    have hopens := callsOfCall_of_unstarted server hrequest hstart
    rw [Logger.Opens] at hopens
    split at hopens
    · next hi =>
      obtain ⟨line, hlog, -⟩ := hopens
      exact ⟨hi, hlog.once hskip⟩
    · obtain ⟨-, r, hr⟩ := hopens
      cases hr
  intro r t hstart
  have hlogged := m.logger.startRequest_settles host hstart
  obtain ⟨before, after, hcalls, hopens, hanswers⟩ := callsOfCall_of_started server hrequest hstart
  have hkept := Process.isLogged_finish (startResponse_keeps server) (m.app environ) (r, t)
  refine ⟨before, after, hcalls, ?_, fun f w happ => ?_, fun body w happ => ?_⟩
  · rw [Logger.Opens] at hopens
    split at hopens
    · next hi =>
      obtain ⟨line, hlog, -⟩ := hopens
      rw [if_pos hi]
      exact hlog.once hskip
    · next hi =>
      rw [if_neg hi]
      exact hopens.1
  · rw [happ] at hanswers hkept
    obtain ⟨r', hpasses⟩ := hanswers
    refine ⟨fun notFound hf => ?_, fun hf => (hpasses.passes hf).1⟩
    obtain ⟨hends, -⟩ := hpasses.ends notFound hf
    have hset : (m.logger.immediate || (failed notFound w.1).isLogged) = m.logger.immediate := by
      rw [isLogged_failed, hkept, hlogged, Bool.or_self]
    split
    · next hi => exact hends.calls_of_settled (by rw [hset, hi])
    · next hi => exact hends.once (by rw [hset, Bool.eq_false_iff.mpr hi]) hskip
  · rw [happ] at hanswers hkept
    refine ⟨hanswers, _, _, call_of_returned server hrequest hstart happ, fun moves => ?_⟩
    have hset : (m.logger.immediate || (Logger.afterHandle host w).2.1.isLogged) =
        m.logger.immediate := by
      rw [Logger.afterHandle, Logger.finish_apply, Record.isLogged_finish, hkept, hlogged,
        Bool.or_self]
    split
    · next hi => exact calls_of_settled server body moves (by rw [hset, hi])
    · next hi =>
      exact loggedIn_turns server body hskip moves (by rw [hset, Bool.eq_false_iff.mpr hi])

/-- If the first turn ends the request, it logs it. -/
theorem LoggedIn.head {l : Logger σ} {turn : Turn σ} {rest : List (Turn σ)} {w : Record σ × σ}
    (h : LoggedIn l host (turn :: rest)) (hw : turn.end? = some w) :
    l.LogsOnce host (lastSnapshot host w) turn.calls ∧ ∀ t ∈ rest, t.calls = [] := by
  rcases h with ⟨hnone, -⟩ | ⟨before, first, after, v, hmade, hbefore, hfirst, honce, hquiet⟩
  · rw [List.any_cons, hw] at hnone
    cases hnone
  · cases before with
    | nil =>
      obtain ⟨rfl, rfl⟩ := List.cons_eq_cons.mp hmade
      rw [hw] at hfirst
      cases hfirst
      exact ⟨honce, hquiet⟩
    | cons t before =>
      obtain ⟨rfl, -⟩ := List.cons_eq_cons.mp hmade
      rw [List.any_cons, hw] at hbefore
      cases hbefore

/-- The plain middleware with a logger whose lines show the status and the length of the
response. -/
def statusOfFailing : Middleware (List String) :=
  { PlainHost.middleware false with logger := PlainHost.statusMiddleware.logger }

/-- A body that fails behind its first chunk, and again when it is closed, is logged once. -/
theorem call_one_line_failing :
    PlainHost.host.TakesNotes ∧ statusOfFailing.logger.skip = none ∧
      ∃ request, PlainHost.environ.request = .ok request ∧
        ∃ r body t, statusOfFailing.call PlainHost.host PlainHost.server PlainHost.environ [] =
            (.ok (r, body), t) ∧
          let made := turns statusOfFailing PlainHost.host PlainHost.server body
            [.take none, .close, .close] (r, t)
          LoggedIn statusOfFailing.logger PlainHost.host made ∧
            made.map (fun turn => (Call.entries turn.calls).map Prod.snd) = [["200 -"], [],
            []] := by
  obtain ⟨-, hstarted⟩ := call_one_line statusOfFailing PlainHost.host PlainHost.server
    PlainHost.environ [] rfl rfl
  obtain ⟨before, after, -, -, -, hreturned⟩ := hstarted _ _ rfl
  obtain ⟨-, r, t, hcall, hmoves⟩ := hreturned _ _ rfl
  refine ⟨PlainHost.takesNotes, rfl, _, rfl, r, _, t, hcall, hmoves _, ?_⟩
  cases hcall
  decide +kernel

/-- A middleware whose application fails, and whose lines show the value of one token. -/
def failing (fault : Fault) (act : Action (List String) Value) : Middleware (List String) :=
  { PlainHost.middleware false with
    app := fun _ => .fail fault
    logger := PlainHost.tokenLogger act }

/-- Whether a call fails of which no line comes, though the logger has no predicate and its emitter
does not fail. -/
structure Silent (m : Middleware (List String)) (host : Host (List String)) (environ : Environ) :
    Prop where
  deferred : m.logger.immediate = false
  unasked : m.logger.skip = none
  emits : ∀ snapshot line s, (m.logger.emitter.emit snapshot line s).1 = .ok ()
  fails : ∃ f, (m.call host PlainHost.server environ []).1 = .error f
  silent : Call.entries (callsOfCall m host PlainHost.server environ []) = []

/-- No line comes of a request that an environment does not describe, and none of a failure that
refuses its code. A line with a value that has no text cannot be made, nor one after a failure that
cannot be noted, be it for the handler of notes or for the failure itself. -/
theorem call_no_line :
    Silent (PlainHost.middleware false) PlainHost.host ⟨[("wsgi.url_scheme", .text "http"),
      ("HTTP_HOST", .text "plain"), ("PATH_INFO", .text "\u4e2d")]⟩ ∧
    Silent (failing PlainHost.unreadable (Action.done .null)) PlainHost.host PlainHost.environ ∧
    Silent (failing .formatUndefined (Action.done PlainHost.mute)) PlainHost.host
      PlainHost.environ ∧
    Silent (failing .formatUndefined (Action.fail .formatUndefined)) PlainHost.deafHost
      PlainHost.environ ∧
    Silent (failing .formatUndefined (Action.fail PlainHost.secret)) PlainHost.listeningHost
      PlainHost.environ := by
  refine ⟨?_, ?_, ?_, ?_, ?_⟩
  all_goals exact ⟨rfl, rfl, fun _ _ _ => rfl, ⟨_, rfl⟩, rfl⟩

end Middleware

end RequestLog
