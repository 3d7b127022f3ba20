import RequestLog.Proofs.Format.Lines
import RequestLog.Proofs.Gateway.OneLine
import RequestLog.Proofs.Gateway.Starts
import RequestLog.Proofs.Gateway.StatusLines
import RequestLog.Proofs.Watch.Lines

/-!
The status and the headers on the line of a request that passes a middleware. The line shows what
the last start of the response has left that the application has made by then, also if the start
failed. The failure that the line is made at shows where it says that something was not found, or
where no start has been made.
-/
namespace RequestLog

variable {σ : Type}

/-- A part of an exchange: the starts of the response that the application has made by its end, the
failure of the application that came out of it, and the calls that the logger made in it. -/
structure Span (σ : Type) where
  starts : List Start
  trouble : Option Fault
  calls : List (Call σ)

/-- The code on a line that is made at a failure or at the close of the body, by the start that
counts. -/
inductive Shown : Option Fault → Option Start → Nat → Prop where
  | notFound {f : Fault} {c : Option Start} (code : f.isNotFound = .ok true) : Shown (some f) c 404
  | failed {f : Fault} (code : f.isNotFound = .ok false) : Shown (some f) none 500
  | failedLate {f : Fault} {c : Start} {n : Nat} (code : f.isNotFound = .ok false)
      (line : IsStatusLine c.status n) : Shown (some f) (some c) n
  | started {c : Start} {n : Nat} (line : IsStatusLine c.status n) : Shown none (some c) n
  | unstarted : Shown none none 200

namespace Middleware

def faultOfStop : Stop → Option Fault
  | .raised f => some f
  | _ => none

def faultOf {α : Type} : Except Fault α → Option Fault
  | .ok _ => none
  | .error f => some f

variable (m : Middleware σ) (host : Host σ) (server : StartResponse σ) (body : Body σ)

def startsOfShut (w : Record σ × σ) : List Start :=
  match body.close with
  | .able p => p.starts (startResponse server) w
  | _ => []

/-- The starts that the application makes during a move of the server. -/
def startsOfMove (mv : Move σ) (w : Record σ × σ) : List Start :=
  match mv with
  | .take demand => if demand = some 0 then [] else body.startsIn (startResponse server) demand w
  | .close => startsOfShut server body w
  | .elapse _ => []

/-- The failure of the application that comes out of a move of the server. -/
def troubleOfMove (mv : Move σ) (w : Record σ × σ) : Option Fault :=
  match mv with
  | .take _ => faultOfStop (met server body mv w).1
  | _ => none

/-- The part of an exchange in which the server makes a move. -/
def spanOfMove (earlier : List Start) (mv : Move σ) (w : Record σ × σ) : Span σ :=
  ⟨earlier ++ startsOfMove server body mv w, troubleOfMove server body mv w,
    callsOfMove m host server body mv w⟩

/-- The moves of a server one after the other, after the starts that have been made before. -/
def spans : List (Move σ) → List Start → Record σ × σ → List (Span σ)
  | [], _, _ => []
  | mv :: rest, earlier, w =>
    let span := spanOfMove m host server body earlier mv w
    span :: spans rest span.starts (m.move host server body mv w).2

def spanOfCall (environ : Environ) (s : σ) : Span σ :=
  let calls := callsOfCall m host server environ s
  match environ.request with
  | .error _ => ⟨[], none, calls⟩
  | .ok request =>
    match m.logger.startRequest host request s with
    | (.error _, _) => ⟨[], none, calls⟩
    | (.ok r, t) =>
      ⟨(m.app environ).starts (startResponse server) (r, t),
        faultOf ((m.app environ).finish (startResponse server) (r, t)).1, calls⟩

/-- The exchange about one request: the application is called, and the server makes its moves with
the body that it returns. -/
def exchange (environ : Environ) (moves : List (Move σ)) (s : σ) : List (Span σ) :=
  let first := spanOfCall m host server environ s
  match m.call host server environ s with
  | (.ok (r, body), t) => first :: spans m host server body moves first.starts (r, t)
  | (.error _, _) => [first]

/-- Whether a record is what is logged of another one at a failure that tells whether nothing was
found, or at the close of the body. -/
inductive Closing (r : Record σ) : Option Fault → Record σ → Prop where
  | closed : Closing r none r
  | failed {f : Fault} {notFound : Bool} (code : f.isNotFound = .ok notFound) :
      Closing r (some f) (failed notFound r)

/-- Whether an entry is a line of the record that starts have left, as it is logged at a failure or
at the close of the body. -/
structure Bears (span : Span σ) (e : Snapshot σ × String) : Prop where
  record : ∃ r last : Record σ, Told span.starts r ∧ Closing r span.trouble last ∧
    e.1.response.response = last.response
  line : ∃ s, (m.logger.formatter.line host e.1 s).1 = .ok e.2

section Spans

variable {m host server body} {w : Record σ × σ} {earlier : List Start}

theorem bears_of_conclude {span : Span σ} {r : Record σ} {v : Record σ × σ}
    (h : Told span.starts r) (hv : Closing r span.trouble v.1) :
    ∀ e ∈ Call.entries (m.logger.callsOfConclude host v), Bears m host span e := by
  intro e he
  obtain ⟨hresponse, hline⟩ := m.logger.mem_entries_conclude host he
  exact ⟨⟨r, v.1, h, hv, hresponse⟩, hline⟩

/-- What is handed on with a failure are lines of the record as a failure leaves it. -/
theorem bears_of_failure {span : Span σ} {f : Fault} {v : Record σ × σ} (h : Told span.starts v.1)
    (hf : span.trouble = some f) :
    ∀ e ∈ Call.entries (callsOfFailure m.logger host f v), Bears m host span e := by
  intro e he
  obtain ⟨notFound, hcode, he⟩ := mem_conclude_of_failure m.logger host he
  refine bears_of_conclude h ?_ e he
  rw [hf]
  exact .failed hcode

theorem callsOfFailure_of_logged {f : Fault} {v : Record σ × σ} (h : v.1.isLogged = true) :
    callsOfFailure m.logger host f v = [] := by
  unfold callsOfFailure
  split
  · exact m.logger.callsOfConclude_of_settled host (by rw [isLogged_failed, h, Bool.or_true])
  · rfl

theorem callsOfMove_close (w : Record σ × σ) : callsOfMove m host server body .close w =
    m.logger.callsOfConclude host (shut server body w).2 := by
  have hclose := close_apply host.watched m.watched server.watched body.watched (beside [] w)
  rw [shut_watched] at hclose
  have hconclude := m.logger.conclude_beside host [] (shut server body w).2
  rw [callsOfMove, Move.watched, move, hclose]
  rw [show m.watched.logger = m.logger.watched from rfl, hconclude]
  rfl

theorem callsOfMove_raised {demand : Option Nat} {chunks : List Value} {f : Fault}
    {v : Record σ × σ} (hd : demand ≠ some 0)
    (h : body.walk (startResponse server) demand w = ((chunks, .raised f), v)) :
    callsOfMove m host server body (.take demand) w = callsOfFailure m.logger host f v := by
  have hwalk := body.walk_watched (startResponse_mimics server) demand [] w
  rw [h] at hwalk
  have htake := take_of_raised host.watched m.watched server.watched body.watched hd hwalk
  rw [callsOfMove, Move.watched, move, htake]
  rw [show m.watched.logger = m.logger.watched from rfl, passedOn_beside]
  rfl

theorem told_shut (h : Told earlier w.1) :
    Told (earlier ++ startsOfShut server body w) (shut server body w).2.1 := by
  cases hc : body.close with
  | able p =>
    rw [startsOfShut, shut_of_able _ _ hc, hc]
    exact h.finish p
  | missing =>
    rw [startsOfShut, shut, hc, List.append_nil]
    exact h
  | value v =>
    rw [startsOfShut, shut, hc, List.append_nil]
    exact h

theorem callsOfMove_quiet {mv : Move σ} (h : ending? mv (met server body mv w) = none) :
    callsOfMove m host server body mv w = [] :=
  ((callsOfMove_moves m host server body mv w).passes h).1

/-- Whether a record has been logged or holds what starts have left. -/
def Kept (starts : List Start) (r : Record σ) : Prop :=
  r.isLogged = true ∨ Told starts r

theorem isLogged_of_passedOn (hi : m.logger.immediate = false) {f : Fault} {notFound : Bool}
    (hf : f.isNotFound = .ok notFound) (v : Record σ × σ) :
    (passedOn m.logger host f v).2.1.isLogged = true := by
  have hsettles := m.logger.conclude_settles host (failed notFound v.1) v.2
  rwa [hi, Bool.false_or, ← passedOn_eq_conclude m.logger host hf] at hsettles

/-- A failure that is passed on leaves a record logged or as it was. -/
theorem Kept.passedOn {starts : List Start} {v : Record σ × σ} (hi : m.logger.immediate = false)
    (h : Kept starts v.1) (f : Fault) : Kept starts (passedOn m.logger host f v).2.1 := by
  rcases hf : f.isNotFound with g | notFound
  · rw [passedOn_of_refused m.logger host hf]
    exact h
  · exact .inl (isLogged_of_passedOn hi hf v)

/-- Every move of the server keeps the record, and hands on lines of it only. -/
theorem spanOfMove_bears (hi : m.logger.immediate = false) (h : Kept earlier w.1) (mv : Move σ) :
    (∀ e ∈ Call.entries (spanOfMove m host server body earlier mv w).calls,
      Bears m host (spanOfMove m host server body earlier mv w) e) ∧
    Kept (spanOfMove m host server body earlier mv w).starts
        (m.move host server body mv w).2.1 := by
  have hnone : ∀ {calls : List (Call σ)} {span : Span σ}, calls = [] →
      ∀ e ∈ Call.entries calls, Bears m host span e := by
    rintro _ span rfl e he
    cases he
  cases mv with
  | elapse change =>
    refine ⟨hnone (callsOfMove_quiet rfl), ?_⟩
    rw [spanOfMove, startsOfMove, List.append_nil]
    exact h
  | close =>
    have hsettles := m.logger.conclude_settles host (shut server body w).2.1
      (shut server body w).2.2
    rw [hi, Bool.false_or] at hsettles
    have hmove : (m.move host server body .close w).2 =
        (m.logger.conclude host (shut server body w).2).2 := by
      rw [move, close_apply]
    refine ⟨?_, .inl (by rw [hmove]; exact hsettles)⟩
    rw [spanOfMove, callsOfMove_close]
    -- a record that was logged at a failure is not logged again when its body is closed
    rcases h with h | h
    · have hlogged : (shut server body w).2.1.isLogged = true :=
        (isLogged_shut server body w).trans h
      exact hnone (m.logger.callsOfConclude_of_settled host (by rw [hlogged, Bool.or_true]))
    · exact bears_of_conclude (told_shut h) .closed
  | take demand =>
    have hmove : m.move host server body (.take demand) w = m.take host server body demand w := rfl
    by_cases hd : demand = some 0
    · rw [hmove, spanOfMove, startsOfMove, if_pos hd, List.append_nil]
      subst hd
      rw [take_zero]
      refine ⟨hnone (callsOfMove_quiet ?_), h⟩
      rw [met, if_pos rfl]
      rfl
    have hkept := body.isLogged_walk (startResponse_keeps server) demand w
    have htold : Kept earlier w.1 → Kept (earlier ++ body.startsIn (startResponse server) demand w)
        (body.walk (startResponse server) demand w).2.1 :=
      fun h => h.imp hkept.trans fun h => h.walk body demand
    rw [hmove]
    simp only [spanOfMove, startsOfMove, troubleOfMove, met, if_neg hd]
    rcases hwalk : body.walk (startResponse server) demand w with ⟨⟨chunks, stop⟩, v⟩
    rw [hwalk] at htold
    have hstop : (∃ f, stop = .raised f) ∨ ∀ f, stop ≠ .raised f := by
      cases stop <;> simp
    rcases hstop with ⟨f, rfl⟩ | hquiet
    · rw [take_of_raised host m server body hd hwalk, callsOfMove_raised hd hwalk]
      refine ⟨?_, (htold h).passedOn hi f⟩
      rcases htold h with h | h
      · exact hnone (callsOfFailure_of_logged h)
      · exact bears_of_failure h rfl
    · rw [take_of_quiet host m server body hd hwalk hquiet]
      refine ⟨hnone (callsOfMove_quiet ?_), htold h⟩
      rw [met, if_neg hd, hwalk]
      cases stop with
      | raised f => exact absurd rfl (hquiet f)
      | ended => rfl
      | left => rfl

/-- Everything that is handed on while the server makes its moves is a line of the record. -/
theorem spans_bear (hi : m.logger.immediate = false) (moves : List (Move σ))
    (h : Kept earlier w.1) :
    ∀ span ∈ spans m host server body moves earlier w,
      ∀ e ∈ Call.entries span.calls, Bears m host span e := by
  -- the invariant is that the record is kept, which every move preserves
  induction moves generalizing earlier w with
  | nil => exact fun _ hspan => nomatch hspan
  | cons mv rest ih =>
    obtain ⟨hbears, hkept⟩ := spanOfMove_bears hi h mv
    intro span hspan
    rcases List.mem_cons.mp hspan with rfl | hspan
    · exact hbears
    · exact ih hkept span hspan

end Spans

section Exchange

variable {m host server} {environ : Environ} {request : Request} {r : Record σ} {s t : σ}

/-- The calls of a call of the middleware: the application is entered, and its failure is passed
on. -/
theorem callsOfCall_of_deferred (hi : m.logger.immediate = false)
    (h : environ.request = .ok request)
    (hstart : m.logger.startRequest host request s = (.ok r, t)) :
    callsOfCall m host server environ s = .entered environ ::
      match (m.app environ).finish (startResponse server) (r, t) with
      | (.ok _, _) => []
      | (.error f, v) => callsOfFailure m.logger host f v := by
  rw [Logger.startRequest_of_deferred m.logger host hi] at hstart
  cases hstart
  have hwatched : m.watched.logger.startRequest host.watched request ([], s) =
      (.ok (m.logger.opened host request s).markHandling.watched, ([], s)) := by
    have hi' : m.watched.logger.immediate = false := hi
    rw [Logger.startRequest_of_deferred m.watched.logger host.watched hi']
    rw [← Record.markHandling_watched, ← Logger.opened_watched]
    rfl
  have hfinish := Process.finish_watched (startResponse_mimics server) Body.watched (m.app environ)
    [.entered environ] ((m.logger.opened host request s).markHandling, s)
  rw [callsOfCall, call_of_started host.watched m.watched server.watched h hwatched]
  have henter : (m.watched.app environ).finish (startResponse server.watched)
      ((m.logger.opened host request s).markHandling.watched, ([], s)) =
        ((m.app environ).watched Body.watched).finish (startResponse server.watched)
          (beside [.entered environ] ((m.logger.opened host request s).markHandling, s)) := rfl
  rw [answer, henter, hfinish]
  rcases (m.app environ).finish (startResponse server)
    ((m.logger.opened host request s).markHandling, s) with ⟨f | body, v⟩
  · have hpassed := passedOn_beside m.logger host (f := f) (w := v) [.entered environ]
    simp only [Except.map]
    rw [show m.watched.logger = m.logger.watched from rfl, hpassed]
    rfl
  · rfl

theorem Told.of_response {starts : List Start} {r r' : Record σ} (h : Told starts r)
    (hr : r'.response = r.response) : Told starts r' where
  status := by rw [hr, h.status]
  headers := by rw [hr, h.headers]
  readable := h.readable

theorem response_markHandling (r : Record σ) : r.markHandling.response = r.response := by
  unfold Record.markHandling
  split <;> rfl

/-- Everything that is handed on in an exchange is a line of what the starts have left. -/
theorem exchange_bears (hi : m.logger.immediate = false) (environ : Environ)
    (moves : List (Move σ)) (s : σ) : ∀ span ∈ exchange m host server environ moves s,
      ∀ e ∈ Call.entries span.calls, Bears m host span e := by
  cases hrequest : environ.request with
  | error f =>
    have hcall := call_of_error host m server hrequest s
    have hcalls : callsOfCall m host server environ s = [] := by
      rw [callsOfCall, call_of_error host.watched m.watched server.watched hrequest]
    intro span hspan e he
    rw [exchange, hcall, spanOfCall, hrequest] at hspan
    rw [List.mem_singleton.mp hspan, hcalls] at he
    cases he
  | ok request =>
    have hstart := m.logger.startRequest_of_deferred host hi request s
    have hcall := call_of_started host m server hrequest hstart
    have hcalls : callsOfCall m host server environ s = _ :=
      callsOfCall_of_deferred hi hrequest hstart
    -- the record starts without a status, and every start of the application is put down
    have hopened : Told [] (m.logger.opened host request s).markHandling :=
      (told_nil request _ _).of_response (response_markHandling _)
    have htold : Told _ ((m.app environ).finish (startResponse server)
        ((m.logger.opened host request s).markHandling, s)).2.1 := hopened.finish (m.app environ)
    rw [List.nil_append] at htold
    rw [exchange, hcall, answer, spanOfCall, hrequest]
    simp only [hstart]
    rcases hfinish : (m.app environ).finish (startResponse server)
      ((m.logger.opened host request s).markHandling, s) with ⟨f | body, v⟩
    · rw [hfinish] at hcalls htold
      intro span hspan e he
      obtain rfl := List.mem_singleton.mp hspan
      rw [hcalls] at he
      exact bears_of_failure htold rfl e he
    · rw [hfinish] at hcalls htold
      intro span hspan
      rcases List.mem_cons.mp hspan with rfl | hspan
      · intro e he
        rw [hcalls] at he
        cases he
      · have hafter : Told _ (Logger.afterHandle host v).2.1 :=
          htold.of_response (v.1.response_finish _)
        exact spans_bear hi moves (.inr hafter) span hspan

end Exchange

section Codes

variable {starts : List Start} {r : Record σ} {f : Fault}

theorem status_failed_of_notFound (r : Record σ) : (failed true r).response.status = .int 404 :=
    rfl

theorem status_failed_of_null (hr : r.response.status = .null) :
    (failed false r).response.status = .int 500 := by
  have hlacks : (! false && lacksStatus r) = true := by
    rw [lacksStatus, hr]
    rfl
  rw [failed, if_neg Bool.false_ne_true, withFailure, if_pos hlacks]
  rfl

theorem failed_of_int {n : Int} (hr : r.response.status = .int n) : failed false r = r := by
  have hlacks : ¬ (! false && lacksStatus r) = true := by
    rw [lacksStatus, hr]
    simp [Value.isNull]
  rw [failed, if_neg Bool.false_ne_true, withFailure, if_neg hlacks]

theorem headers_failed (notFound : Bool) (r : Record σ) :
    (failed notFound r).response.headers = r.response.headers := by
  unfold failed withFailure
  split <;> split <;> rfl

theorem Closing.headers_eq {trouble : Option Fault} {last : Record σ}
    (h : Closing r trouble last) :
    last.response.headers = r.response.headers := by
  cases h with
  | closed => rfl
  | failed => exact headers_failed ..

theorem orElse_of_pos {n : Nat} (h : 0 < n) (other : Value) :
    (Value.int n).orElse other = .int n := by
  have htruthy : (Value.int n).truthy = true := by simpa [Value.truthy] using Nat.ne_of_gt h
  rw [Value.orElse, if_pos htruthy]

/-- The status that is shown of a record is the one that starts and a failure call for. -/
theorem Told.shown (h : Told starts r) (hl : ∀ c ∈ starts, ∃ n, IsStatusLine c.status n)
    {trouble : Option Fault} {last : Record σ} (hlast : Closing r trouble last) :
    ∃ n : Nat, Shown trouble starts.getLast? n ∧ n < 1000 ∧
      last.response.status.orElse (.int 200) = .int n := by
  have hstatus := h.status
  rw [Start.statusOf] at hstatus
  cases hlast with
  | closed =>
    cases hlast : starts.getLast? with
    | none =>
      rw [hlast, Option.elim_none] at hstatus
      exact ⟨200, .unstarted, by decide, by rw [hstatus]; rfl⟩
    | some c =>
      obtain ⟨n, hn⟩ := hl c (List.mem_of_getLast? hlast)
      rw [hlast, Option.elim_some, hn.parseStatus_eq] at hstatus
      exact ⟨n, .started hn, hn.lt_thousand, by rw [hstatus, orElse_of_pos hn.pos]⟩
  | @failed f notFound hf =>
    cases notFound with
    | true => exact ⟨404, .notFound hf, by decide, by rw [status_failed_of_notFound]; rfl⟩
    | false =>
      cases hlast : starts.getLast? with
      | none =>
        rw [hlast, Option.elim_none] at hstatus
        exact ⟨500, .failed hf, by decide, by rw [status_failed_of_null hstatus]; rfl⟩
      | some c =>
        obtain ⟨n, hn⟩ := hl c (List.mem_of_getLast? hlast)
        rw [hlast, Option.elim_some, hn.parseStatus_eq] at hstatus
        exact ⟨n, .failedLate hf hn, hn.lt_thousand,
          by rw [failed_of_int hstatus, hstatus, orElse_of_pos hn.pos]⟩

/-- The last start is the one that the record holds everything of, if it returned. -/
theorem Told.last_returned (h : Told starts r)
    (hreturned : ∀ c, starts.getLast? = some c → c.returned = true) :
    starts.getLast? = (starts.filter Start.returned).getLast? ∧
      ∀ c, starts.getLast? = some c → c.headers? = some (Start.headersOf starts) := by
  obtain rfl | ⟨init, c, rfl⟩ := starts.eq_nil_or_concat'
  · exact ⟨rfl, fun c hc => nomatch hc⟩
  · have hc := hreturned c List.getLast?_concat
    obtain ⟨headers, hheaders⟩ := h.readable c (List.mem_append_right init List.mem_cons_self) hc
    rw [List.filter_append, List.filter_cons_of_pos hc, List.filter_nil, List.getLast?_concat,
      List.getLast?_concat]
    refine ⟨rfl, fun c' hc' => ?_⟩
    obtain rfl := Option.some.inj hc'
    rw [Start.headersOf, List.filterMap_append, List.filterMap_cons_some hheaders,
      List.filterMap_nil, List.getLast?_concat, hheaders]
    rfl

theorem status_of_nat {snapshot : Snapshot σ} {n : Nat} (hn : n < 1000)
    (h : snapshot.response.response.status.orElse (.int 200) = .int n) (args : List Value) :
    Builtin.status snapshot args =
      .ok (.text (if Builtin.isColoured snapshot then Builtin.coloured n
      else Number.intText n)) := by
  have hstatus : snapshot.status.orElse (.int 200) = .int n := h
  have hwritten : (Value.int n).written = .ok (Number.intText n) := by
    refine Value.written_eq_ok.mpr (Value.numeral_of_lt ?_)
    calc (n : Int).natAbs < 10 ^ 3 := by simpa using hn
      _ ≤ 10 ^ Number.maxDigits := Nat.pow_le_pow_right (by decide) (by decide)
  have hwhole : (Value.int n).toWhole = .ok n := rfl
  rw [Builtin.status, hstatus]
  exact bind_eq_ok.mpr ⟨_, hwhole, bind_eq_ok.mpr ⟨_, hwritten, rfl⟩⟩

end Codes

/-- The line of a request shows, as its status, 404 if it is made at a failure that says that
something was not found; else 500 if it is made at a failure before any start of the response; else
the code of the last start that the application has made, or 200 without one. That start counts
also if it failed, because its headers could not be read or because the server refused it; if it
returned, it is the last one that did. The headers on the line are those of the last start whose
headers could be read, and of no other: if the last start returned, its own. -/
theorem exchange_status (m : Middleware σ) (host : Host σ) (server : StartResponse σ)
    (environ : Environ) (moves : List (Move σ)) (s : σ) (registry : Registry σ)
    (given placeholder : String) (hi : m.logger.immediate = false)
    (hf : m.logger.formatter = Formatter.ofFormat registry given placeholder)
    (hn : ∀ t ∈ Segment.tokens (parseFormat (Preset.expand given)),
      registry.contains t.name = true)
    (hstatus : registry.table.get? "status" = (Registry.builtin host).table.get? "status")
    (hheaders : registry.table.get? "res" = (Registry.builtin host).table.get? "res") :
    ∀ span ∈ exchange m host server environ moves s,
      (∀ c ∈ span.starts, ∃ n, IsStatusLine c.status n) →
      ∀ e ∈ Call.entries span.calls, ∃ text : Token → String, ∃ code : Nat,
        e.2 = String.join ((parseFormat (Preset.expand given)).map (Formatter.segmentText text)) ∧
        Shown span.trouble span.starts.getLast? code ∧
        (∀ t ∈ Segment.tokens (parseFormat (Preset.expand given)), t.name = "status" →
          text t = if Builtin.isColoured e.1 then Builtin.coloured code else Number.intText code) ∧
        (∀ t ∈ Segment.tokens (parseFormat (Preset.expand given)), t.name = "res" →
          Formatter.pieceOf placeholder
            (Builtin.namedHeader (Start.headersOf span.starts) (t.args.map .text)) =
            .ok (text t)) ∧
        ((∀ c, span.starts.getLast? = some c → c.returned = true) →
          span.starts.getLast? = (span.starts.filter Start.returned).getLast? ∧
          ∀ c, span.starts.getLast? = some c →
              c.headers? = some (Start.headersOf span.starts)) := by
  intro span hspan hlines e he
  obtain ⟨⟨r, last, htold, hlast, hresponse⟩, s', hline⟩ :=
    exchange_bears hi environ moves s span hspan e he
  rw [hf] at hline
  obtain ⟨text, htext, htokens⟩ := Formatter.line_of_registered hn hline
  obtain ⟨code, hshown, hsmall, hcode⟩ := htold.shown hlines hlast
  refine ⟨text, code, htext, hshown, fun t ht hname => ?_, fun t ht hname => ?_,
    fun hreturned => ?_⟩
  · obtain ⟨e', s'', he', hpiece⟩ := htokens t ht
    have hbuiltin : ("status", .ofFunction "<extractor status>" Builtin.status) ∈
        Builtin.extractors host := by simp [Builtin.extractors]
    rw [hname, hstatus, Registry.get?_builtin hbuiltin] at he'
    obtain rfl := Option.some.inj he'
    have hvalue := status_of_nat hsmall (hresponse.symm ▸ hcode) (t.args.map Value.text)
    rw [Extractor.outcome_ofFunction, hvalue] at hpiece
    exact (Except.ok.inj hpiece).symm
  · obtain ⟨e', s'', he', hpiece⟩ := htokens t ht
    have hbuiltin : ("res", .ofFunction "<extractor res>" Builtin.responseHeader) ∈
        Builtin.extractors host := by simp [Builtin.extractors]
    rw [hname, hheaders, Registry.get?_builtin hbuiltin] at he'
    obtain rfl := Option.some.inj he'
    have hshows : e.1.response.response.headers = Start.headersOf span.starts := by
      rw [hresponse, hlast.headers_eq, ← htold.headers]
    rw [← hpiece, Extractor.outcome_ofFunction, Builtin.responseHeader, hshows]
  · exact htold.last_returned hreturned

theorem exchange_status_plain :
    PlainHost.statusMiddleware.logger.immediate = false ∧
      PlainHost.statusMiddleware.logger.formatter =
        Formatter.ofFormat (Registry.builtin PlainHost.host).freeze ":status :res[content-length]"
        "-" ∧
      ∃ span ∈ exchange PlainHost.statusMiddleware PlainHost.host PlainHost.server
          PlainHost.environ [] [],
        span.trouble = some .formatUndefined ∧ span.starts.map Start.returned = [false] ∧
        (∀ c ∈ span.starts, ∃ n, IsStatusLine c.status n) ∧
        ∃ e ∈ Call.entries span.calls, e.2 = "200 -" ∧ ∃ text : Token → String, ∃ code : Nat,
          e.2 = String.join ((parseFormat ":status :res[content-length]").map
            (Formatter.segmentText text)) ∧
          Shown span.trouble span.starts.getLast? code := by
  let m := PlainHost.statusMiddleware
  have hknown : ∀ t ∈ Segment.tokens (parseFormat (Preset.expand ":status :res[content-length]")),
      (Registry.builtin PlainHost.host).freeze.contains t.name = true := by decide +kernel
  let span := spanOfCall m PlainHost.host PlainHost.server PlainHost.environ []
  have hmem : span ∈ exchange m PlainHost.host PlainHost.server PlainHost.environ [] [] := by
    unfold exchange
    split <;> exact List.mem_cons_self
  have hstarts : span.starts =
      [⟨.text "200 OK", .parts [[.text "X-Powered-By"]], .error (.tooFewParts 1)⟩] := rfl
  have hlines : ∀ c ∈ span.starts, ∃ n, IsStatusLine c.status n := by
    rw [hstarts]
    intro c hc
    rw [List.mem_singleton.mp hc]
    exact ⟨200, .intro rfl (x := 2) (y := 0) (z := 0) (by decide) (by decide) (by decide)
      (by decide)⟩
  -- the failure makes a line, since nothing was logged before
  have hentries : (Call.entries span.calls).map Prod.snd = ["200 -"] := by decide +kernel
  obtain ⟨e, he, hline⟩ : ∃ e ∈ Call.entries span.calls, e.2 = "200 -" :=
    List.mem_map.mp (hentries ▸ List.mem_singleton_self _)
  obtain ⟨text, code, htext, hshown, -⟩ := exchange_status m PlainHost.host PlainHost.server
    PlainHost.environ [] [] _ _ _ rfl rfl hknown rfl rfl span hmem hlines e he
  exact ⟨rfl, rfl, span, hmem, rfl, by rw [hstarts]; rfl, hlines, e, he, hline, text, code, htext,
    hshown⟩

end Middleware

end RequestLog
