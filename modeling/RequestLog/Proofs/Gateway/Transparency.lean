import RequestLog.Proofs.Gateway.Requests
import RequestLog.Proofs.PlainHost
import RequestLog.Proofs.Watch.Lines
import RequestLog.Proofs.World.Logging
import RequestLog.Proofs.World.Processes

/-!
Transparency. To a server, an application with a logger in front of it and the application alone
are the same, whatever the two do, if the logger can tell what it sees of them. Application and
server are given by what they do to a world that they share, so that each may depend on what the
other has done; the sights that they have of one another are put down beside the world in their
order.
-/
namespace RequestLog

variable {κ τ σ : Type}

/-- What a server is going to do with a body, which may depend on what comes of each move and on
the state of the host. -/
inductive Plan (σ : Type) where
  | leave
  | make (mv : Move σ) (next : List Value × Stop → σ → Plan σ)

namespace Plan

def onHost : Plan τ → Plan (κ × τ)
  | leave => leave
  | make mv next => make mv.onHost fun reply w => (next reply w.2).onHost

/-- Whether a server that walks through a body asks for a chunk at least. -/
def Asks : Plan σ → Prop
  | leave => True
  | make mv next => mv ≠ .take (some 0) ∧ ∀ reply s, (next reply s).Asks

end Plan

/-- The course of an exchange: what comes of the call of the application, and of each move of the
server with the body, both with the state that is left. -/
structure Course (σ : Type) where
  call : Except Fault Unit × σ
  moves : List ((List Value × Stop) × σ)

def Course.map (f : σ → τ) (c : Course σ) : Course τ :=
  ⟨(c.call.1, f c.call.2), c.moves.map fun r => (r.1, f r.2)⟩

def Body.follow (body : Body σ) (server : StartResponse σ) :
    Plan σ → σ → List ((List Value × Stop) × σ)
  | .leave, _ => []
  | .make mv next, s =>
    let r := body.move server mv s
    r :: follow body server (next r.1 r.2) r.2

/-- The course of an exchange with an application that nothing watches. -/
def App.course (app : App σ) (server : StartResponse σ) (environ : Environ) (plan : Plan σ)
    (s : σ) :
    Course σ :=
  match app.call server environ s with
  | (.ok body, t) => ⟨(.ok (), t), body.follow server plan t⟩
  | (.error f, t) => ⟨(.error f, t), []⟩

/-- Whether a body can be closed by a call, and no walk through it stops with a failure that a
logger cannot tell or that a walk cannot pass on. -/
structure Body.Behaves (body : Body σ) (server : StartResponse σ) : Prop where
  close : ∀ v, body.close ≠ .value v
  take : ∀ demand s f, (body.move server (.take demand) s).1.2 = .raised f →
    f.tells = true ∧ f.endsIteration = false

/-- Whether the failure of an application when it is called can be told, and the body behaves that
it returns. -/
structure App.Behaves (app : App σ) (server : StartResponse σ) (environ : Environ) (s : σ) :
    Prop where
  call : ∀ f, (app.call server environ s).1 = .error f → f.tells = true
  body : ∀ body, (app.call server environ s).1 = .ok body → body.Behaves server

section Onlookers

variable {app : App τ} {body : Body τ} (server : StartResponse τ) {environ : Environ}

theorem Body.move_seenBy (hb : body.StartsReadably) (o : Onlooker κ τ) (mv : Move τ) (k : κ)
    (t : τ) :
    ∃ k', (body.seenBy o).move (server.seenBy o) mv.onHost (k, t) =
      ((body.move server mv t).1, (k', (body.move server mv t).2)) := by
  have hforwards := StartResponse.forwards_alone o server
  cases mv with
  | elapse change => exact ⟨k, rfl⟩
  | take demand =>
    obtain ⟨_, k', -, hwalk⟩ := walk_seenBy hforwards o body hb demand () k t trivial
    exact ⟨k', by simp only [Move.onHost, Body.move, hwalk]⟩
  | close =>
    cases hc : body.close with
    | missing => exact ⟨k, by simp only [Move.onHost, Body.move, seenBy, hc]; rfl⟩
    | value v => exact ⟨k, by simp only [Move.onHost, Body.move, seenBy, hc]; rfl⟩
    | able p =>
      obtain ⟨_, k', -, hfinish⟩ :=
        Process.finish_seenBy hforwards o Empty.elim id p (hb.close p hc) () (o.close k) t trivial
      refine ⟨k', ?_⟩
      simp only [Move.onHost, Body.move, seenBy, hc, Operation.map, Process.finish,
        Action.change_apply, hfinish]
      cases (p.finish server.alone ((), t)).1 <;> rfl

theorem Body.follow_seenBy (hb : body.StartsReadably) (o : Onlooker κ τ) (plan : Plan τ) (k : κ)
    (t : τ) :
    ((body.seenBy o).follow (server.seenBy o) plan.onHost (k, t)).map (fun r => (r.1, r.2.2)) =
      body.follow server plan t := by
  induction plan generalizing k t with
  | leave => rfl
  | make mv next ih =>
    obtain ⟨k', hmove⟩ := move_seenBy server hb o mv k t
    rw [Plan.onHost, follow, hmove, List.map_cons, follow]
    exact congrArg _ (ih _ _ k' _)

theorem App.call_seenBy (happ : (app environ).StartsReadably Body.StartsReadably)
    (o : Onlooker κ τ)
    (k : κ) (t : τ) : ∃ k', (app.seenBy o).call (server.seenBy o) environ (k, t) =
      ((app.call server environ t).1.map (Body.seenBy o),
        (k', (app.call server environ t).2)) := by
  obtain ⟨_, k', -, hfinish⟩ := Process.finish_seenBy (StartResponse.forwards_alone o server) o
    Empty.elim (Body.seenBy o) (app environ) happ () k t trivial
  refine ⟨k', ?_⟩
  rw [call, seenBy, hfinish]
  rfl

/-- An onlooker does not change the course of an exchange. -/
theorem App.course_seenBy (happ : (app environ).StartsReadably Body.StartsReadably)
    (o : Onlooker κ τ) (plan : Plan τ) (k : κ) (t : τ) :
    ((app.seenBy o).course (server.seenBy o) environ plan.onHost (k, t)).map Prod.snd =
      app.course server environ plan t := by
  obtain ⟨k', hcall⟩ := App.call_seenBy server happ o k t
  rw [course, course, hcall]
  rcases hbare : app.call server environ t with ⟨f | body, t'⟩
  · rfl
  · have hb : body.StartsReadably := Process.result_of_finish happ (congrArg Prod.fst hbare)
    exact congrArg _ (Body.follow_seenBy server hb o plan k' t')

theorem Body.Behaves.seenBy (h : body.Behaves server) (hb : body.StartsReadably)
    (o : Onlooker κ τ) :
    (body.seenBy o).Behaves (server.seenBy o) where
  close v hv := by
    rw [Body.seenBy] at hv
    cases hc : body.close with
    | value w => exact h.close w hc
    | missing =>
      rw [hc] at hv
      cases hv
    | able p =>
      rw [hc] at hv
      cases hv
  take demand s f hf := by
    obtain ⟨k', hmove⟩ := Body.move_seenBy server hb o (.take demand) s.1 s.2
    refine h.take demand s.2 f ?_
    rw [← hf, ← congrArg Prod.fst hmove]
    rfl

theorem App.Behaves.seenBy {t : τ} (h : app.Behaves server environ t)
    (happ : (app environ).StartsReadably Body.StartsReadably) (o : Onlooker κ τ) (k : κ) :
    (app.seenBy o).Behaves (server.seenBy o) environ (k, t) := by
  obtain ⟨k', hcall⟩ := App.call_seenBy server happ o k t
  refine ⟨fun f hf => ?_, fun body hbody => ?_⟩
  · rw [hcall] at hf
    exact h.call f (map_eq_error.mp hf)
  · rw [hcall] at hbody
    obtain ⟨bare, hbare, rfl⟩ := map_eq_ok.mp hbody
    exact (h.body bare hbare).seenBy server (Process.result_of_finish happ hbare) o

end Onlookers

/-- What an application and its server see of one another. -/
inductive Sight (τ : Type) where
  /-- The server is told to start the response. -/
  | start (status : Value) (headers : HeaderSource) (trouble : Value)
  /-- The application is told what came of a start. -/
  | outcome (outcome : Except Fault (Writer τ))
  | chunk (c : Value)
  /-- The body of the application is closed. -/
  | close

/-- An onlooker that puts down all that it sees. -/
def Onlooker.scribe : Onlooker (List (Sight τ)) τ where
  start status headers trouble sights := sights ++ [.start status headers trouble]
  outcome outcome sights := sights ++ [.outcome outcome]
  chunk c sights := sights ++ [.chunk c]
  close sights := sights ++ [.close]

theorem PlainHost.environ_describes : PlainHost.environ.Describes where
  headers p hp := by
    obtain rfl := List.mem_singleton.mp hp
    exact Value.hasText_text _
  texts name _ v hv := by
    obtain ⟨before, after, hentries, -⟩ := List.lookup_eq_some_iff.mp hv
    have hmem : (name, v) ∈ PlainHost.environ.entries := hentries ▸ by simp
    have hall : ∀ p ∈ PlainHost.environ.entries, ∃ s, p.2 = .text s := by simp [PlainHost.environ]
    exact hall _ hmem
  latin1 name hn s hs := by
    simp only [Environ.paths, List.mem_cons, List.not_mem_nil, or_false] at hn
    rcases hn with rfl | rfl
    · cases hs
    · cases hs
      decide

namespace Middleware

section Course

variable (m : Middleware σ) (host : Host σ) (server : StartResponse σ)

def follow (body : Body σ) : Plan σ → Record σ × σ → List ((List Value × Stop) × σ)
  | .leave, _ => []
  | .make mv next, w =>
    let r := m.move host server body mv w
    (r.1, r.2.2) :: follow body (next r.1 r.2.2) r.2

/-- The course of an exchange with an application that has a logger in front of it. -/
def course (environ : Environ) (plan : Plan σ) (s : σ) : Course σ :=
  match m.call host server environ s with
  | (.ok (r, body), t) => ⟨(.ok (), t), follow m host server body plan (r, t)⟩
  | (.error f, t) => ⟨(.error f, t), []⟩

end Course

/-- The middleware of an application that lives in the world, and does not see what the log
keeps. -/
def ofWorld (app : App τ) (shown : String) (l : Logger (κ × τ)) : Middleware (κ × τ) :=
  ⟨app.seenBy .blind, shown, l⟩

/-- A record of a request that a logger keeps, whose status can be described. -/
structure Keeps (l : Logger σ) (request : Request) (r : Record σ) : Prop where
  request : r.request = request
  options : r.options = some l.options
  status : ∃ shown, r.response.status.literal = .ok shown

namespace Keeps

variable {l : Logger σ} {request : Request} {r : Record σ}

theorem of_same {r' : Record σ} (h : Keeps l request r) (hrequest : r'.request = r.request)
    (hoptions : r'.options = r.options) (hstatus : r'.response.status = r.response.status) :
    Keeps l request r' :=
  ⟨hrequest.trans h.request, hoptions.trans h.options, hstatus ▸ h.status⟩

theorem setStatus (h : Keeps l request r) {status : Value}
    (hs : ∃ shown, status.literal = .ok shown) :
    Keeps l request (r.setStatus status) :=
  ⟨h.request, h.options, hs⟩

theorem withHeaders (h : Keeps l request r) (headers : Headers) :
    Keeps l request (withHeaders headers r) :=
  h.of_same rfl rfl rfl

theorem markHandling (h : Keeps l request r) : Keeps l request r.markHandling := by
  unfold Record.markHandling
  split
  · exact h.of_same rfl rfl rfl
  · exact h

theorem finish (h : Keeps l request r) (now : ClockReading) : Keeps l request (r.finish now) := by
  unfold Record.finish
  dsimp only
  split <;> split <;> exact h.of_same rfl rfl rfl

theorem failed (h : Keeps l request r) (notFound : Bool) :
    Keeps l request (failed notFound r) := by
  have hwith : Keeps l request (withFailure notFound r) := by
    unfold withFailure
    split
    · exact h.setStatus ⟨_, rfl⟩
    · exact h
  unfold Middleware.failed
  split
  · exact hwith.setStatus ⟨_, rfl⟩
  · exact hwith

theorem opened (l : Logger σ) (host : Host σ) (request : Request) (s : σ) :
    Keeps l request (l.opened host request s) :=
  ⟨rfl, rfl, _, rfl⟩

theorem conclude (h : Keeps l request r) (host : Host σ) (s : σ) :
    Keeps l request (l.conclude host (r, s)).2.1 := by
  cases hs : l.immediate || r.isLogged with
  | true =>
    rw [Logger.conclude_of_settled l host hs]
    exact h
  | false =>
    rw [Logger.conclude_of_open l host hs]
    exact (h.finish _).of_same rfl rfl rfl

end Keeps

theorem forwards_startResponse (l : Logger (κ × τ)) (request : Request)
    (server : StartResponse τ) :
    (startResponse (server.seenBy (.blind : Onlooker κ τ))).Forwards (Keeps l request) server := by
  rintro status headers trouble ⟨⟨pairs, hpairs⟩, hstatus⟩ r k t hr
  rw [startResponse_apply, Headers.normalize_of_texts hpairs]
  exact ⟨_, _, (hr.setStatus hstatus).withHeaders _, rfl⟩

/-- A body is shut beside a log as it is closed alone. -/
theorem shut_world {l : Logger (κ × τ)} {request : Request} (server : StartResponse τ)
    {body : Body τ}
    (hb : body.StartsReadably) (hbehaves : body.Behaves server) {r : Record (κ × τ)}
    (hr : Keeps l request r) (k : κ) (t : τ) :
    ∃ result r' k', Keeps l request r' ∧
      shut (server.seenBy .blind) (body.seenBy .blind) (r, (k, t)) =
        (result, (r', (k', (body.move server .close t).2))) ∧
      (body.move server .close t).1 = ([], .ofExcept result) := by
  cases hc : body.close with
  | value v => exact absurd hc (hbehaves.close v)
  | missing =>
    have hseen : (body.seenBy (.blind : Onlooker κ τ)).close = .missing := by
      rw [Body.seenBy, hc]
      rfl
    refine ⟨.ok (), r, k, hr, ?_, ?_⟩
    · simp only [shut, hseen, Body.move, hc, Action.done_apply]
    · simp only [Body.move, hc, Stop.ofExcept]
  | able p =>
    obtain ⟨r', k', hr', hfinish⟩ :=
      Process.finish_seenBy (forwards_startResponse l request server)
      .blind Empty.elim id p (hb.close p hc) r k t hr
    refine ⟨(p.finish server.alone ((), t)).1, r', k', hr', ?_, ?_⟩
    · have hseen : (body.seenBy (.blind : Onlooker κ τ)).close =
          .able (.touch (Action.change id) fun _ _ => p.seenBy .blind Empty.elim id) := by
        rw [Body.seenBy, hc]
        rfl
      rw [shut_of_able _ _ hseen, Process.finish, Action.change_apply]
      simp only [id, Body.move, hc, hfinish]
      cases (p.finish server.alone ((), t)).1 <;> rfl
    · simp only [Body.move, hc]

section World

variable {l : Logger (κ × τ)} {host : Host (κ × τ)} {request : Request} (hnotes : host.TakesNotes)
  (hemit : ∀ snapshot line s, (l.emitter.emit snapshot line s).1 = .ok ())
  (htells : ∀ r, Keeps l request r → l.Tells r.snapshot) (hw : l.Keeps Prod.snd host)

include hnotes hemit htells hw

/-- A hook at the end of the request does not fail, and leaves the world as it is. -/
theorem conclude_world {r : Record (κ × τ)} (hr : Keeps l request r) (k : κ) (t : τ) :
    ∃ line r' k', Keeps l request r' ∧
    l.conclude host (r, (k, t)) = (.ok line, (r', (k', t))) := by
  obtain ⟨line, hline⟩ := Logger.conclude_ok hnotes hemit (htells _ (hr.finish (host.now (k, t))))
  have hworld := hw.conclude (r, (k, t))
  exact ⟨line, _, _, hr.conclude host (k, t), Prod.ext hline (Prod.ext rfl (Prod.ext rfl hworld))⟩

/-- A failure that can be told is passed on as it is, and logging it leaves the world as it is. -/
theorem passedOn_world {f : Fault} (hf : f.tells = true) {r : Record (κ × τ)}
    (hr : Keeps l request r) (k : κ) (t : τ) :
    ∃ r' k', Keeps l request r' ∧ passedOn l host f (r, (k, t)) = (f, (r', (k', t))) := by
  obtain ⟨notFound, hnotFound⟩ := exists_of_isOk hf
  obtain ⟨line, r', k', hr', hconclude⟩ :=
    conclude_world hnotes hemit htells hw (hr.failed notFound) k t
  rw [passedOn_apply, logFailure_of_tells l host hnotFound, hconclude]
  exact ⟨r', k', hr', rfl⟩

theorem startRequest_world (k : κ) (t : τ) : ∃ r k', Keeps l request r ∧
    l.startRequest host request (k, t) = (.ok r, (k', t)) := by
  have hopened : Keeps l request (l.opened host request (k, t)) := .opened ..
  obtain ⟨r, hok⟩ := Logger.startRequest_ok hnotes hemit (htells _ hopened)
  have hworld := hw.startRequest request (k, t)
  refine ⟨r, _, ?_, Prod.ext hok (Prod.ext rfl hworld)⟩
  cases hi : l.immediate with
  | false =>
    rw [Logger.startRequest_of_deferred l host hi] at hok
    rw [← Except.ok.inj hok]
    exact hopened.markHandling
  | true =>
    rw [Logger.startRequest_of_immediate l host hi] at hok
    obtain ⟨line, -, rfl⟩ := map_eq_ok.mp hok
    have hlogged : Keeps l request (l.opened host request (k, t)).markLogged :=
      hopened.of_same rfl rfl rfl
    exact hlogged.markHandling

variable (app : App τ) (server : StartResponse τ) {environ : Environ} (shown : String)

theorem call_world (hrequest : environ.request = .ok request)
    (happ : (app environ).StartsReadably Body.StartsReadably) (k : κ) (t : τ)
    (hbehaves : app.Behaves server environ t) :
    ∃ result k', (∀ p, result = .ok p → Keeps l request p.1) ∧
      (ofWorld app shown l).call host (server.seenBy .blind) environ (k, t) =
        (result, (k', (app.call server environ t).2)) ∧
      result.map Prod.snd = (app.call server environ t).1.map (Body.seenBy .blind) := by
  obtain ⟨r, k₁, hr, hstart⟩ := startRequest_world hnotes hemit htells hw k t
  obtain ⟨r₁, k₂, hr₁, hfinish⟩ := Process.finish_seenBy (forwards_startResponse l request server)
    .blind Empty.elim (Body.seenBy .blind) (app environ) happ r k₁ t hr
  have happ' : ((ofWorld app shown l).app environ).finish (startResponse (server.seenBy .blind))
      (r, (k₁, t)) = ((app.call server environ t).1.map (Body.seenBy .blind),
        (r₁, (k₂, (app.call server environ t).2))) := hfinish
  rw [call_of_started host (ofWorld app shown l) (server.seenBy .blind) hrequest hstart]
  unfold answer
  rcases hbare : app.call server environ t with ⟨f | body, t'⟩
  · have hf : f.tells = true := hbehaves.call f (congrArg Prod.fst hbare)
    obtain ⟨r', k', -, hpassed⟩ := passedOn_world hnotes hemit htells hw hf hr₁ k₂ t'
    have hlogger : passedOn (ofWorld app shown l).logger host f (r₁, (k₂, t')) =
        (f, (r', (k', t'))) := hpassed
    refine ⟨.error f, k', fun p hp => (nomatch hp), ?_, rfl⟩
    simp only [happ', hbare, Except.map, hlogger]
  · refine ⟨.ok ((Logger.afterHandle host (r₁, (k₂, t'))).2.1, body.seenBy .blind), k₂, ?_, ?_,
      rfl⟩
    · intro p hp
      rw [← Except.ok.inj hp, Logger.afterHandle, Logger.finish_apply]
      exact hr₁.finish _
    · simp only [happ', hbare, Except.map]
      rfl

theorem move_world {body : Body τ} (hb : body.StartsReadably) (hbehaves : body.Behaves server)
    {mv : Move τ} (hmv : mv ≠ .take (some 0)) {r : Record (κ × τ)} (hr : Keeps l request r) (k : κ)
    (t : τ) :
    ∃ r' k', Keeps l request r' ∧
      (ofWorld app shown l).move host (server.seenBy .blind) (body.seenBy .blind) mv.onHost
        (r, (k, t)) = ((body.move server mv t).1, (r', (k', (body.move server mv t).2))) := by
  have hlogger : (ofWorld app shown l).logger = l := rfl
  cases mv with
  | elapse change => exact ⟨r, k, hr, rfl⟩
  | close =>
    obtain ⟨result, r₁, k₁, hr₁, hshut, hbare⟩ := shut_world server hb hbehaves hr k t
    obtain ⟨line, r', k', hr', hconclude⟩ :=
      conclude_world hnotes hemit htells hw hr₁ k₁ (body.move server .close t).2
    refine ⟨r', k', hr', ?_⟩
    rw [Move.onHost, move, close_apply, hshut, hlogger, hconclude, hbare]
  | take demand =>
    have hd : demand ≠ some 0 := fun h => hmv (h ▸ rfl)
    obtain ⟨r₁, k₁, hr₁, hwalk⟩ := Body.walk_seenBy (forwards_startResponse l request server)
      .blind body hb demand r k t hr
    have hmove : body.move server (.take demand) t = ((body.walk server.alone demand ((), t)).1,
        (body.walk server.alone demand ((), t)).2.2) := rfl
    have hstops := hbehaves.take demand t
    rw [hmove] at hstops ⊢
    rw [Move.onHost, move]
    generalize body.walk server.alone demand ((), t) = walked at hwalk hstops ⊢
    obtain ⟨⟨chunks, stop⟩, u, t'⟩ := walked
    cases stop with
    | raised f =>
      obtain ⟨hf, hends⟩ := hstops f rfl
      obtain ⟨r', k', hr', hpassed⟩ := passedOn_world hnotes hemit htells hw hf hr₁ k₁ t'
      refine ⟨r', k', hr', ?_⟩
      rw [take_of_raised host _ _ _ hd hwalk, hlogger, hpassed, leaving, hends]
      rfl
    | ended => exact ⟨r₁, k₁, hr₁, take_of_quiet host _ _ _ hd hwalk (by simp)⟩
    | left => exact ⟨r₁, k₁, hr₁, take_of_quiet host _ _ _ hd hwalk (by simp)⟩

theorem follow_world {body : Body τ} (hb : body.StartsReadably) (hbehaves : body.Behaves server)
    {plan : Plan τ} (hasks : plan.Asks) {r : Record (κ × τ)} (hr : Keeps l request r) (k : κ)
    (t : τ) :
    (follow (ofWorld app shown l) host (server.seenBy .blind) (body.seenBy .blind) plan.onHost
        (r, (k, t))).map (fun reply => (reply.1, reply.2.2)) = body.follow server plan t := by
  -- the invariant is that the record stays one of the request that can be described
  induction plan generalizing r k t with
  | leave => rfl
  | make mv next ih =>
    obtain ⟨r', k', hr', hmove⟩ :=
      move_world hnotes hemit htells hw app server shown hb hbehaves hasks.1 hr k t
    rw [Plan.onHost, follow, hmove, List.map_cons, Body.follow]
    exact congrArg _ (ih _ _ (hasks.2 _ _) hr' k' _)

/-- An exchange has beside a log the course that it has alone. -/
theorem course_world (hrequest : environ.request = .ok request)
    (happ : (app environ).StartsReadably Body.StartsReadably) {plan : Plan τ} (hasks : plan.Asks)
    (k : κ) (t : τ) (hbehaves : app.Behaves server environ t) :
    ((ofWorld app shown l).course host (server.seenBy .blind) environ plan.onHost (k, t)).map
        Prod.snd = app.course server environ plan t := by
  obtain ⟨result, k', hkeeps, hcall, hresult⟩ :=
    call_world hnotes hemit htells hw app server shown hrequest happ k t hbehaves
  rw [course, App.course, hcall]
  rcases hbare : app.call server environ t with ⟨f | body, t'⟩
  · rw [hbare] at hresult
    cases result with
    | ok p => cases hresult
    | error g =>
      cases hresult
      rfl
  · rw [hbare] at hresult
    cases result with
    | error g => cases hresult
    | ok p =>
      obtain ⟨r, wrapped⟩ := p
      cases hresult
      have hb : body.StartsReadably := Process.result_of_finish happ (congrArg Prod.fst hbare)
      have hbody : body.Behaves server := hbehaves.body body (congrArg Prod.fst hbare)
      exact congrArg _ (follow_world hnotes hemit htells hw app server shown hb hbody hasks
        (hkeeps _ rfl) k' t')

end World

/-- Whatever the application and the server do, the exchange between them has the same course with
a logger in front of the application and without: the same starts come to the server, the
application is given the same for them, the writers with which it may write to the server among it,
the server is given the same chunks, the same failures come out at the same points, and the body of
the application is closed as often. The logger may log at any time, leave out any lines, and have
any extractors, if its emitter does not fail, notes are taken, and all that comes of records of the
request can be told. What it is given may look at the world of the application and the server, and
leaves it as it is. -/
theorem course_transparent (app : App τ) (server : StartResponse τ) (environ : Environ)
    (plan : Plan (List (Sight τ) × τ)) (shown : String) (l : Logger (κ × (List (Sight τ) × τ)))
    (host : Host (κ × (List (Sight τ) × τ))) (k : κ) (t : τ) (hnotes : host.TakesNotes)
    (hemit : ∀ snapshot line s, (l.emitter.emit snapshot line s).1 = .ok ())
    (hworld : l.Keeps Prod.snd host) (henviron : environ.Describes)
    (htells : ∀ request, environ.request = .ok request →
      ∀ r, Keeps l request r → l.Tells r.snapshot)
    (happ : (app environ).StartsReadably Body.StartsReadably)
    (hbehaves : app.Behaves server environ t) (hasks : plan.Asks) :
    ((ofWorld (app.seenBy .scribe) shown l).course host ((server.seenBy .scribe).seenBy .blind)
      environ
        plan.onHost (k, ([], t))).map Prod.snd =
      (app.seenBy .scribe).course (server.seenBy .scribe) environ plan ([], t) ∧
    ∀ plan : Plan τ, ((app.seenBy .scribe).course (server.seenBy .scribe) environ plan.onHost
        ([], t)).map Prod.snd = app.course server environ plan t := by
  obtain ⟨request, hrequest⟩ := henviron.request_ok
  have hseen : (app.seenBy Onlooker.scribe environ).StartsReadably Body.StartsReadably :=
    happ.seenBy fun body hb => hb.seenBy .scribe
  constructor
  · exact course_world hnotes hemit (htells request hrequest) hworld _ _ shown hrequest hseen hasks
      k _ (hbehaves.seenBy server happ .scribe [])
  · exact fun plan => App.course_seenBy server happ .scribe plan [] t

theorem restartingApp_readable :
    (PlainHost.restartingApp PlainHost.environ).StartsReadably Body.StartsReadably := by
  refine ⟨⟨⟨_, rfl⟩, _, rfl⟩, fun _ => ⟨⟨⟨⟨_, rfl⟩, _, rfl⟩, fun outcome => ?_⟩, fun p hp => ?_⟩⟩
  · cases outcome <;> trivial
  · cases hp
    trivial

theorem restartingApp_behaves :
    PlainHost.restartingApp.Behaves PlainHost.strictServer PlainHost.environ 0 where
  call f hf := nomatch hf
  body body hbody := by
    cases hbody
    refine ⟨fun v hv => (nomatch hv), fun demand s f hf => ?_⟩
    have hrefused : f = .host "AssertionError" [] .none := by
      have hstop : Stop.ofFault (.host "AssertionError" [] .none) =
          .raised (.host "AssertionError" [] .none) := rfl
      by_cases hs : s = 0
      all_goals
        rcases demand with _ | _ | _ | n
        all_goals
          simp [Body.move, Body.walk, Process.finish, Process.walk, StartResponse.alone,
            PlainHost.strictServer, hs, hstop] at hf
      all_goals exact hf.symm
    rw [hrefused]
    exact ⟨rfl, rfl⟩

theorem course_transparent_failing :
    let l : Logger (List String × (List (Sight Nat) × Nat)) := PlainHost.loggerBeside true
    let host : Host (List String × (List (Sight Nat) × Nat)) := PlainHost.hostBeside
    host.TakesNotes ∧ l.Keeps Prod.snd host ∧ PlainHost.environ.Describes ∧
    (∀ request, PlainHost.environ.request = .ok request →
      ∀ r, Keeps l request r → l.Tells r.snapshot) ∧
    (PlainHost.restartingApp PlainHost.environ).StartsReadably Body.StartsReadably ∧
    PlainHost.restartingApp.Behaves PlainHost.strictServer PlainHost.environ 0 ∧
    let headers := HeaderSource.parts [[.text "Content-Length", .text "1"]]
    let refusal := Fault.host "AssertionError" [] .none
    let sights := [Sight.start (.text "200 OK") headers .null, .outcome (.ok .missing)]
    let later := sights ++ [.chunk (.octets [104]), .start (.text "500 Oops") (.parts []) .null,
      .outcome (.error refusal)]
    ((ofWorld (PlainHost.restartingApp.seenBy .scribe) "<application>" l).course host
        ((PlainHost.strictServer.seenBy .scribe).seenBy .blind) PlainHost.environ
        (.make (.take none) fun _ _ => .make .close fun _ _ => .leave)
        ([], ([], 0))).map Prod.snd =
      ⟨(.ok (), (sights, 1)), [(([.octets [104]], .raised refusal), (later, 2)),
        (([], .raised .formatUndefined), (later ++ [.close], 2))]⟩ := by
  intro l host
  have hworld : l.Keeps Prod.snd host := {
    notes := ⟨fun _ _ _ _ => rfl, fun _ _ => rfl⟩
    emits := fun _ _ _ => rfl
    extracts := fun b hb _ _ _ => by
      obtain rfl := List.mem_singleton.mp hb
      rfl
    asks := fun p hp _ _ => by
      cases hp
      rfl }
  have htells : ∀ request, PlainHost.environ.request = .ok request →
      ∀ r, Keeps l request r → l.Tells r.snapshot := by
    intro request hrequest r hr
    obtain ⟨known, hknown, hshown⟩ : ∃ known, PlainHost.environ.request = .ok known ∧
        ∃ shown, known.literal = .ok shown := ⟨_, rfl, _, rfl⟩
    obtain rfl : known = request := Except.ok.inj (hknown.symm.trans hrequest)
    have hliteral : r.snapshot.HasLiteral := by
      intro s
      refine Snapshot.exists_literal_iff.mpr ⟨?_, hr.status, ?_⟩
      · rw [show r.snapshot.request = r.request from rfl, hr.request]
        exact hshown
      · rw [Snapshot.optionsLiteral, show r.snapshot.options = r.options from rfl, hr.options]
        exact ⟨_, rfl⟩
    have hfault : (Argument.fault .formatUndefined).HasLiteral := Fault.hasLiteral_of_isOwn trivial
    refine ⟨fun p hp s fault hf => ?_, fun b hb s fault hf => ?_, fun b hb s v hv => ?_⟩
    · cases hp
      cases hf
      exact ⟨hfault, _, rfl⟩
    · obtain rfl := List.mem_singleton.mp hb
      cases hf
      exact ⟨hfault, hliteral⟩
    · obtain rfl := List.mem_singleton.mp hb
      cases hv
  have hcourse :=
    (course_transparent PlainHost.restartingApp PlainHost.strictServer PlainHost.environ
    (.make (.take none) fun _ _ => .make .close fun _ _ => .leave) "<application>" l host [] 0
    PlainHost.takesNotes_beside (fun _ _ _ => rfl) hworld PlainHost.environ_describes htells
    restartingApp_readable restartingApp_behaves
    ⟨by simp, fun _ _ => ⟨by simp, fun _ _ => trivial⟩⟩).1
  exact ⟨PlainHost.takesNotes_beside, hworld, PlainHost.environ_describes, htells,
    restartingApp_readable, restartingApp_behaves, hcourse.trans rfl⟩

/-- A logger beside a world that has no predicate and shows the value of one token. -/
def valueLogger (immediate : Bool) (act : Action (List String × Nat) Value) :
    Logger (List String × Nat) :=
  { PlainHost.loggerBeside immediate with formatter := PlainHost.tokenFormatter act, skip := none }

/-- What a server sees of an exchange: what comes of the call, and of its moves. -/
abbrev Reply := Except Fault Unit × List (List Value × Stop)

def reply (c : Course σ) : Reply :=
  (c.call.1, c.moves.map Prod.fst)

/-- What a server that makes one move sees of an exchange with a logger in front of an application,
and of the exchange with the application alone. -/
def replies (l : Logger (List String × Nat)) (app : Process Nat Empty (Body Nat)) (mv : Move Nat) :
    Reply × Reply :=
  let plan : Plan Nat := .make mv fun _ _ => .leave
  (reply ((ofWorld (fun _ => app) "<application>" l).course PlainHost.hostBeside
      (PlainHost.strictServer.seenBy .blind) PlainHost.environ plan.onHost ([], 0)),
    reply (App.course (fun _ => app) PlainHost.strictServer PlainHost.environ plan 0))

/-- A process that starts a response, fails if that is refused, and returns a body without
chunks. -/
def starting (status : Value) (headers : HeaderSource) : Process Nat Empty (Body Nat) :=
  .start status headers .null fun
    | .ok _ => .done ⟨.done (.done ()), .missing⟩
    | .error f => .fail f

/-- Without one of its conditions the course is not transparent. The server sees a difference at a
body that is closed by no call, at one that it opens for no chunk, and at one that tells the end of
an iteration when it is opened; at a failure that refuses its code; at a header without a text, and
at a status that cannot be described with the failure of an extractor; and at a logger whose
extractor gives a value without a text, fails so that it cannot be noted, or changes the world. -/
theorem course_not_transparent :
    let plain := valueLogger true (Action.done .null)
    let atOnce : Fault := .host "StopIteration" [] .none
    let mute : Fault := .refused PlainHost.refusal
    let bare : Reply := (.ok (), [([], .ended)])
    (PlainHost.hostBeside : Host (List String × Nat)).TakesNotes ∧
    PlainHost.environ.Describes ∧
    (∀ immediate act snapshot line s,
      ((valueLogger immediate act).emitter.emit snapshot line s).1 = .ok ()) ∧
    replies plain (.done ⟨.done (.done ()), .value (.text "closed")⟩) .close =
      ((.ok (), [([], .ended)]), (.ok (), [([], .raised (.notCallable "str"))])) ∧
    replies plain (.done (.ofValue (.int 5))) (.take (some 0)) =
      ((.ok (), [([], .left)]), (.ok (), [([], .raised (.notIterable "int"))])) ∧
    replies plain (.done ⟨.fail atOnce, .missing⟩) (.take none) =
      ((.ok (), [([], .raised .stoppedInside)]), (.ok (), [([], .raised atOnce)])) ∧
    replies plain (.fail PlainHost.unreadable) .close =
      ((.error mute, []), (.error PlainHost.unreadable, [])) ∧
    replies plain (starting (.text "200 OK") (.parts [[.text "X", PlainHost.mute]])) .close =
      ((.error mute, []), bare) ∧
    replies (valueLogger false (Action.fail .formatUndefined))
      (starting PlainHost.mute (.parts [])) .close = ((.ok (), [([], .raised mute)]), bare) ∧
    replies (valueLogger true (Action.done PlainHost.mute)) (starting (.text "200 OK") (.parts []))
      .close = ((.error mute, []), bare) ∧
    replies (valueLogger true (Action.fail PlainHost.secret))
      (starting (.text "200 OK") (.parts [])) .close = ((.error mute, []), bare) ∧
    replies (valueLogger true fun w => (.ok .null, (w.1, w.2 + 1)))
      (starting (.text "200 OK") (.parts [])) .close =
        ((.error (.host "AssertionError" [] .none), []), bare) :=
  ⟨PlainHost.takesNotes_beside, PlainHost.environ_describes, fun _ _ _ _ _ => rfl, rfl, rfl, rfl,
    rfl, rfl, rfl, rfl, rfl, rfl⟩

end Middleware

end RequestLog
