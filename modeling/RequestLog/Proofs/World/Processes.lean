import RequestLog.Proofs.Watch.Gateway

/-!
Applications and servers beside an onlooker. They live in the world alone; an onlooker keeps
something beside the world, which changes with what it sees of them and which they do not see. What
they do to the world, and what they see of one another, is the same whoever looks on. That goes for
the writers, too, by which an application writes to its server.
-/
namespace RequestLog

variable {ρ κ τ γ α β : Type}

/-- What an onlooker keeps, as it changes with what an application and its server see of one
another. -/
structure Onlooker (κ τ : Type) where
  /-- The server is told to start the response. -/
  start : Value → HeaderSource → Value → κ → κ
  /-- The application is told what came of a start. -/
  outcome : Except Fault (Writer τ) → κ → κ
  /-- The server is given a chunk. -/
  chunk : Value → κ → κ
  /-- The body of the application is closed. -/
  close : κ → κ

/-- An onlooker that sees nothing. -/
def Onlooker.blind : Onlooker κ τ :=
  ⟨fun _ _ _ k => k, fun _ k => k, fun _ k => k, fun k => k⟩

def StartResponse.seenBy (o : Onlooker κ τ) (server : StartResponse τ) : StartResponse (κ × τ) :=
  fun status headers trouble w =>
    ((server status headers trouble w.2).1.map Writer.onHost,
      (o.start status headers trouble w.1, (server status headers trouble w.2).2))

namespace Process

/-- A process beside an onlooker, who changes what it keeps by `given` with each chunk. It is given
the writers as they are in the world. -/
def seenBy (o : Onlooker κ τ) (given : γ → κ → κ) (f : α → β) : Process τ γ α → Process (κ × τ) γ β
  | done a => done (f a)
  | fail fault => fail fault
  | chunk c next =>
    touch (Action.change fun w => (given c w.1, w.2)) fun _ _ => chunk c (next.seenBy o given f)
  | start status headers trouble next =>
    touch (Action.done ()) fun _ v =>
      start status headers trouble fun outcome =>
        let outcome := outcome.map (Writer.alone v.1)
        touch (Action.change fun w => (o.outcome outcome w.1, w.2)) fun _ _ =>
          (next outcome).seenBy o given f
  | touch act next => touch (Action.onHost act) fun r w => (next r w.2).seenBy o given f

/-- Whether a log can read how a response is started: the headers are pairs that have texts, and
what is kept of the status has a literal. -/
structure Readable (status : Value) (headers : HeaderSource) : Prop where
  headers : ∃ pairs, headers.texts = .ok pairs
  status : ∃ shown, (parseStatus status).literal = .ok shown

/-- Whether a process starts the response as a log can read it, whatever comes of its starts and of
what it does to the world, and gives a result of a kind if it gives one. -/
def StartsReadably (onResult : α → Prop) : Process τ γ α → Prop
  | done a => onResult a
  | fail _ => True
  | chunk _ next => next.StartsReadably onResult
  | start status headers _ next =>
    Readable status headers ∧ ∀ outcome, (next outcome).StartsReadably onResult
  | touch _ next => ∀ r t, (next r t).StartsReadably onResult

theorem StartsReadably.seenBy {o : Onlooker κ τ} {given : γ → κ → κ} {f : α → β}
    {onResult : α → Prop} {onSeen : β → Prop} (hf : ∀ a, onResult a → onSeen (f a))
    {p : Process τ γ α} (hp : p.StartsReadably onResult) :
    (p.seenBy o given f).StartsReadably onSeen := by
  induction p with
  | done a => exact hf a hp
  | fail fault => exact hp
  | chunk c next ih => exact fun _ _ => ih hp
  | start status headers trouble next ih =>
    exact fun _ _ => ⟨hp.1, fun outcome _ _ => ih _ (hp.2 _)⟩
  | touch act next ih => exact fun r w => ih r w.2 (hp r w.2)

theorem result_of_finish {onResult : α → Prop} {p : Process τ Empty α}
    (hp : p.StartsReadably onResult) {onStart : StartResponse τ (ρ × τ)} {w : ρ × τ} {a : α}
    (h : (p.finish onStart w).1 = .ok a) : onResult a := by
  induction p generalizing w with
  | done b =>
    cases h
    exact hp
  | fail fault => cases h
  | chunk c next ih => exact c.elim
  | start status headers trouble next ih => exact ih _ (hp.2 _) h
  | touch act next ih => exact ih _ _ (hp _ _) h

end Process

namespace Body

def seenBy (o : Onlooker κ τ) (body : Body τ) : Body (κ × τ) where
  opening := body.opening.seenBy o Empty.elim (Process.seenBy o o.chunk id)
  close := body.close.map fun p =>
    .touch (Action.change fun w => (o.close w.1, w.2)) fun _ _ => p.seenBy o Empty.elim id

/-- Whether a body starts the response as a log can read it, whenever it does. -/
structure StartsReadably (body : Body τ) : Prop where
  opening : body.opening.StartsReadably fun chunks => chunks.StartsReadably fun _ => True
  close : ∀ p, body.close = .able p → p.StartsReadably fun _ => True

theorem close_seenBy_eq_able {body : Body τ} {o : Onlooker κ τ} {q : Process (κ × τ) Empty Unit}
    (h : (body.seenBy o).close = .able q) : ∃ p, body.close = .able p ∧
      q = .touch (Action.change fun w => (o.close w.1, w.2)) fun _ _ => p.seenBy o Empty.elim
      id := by
  rw [seenBy] at h
  cases hc : body.close with
  | able p =>
    rw [hc] at h
    cases h
    exact ⟨p, rfl, rfl⟩
  | missing =>
    rw [hc] at h
    cases h
  | value v =>
    rw [hc] at h
    cases h

theorem StartsReadably.seenBy {body : Body τ} (h : body.StartsReadably) (o : Onlooker κ τ) :
    (body.seenBy o).StartsReadably where
  opening := h.opening.seenBy fun _ hchunks => hchunks.seenBy fun _ _ => trivial
  close q hq := by
    obtain ⟨p, hp, rfl⟩ := close_seenBy_eq_able hq
    exact fun _ _ => (h.close p hp).seenBy fun _ _ => trivial

end Body

def App.seenBy (o : Onlooker κ τ) (app : App τ) : App (κ × τ) := fun environ =>
  (app environ).seenBy o Empty.elim (Body.seenBy o)

/-- A move of a server that leaves alone what is kept beside the world. -/
def Move.onHost : Move τ → Move (κ × τ)
  | take demand => take demand
  | close => close
  | elapse change => elapse fun w => (w.1, change w.2)

/-- Whether starts that can be read are passed on to a server as they are, and what comes of them
is passed back, while an invariant is kept. -/
def StartResponse.Forwards (I : ρ → Prop) (onStart : StartResponse (κ × τ) (ρ × (κ × τ)))
    (server : StartResponse τ) : Prop :=
  ∀ status headers trouble, Process.Readable status headers → ∀ r k t, I r → ∃ r' k', I r' ∧
    onStart status headers trouble (r, (k, t)) =
      ((server status headers trouble t).1.map Writer.onHost,
        (r', (k', (server status headers trouble t).2)))

theorem StartResponse.forwards_alone (o : Onlooker κ τ) (server : StartResponse τ) :
    (server.seenBy o).alone.Forwards (fun _ => True) server :=
  fun _ _ _ _ _ _ _ _ => ⟨_, _, trivial, rfl⟩

namespace Process

variable {I : ρ → Prop} {onStart : StartResponse (κ × τ) (ρ × (κ × τ))} {server : StartResponse τ}
  {onResult : α → Prop}

/-- A process does beside an onlooker what it does alone. -/
theorem finish_seenBy (h : onStart.Forwards I server) (o : Onlooker κ τ) (given : Empty → κ → κ)
    (f : α → β) (p : Process τ Empty α) (hp : p.StartsReadably onResult) (r : ρ) (k : κ) (t : τ)
    (hr : I r) :
    ∃ r' k', I r' ∧ (p.seenBy o given f).finish onStart (r, (k, t)) =
      ((p.finish server.alone ((), t)).1.map f,
        (r', (k', (p.finish server.alone ((), t)).2.2))) := by
  induction p generalizing r k t with
  | done a => exact ⟨r, k, hr, rfl⟩
  | fail fault => exact ⟨r, k, hr, rfl⟩
  | chunk c next ih => exact c.elim
  | start status headers trouble next ih =>
    obtain ⟨r₁, k₁, hr₁, hstart⟩ := h status headers trouble hp.1 r k t hr
    simp only [seenBy, finish, Action.done_apply, hstart, Writer.map_alone_onHost]
    exact ih _ (hp.2 _) r₁ _ (server status headers trouble t).2 hr₁
  | touch act next ih => exact ih _ _ (hp _ _) r k (act t).2 hr

/-- So does a walk through a process. -/
theorem walk_seenBy (h : onStart.Forwards I server) (o : Onlooker κ τ) (given : γ → κ → κ)
    (p : Process τ γ Unit) (hp : p.StartsReadably fun _ => True) (demand : Option Nat) (r : ρ)
    (k : κ) (t : τ) (hr : I r) :
    ∃ r' k', I r' ∧ (p.seenBy o given id).walk onStart demand (r, (k, t)) =
      ((p.walk server.alone demand ((), t)).1,
        (r', (k', (p.walk server.alone demand ((), t)).2.2))) := by
  -- nothing is seen any more of a walk from which no chunk is asked for
  by_cases hd : demand = some 0
  · rw [hd, walk_zero, walk_zero]
    exact ⟨r, k, hr, rfl⟩
  induction p generalizing demand r k t with
  | done a => rcases demand with _ | _ | n <;> exact ⟨r, k, hr, rfl⟩
  | fail fault => rcases demand with _ | _ | n <;> exact ⟨r, k, hr, rfl⟩
  | chunk c next ih =>
    rw [seenBy, walk_touch hd, walk_chunk hd, walk_chunk hd]
    by_cases hlast : demand.map (· - 1) = some 0
    · rw [hlast, walk_zero, walk_zero]
      exact ⟨r, _, hr, rfl⟩
    · obtain ⟨r', k', hr', hrest⟩ := ih hp _ r (given c k) t hr hlast
      rw [Action.change_apply, hrest]
      exact ⟨r', k', hr', rfl⟩
  | start status headers trouble next ih =>
    obtain ⟨r₁, k₁, hr₁, hstart⟩ := h status headers trouble hp.1 r k t hr
    rw [seenBy, walk_touch hd, Action.done_apply, walk_start hd, walk_start hd, hstart,
      walk_touch hd, Writer.map_alone_onHost]
    exact ih _ (hp.2 _) demand r₁ _ (server status headers trouble t).2 hr₁ hd
  | touch act next ih =>
    rw [seenBy, walk_touch hd, walk_touch hd]
    exact ih _ _ (hp _ _) demand r k (act t).2 hr hd

end Process

/-- And so does a walk through a body, from its opening on. -/
theorem Body.walk_seenBy {I : ρ → Prop} {onStart : StartResponse (κ × τ) (ρ × (κ × τ))}
    {server : StartResponse τ} (h : onStart.Forwards I server) (o : Onlooker κ τ) (body : Body τ)
    (hb : body.StartsReadably) (demand : Option Nat) (r : ρ) (k : κ) (t : τ) (hr : I r) :
    ∃ r' k', I r' ∧ (body.seenBy o).walk onStart demand (r, (k, t)) =
      ((body.walk server.alone demand ((), t)).1,
        (r', (k', (body.walk server.alone demand ((), t)).2.2))) := by
  obtain ⟨r₁, k₁, hr₁, hopening⟩ := Process.finish_seenBy h o Empty.elim
    (Process.seenBy o o.chunk id) body.opening hb.opening r k t hr
  rcases ho : body.opening.finish server.alone ((), t) with ⟨f | chunks, u, t₁⟩
  · rw [ho] at hopening
    rw [walk_of_refused body ho, walk_of_refused (body.seenBy o) hopening]
    exact ⟨r₁, k₁, hr₁, rfl⟩
  · rw [ho] at hopening
    have hchunks := Process.result_of_finish hb.opening (congrArg Prod.fst ho)
    rw [walk_of_opened body ho, walk_of_opened (body.seenBy o) hopening]
    exact Process.walk_seenBy h o o.chunk chunks hchunks demand r₁ k₁ t₁ hr₁

end RequestLog
