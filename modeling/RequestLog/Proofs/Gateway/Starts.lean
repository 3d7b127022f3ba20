import RequestLog.Proofs.Watch.Gateway

/-!
The starts of a response. Whatever an application does, the record that a middleware keeps of its
request holds the status of the last start that the application has made, and the headers of the
last one whose headers could be read. That a start fails, because of its headers or because the
server refuses it, does not take its status back.
-/
namespace RequestLog

/-- A start of the response that an application has made, with what came of it. -/
structure Start where
  status : Value
  headers : HeaderSource
  outcome : Except Fault Unit

namespace Start

def returned (c : Start) : Bool :=
  c.outcome.isOk

def headers? (c : Start) : Option Headers :=
  (Headers.normalize c.headers).toOption

/-- The status that starts have left: that of the last one. -/
def statusOf (starts : List Start) : Value :=
  starts.getLast?.elim .null fun c => parseStatus c.status

/-- The headers that starts have left: those of the last one that has any. -/
def headersOf (starts : List Start) : Headers :=
  (starts.filterMap headers?).getLast?.getD Table.empty

end Start

/-- What is kept of a process, with starts beside it. -/
def adding {ρ σ : Type} (starts : List Start) (w : ρ × σ) : (List Start × ρ) × σ :=
  ((starts, w.1), w.2)

/-- A start with what came of it, but for what is given back. -/
def Start.of {σ : Type} (status : Value) (headers : HeaderSource)
    (given : Except Fault (Writer σ)) : Start :=
  ⟨status, headers, given.map fun _ => ()⟩

/-- Starts that are put down in their order. -/
def StartResponse.recorded {ρ σ : Type} (onStart : StartResponse σ (ρ × σ)) :
    StartResponse σ ((List Start × ρ) × σ) :=
  fun status headers trouble w =>
    let r := onStart status headers trouble (w.1.2, w.2)
    (r.1, adding (w.1.1 ++ [.of status headers r.1]) r.2)

namespace Process

variable {ρ σ γ α : Type} {onStart : StartResponse σ (ρ × σ)} {J : ρ → Prop}

/-- What every start preserves is preserved by a process. -/
theorem finish_invariant (h : ∀ status headers trouble w, J w.1 →
      J (onStart status headers trouble w).2.1)
    (p : Process σ Empty α) (w : ρ × σ) (hw : J w.1) : J (p.finish onStart w).2.1 := by
  induction p generalizing w with
  | done a => exact hw
  | fail f => exact hw
  | chunk c next ih => exact c.elim
  | start status headers trouble next ih =>
    rw [finish]
    exact ih _ _ (h status headers trouble w hw)
  | touch act next ih => exact ih (act w.2).1 (act w.2).2 (w.1, (act w.2).2) hw

/-- What every start preserves is preserved by a walk through a process. -/
theorem walk_invariant (h : ∀ status headers trouble w, J w.1 →
      J (onStart status headers trouble w).2.1)
    (p : Process σ γ Unit) (demand : Option Nat) (w : ρ × σ) (hw : J w.1) :
    J (p.walk onStart demand w).2.1 := by
  induction p generalizing w demand with
  | done a => rcases demand with _ | _ | n <;> exact hw
  | fail f => rcases demand with _ | _ | n <;> exact hw
  | chunk c next ih =>
    by_cases hd : demand = some 0
    · rwa [hd, walk_zero]
    · rw [walk_chunk hd]
      exact ih _ w hw
  | start status headers trouble next ih =>
    by_cases hd : demand = some 0
    · rwa [hd, walk_zero]
    · rw [walk_start hd]
      exact ih _ _ _ (h status headers trouble w hw)
  | touch act next ih =>
    by_cases hd : demand = some 0
    · rwa [hd, walk_zero]
    · rw [walk_touch hd]
      exact ih (act w.2).1 (act w.2).2 demand (w.1, (act w.2).2) hw

def starts (onStart : StartResponse σ (ρ × σ)) (p : Process σ Empty α) (w : ρ × σ) : List Start :=
  (p.finish onStart.recorded (adding [] w)).2.1.1

def startsIn (onStart : StartResponse σ (ρ × σ)) (p : Process σ γ Unit) (demand : Option Nat)
    (w : ρ × σ) : List Start :=
  (p.walk onStart.recorded demand (adding [] w)).2.1.1

/-- Putting starts down changes nothing else. -/
theorem finish_recorded (p : Process σ Empty α) (earlier : List Start) (w : ρ × σ) :
    p.finish onStart.recorded (adding earlier w) =
      ((p.finish onStart w).1, adding (earlier ++ p.starts onStart w) (p.finish onStart w).2) := by
  -- what is put down does not depend on what has been put down before
  have hmore : ∃ more, ∀ earlier, p.finish onStart.recorded (adding earlier w) =
      ((p.finish onStart w).1, adding (earlier ++ more) (p.finish onStart w).2) := by
    induction p generalizing w with
    | done a => exact ⟨[], fun earlier => by rw [List.append_nil]; rfl⟩
    | fail f => exact ⟨[], fun earlier => by rw [List.append_nil]; rfl⟩
    | chunk c next ih => exact c.elim
    | start status headers trouble next ih =>
      obtain ⟨more, hmore⟩ := ih (onStart status headers trouble w).1
        (onStart status headers trouble w).2
      refine ⟨Start.of status headers (onStart status headers trouble w).1 :: more,
        fun earlier => ?_⟩
      rw [List.append_cons]
      exact hmore _
    | touch act next ih => exact ih (act w.2).1 (act w.2).2 (w.1, (act w.2).2)
  obtain ⟨more, hmore⟩ := hmore
  have hstarts : p.starts onStart w = more := by
    rw [starts, hmore]
    rfl
  rw [hmore, hstarts]

theorem walk_recorded (p : Process σ γ Unit) (demand : Option Nat) (earlier : List Start)
    (w : ρ × σ) :
    p.walk onStart.recorded demand (adding earlier w) =
      ((p.walk onStart demand w).1,
        adding (earlier ++ p.startsIn onStart demand w) (p.walk onStart demand w).2) := by
  have hmore : ∃ more, ∀ earlier, p.walk onStart.recorded demand (adding earlier w) =
      ((p.walk onStart demand w).1, adding (earlier ++ more) (p.walk onStart demand w).2) := by
    induction p generalizing w demand with
    | done a =>
      refine ⟨[], fun earlier => ?_⟩
      rw [List.append_nil]
      rcases demand with _ | _ | n <;> rfl
    | fail f =>
      refine ⟨[], fun earlier => ?_⟩
      rw [List.append_nil]
      rcases demand with _ | _ | n <;> rfl
    | chunk c next ih =>
      by_cases hd : demand = some 0
      · exact ⟨[], fun earlier => by rw [hd, walk_zero, walk_zero, List.append_nil]⟩
      · obtain ⟨more, hmore⟩ := ih (demand.map (· - 1)) w
        refine ⟨more, fun earlier => ?_⟩
        rw [walk_chunk hd, walk_chunk hd, hmore]
    | start status headers trouble next ih =>
      by_cases hd : demand = some 0
      · exact ⟨[], fun earlier => by rw [hd, walk_zero, walk_zero, List.append_nil]⟩
      · obtain ⟨more, hmore⟩ := ih (onStart status headers trouble w).1 demand
          (onStart status headers trouble w).2
        refine ⟨Start.of status headers (onStart status headers trouble w).1 :: more,
          fun earlier => ?_⟩
        rw [walk_start hd, walk_start hd, List.append_cons]
        exact hmore _
    | touch act next ih =>
      by_cases hd : demand = some 0
      · exact ⟨[], fun earlier => by rw [hd, walk_zero, walk_zero, List.append_nil]⟩
      · obtain ⟨more, hmore⟩ := ih (act w.2).1 (act w.2).2 demand (w.1, (act w.2).2)
        refine ⟨more, fun earlier => ?_⟩
        rw [walk_touch hd, walk_touch hd]
        exact hmore earlier
  obtain ⟨more, hmore⟩ := hmore
  have hstarts : p.startsIn onStart demand w = more := by
    rw [startsIn, hmore]
    rfl
  rw [hmore, hstarts]

end Process

namespace Body

variable {ρ σ : Type} {onStart : StartResponse σ (ρ × σ)} {J : ρ → Prop}

/-- What every start preserves is preserved by a walk through a body, from its opening on. -/
theorem walk_invariant (h : ∀ status headers trouble w, J w.1 →
      J (onStart status headers trouble w).2.1)
    (body : Body σ) (demand : Option Nat) (w : ρ × σ) (hw : J w.1) :
    J (body.walk onStart demand w).2.1 := by
  have hopened := Process.finish_invariant h body.opening w hw
  rcases ho : body.opening.finish onStart w with ⟨f | chunks, v⟩
  · rw [ho] at hopened
    rwa [walk_of_refused body ho]
  · rw [ho] at hopened
    rw [walk_of_opened body ho]
    exact Process.walk_invariant h chunks demand v hopened

/-- The starts of a walk through a body, those of its opening before those of its chunks. -/
def startsIn (onStart : StartResponse σ (ρ × σ)) (body : Body σ) (demand : Option Nat)
    (w : ρ × σ) :
    List Start :=
  (body.walk onStart.recorded demand (adding [] w)).2.1.1

theorem walk_recorded (body : Body σ) (demand : Option Nat) (earlier : List Start) (w : ρ × σ) :
    body.walk onStart.recorded demand (adding earlier w) =
      ((body.walk onStart demand w).1,
        adding (earlier ++ body.startsIn onStart demand w) (body.walk onStart demand w).2) := by
  have hopening (earlier : List Start) :
      body.opening.finish onStart.recorded (adding earlier w) = _ :=
    Process.finish_recorded body.opening earlier w
  rw [startsIn]
  rcases ho : body.opening.finish onStart w with ⟨f | chunks, v⟩
  · rw [ho] at hopening
    rw [walk_of_refused body (hopening earlier), walk_of_refused body (hopening []),
      walk_of_refused body ho]
    rfl
  · rw [ho] at hopening
    rw [walk_of_opened body (hopening earlier), walk_of_opened body (hopening []),
      walk_of_opened body ho, Process.walk_recorded, Process.walk_recorded, List.nil_append,
      List.append_assoc]
    rfl

end Body

namespace Middleware

variable {σ : Type} {starts : List Start} {r : Record σ}

/-- A record holds what starts have left. -/
structure Told (starts : List Start) (r : Record σ) : Prop where
  status : r.response.status = Start.statusOf starts
  headers : r.response.headers = Start.headersOf starts
  readable : ∀ c ∈ starts, c.returned = true → ∃ h, c.headers? = some h

theorem told_nil (request : Request) (options : Option (Options σ)) (now : ClockReading) :
    Told [] (Record.start request Response.initial options now) where
  status := rfl
  headers := rfl
  readable _ h := nomatch h

/-- A start leaves its status in the record, and its headers if they can be read. -/
theorem Told.start (h : Told starts r) (server : StartResponse σ) (status : Value)
    (headers : HeaderSource) (trouble : Value) (s : σ) :
    Told (starts ++ [.of status headers (startResponse server status headers trouble (r, s)).1])
      (startResponse server status headers trouble (r, s)).2.1 := by
  have hstatus : ∀ given : Except Fault (Writer σ),
      Start.statusOf (starts ++ [.of status headers given]) = parseStatus status := by
    intro given
    rw [Start.statusOf, List.getLast?_concat]
    rfl
  rw [startResponse_apply]
  cases hn : Headers.normalize headers with
  | error f =>
    -- the headers stay those of the starts before, and the status does not
    have hnone : (Start.of status headers (.error f : Except Fault (Writer σ))).headers? =
        none := by
      rw [Start.headers?, Start.of, hn]
      rfl
    refine ⟨(hstatus _).symm, ?_, fun c hc hreturned => ?_⟩
    · rw [Start.headersOf, List.filterMap_append, List.filterMap_cons_none hnone,
        List.filterMap_nil, List.append_nil]
      exact h.headers
    · rcases List.mem_append.mp hc with hc | hc
      · exact h.readable c hc hreturned
      · rw [List.mem_singleton.mp hc] at hreturned
        cases hreturned
  | ok normal =>
    have hsome : ∀ given : Except Fault (Writer σ),
        (Start.of status headers given).headers? = some normal := by
      intro given
      rw [Start.headers?, Start.of, hn]
      rfl
    refine ⟨(hstatus _).symm, ?_, fun c hc hreturned => ?_⟩
    · rw [Start.headersOf, List.filterMap_append, List.filterMap_cons_some (hsome _),
        List.filterMap_nil, List.getLast?_concat]
      rfl
    · rcases List.mem_append.mp hc with hc | hc
      · exact h.readable c hc hreturned
      · rw [List.mem_singleton.mp hc]
        exact ⟨normal, hsome _⟩

variable (server : StartResponse σ)

theorem told_recorded (status : Value) (headers : HeaderSource) (trouble : Value)
    (w : (List Start × Record σ) × σ) (h : Told w.1.1 w.1.2) :
    Told ((startResponse server).recorded status headers trouble w).2.1.1
      ((startResponse server).recorded status headers trouble w).2.1.2 :=
  h.start server status headers trouble w.2

variable {server}

theorem Told.finish {α : Type} {w : Record σ × σ} (h : Told starts w.1) (p : Process σ Empty α) :
    Told (starts ++ p.starts (startResponse server) w)
    (p.finish (startResponse server) w).2.1 := by
  have hrun := p.finish_invariant (J := fun v => Told v.1 v.2) (told_recorded server)
    (adding starts w) h
  rwa [Process.finish_recorded] at hrun

theorem Told.walk {w : Record σ × σ} (h : Told starts w.1) (body : Body σ) (demand : Option Nat) :
    Told (starts ++ body.startsIn (startResponse server) demand w)
      (body.walk (startResponse server) demand w).2.1 := by
  have hrun := body.walk_invariant (J := fun v => Told v.1 v.2) (told_recorded server) demand
    (adding starts w) h
  rwa [Body.walk_recorded] at hrun

end Middleware

end RequestLog
