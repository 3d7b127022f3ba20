import RequestLog.Proofs.Format.Rendering

/-!
Actions that leave something as it is. What is left as it is may be any view of the state, such as
the world beside the log or what a stream has taken so far.
-/
namespace RequestLog

variable {σ ω α β : Type} {view : σ → ω}

/-- Whether an action leaves a view of the state as it is. -/
def Action.Keeps (view : σ → ω) (act : Action σ α) : Prop :=
  ∀ s, view (act s).2 = view s

namespace Action.Keeps

variable {act : Action σ α} {next : α → Action σ β}

theorem done (a : α) : Keeps view (Action.done a) := fun _ => rfl

theorem fail (f : Fault) : Keeps view (Action.fail f : Action σ α) := fun _ => rfl

theorem ofExcept (r : Except Fault α) : Keeps view (Action.ofExcept r) := by
  cases r with
  | ok a => exact done a
  | error f => exact fail f

theorem look (f : σ → α) : Keeps view (Action.look f) := fun _ => rfl

theorem attempt (h : act.Keeps view) : act.attempt.Keeps view := h

theorem andThen (h : act.Keeps view) (hn : ∀ a, (next a).Keeps view) :
    (act.andThen next).Keeps view := by
  intro s
  rcases hs : act s with ⟨f | a, t⟩
  · rw [andThen_of_error hs, ← h s, hs]
  · rw [andThen_of_ok hs, hn a t, ← h s, hs]

end Action.Keeps

/-- A host in which noting leaves a view of the state as it is. -/
structure Host.Keeps (view : σ → ω) (host : Host σ) : Prop where
  receives : ∀ handler name text, (host.receive handler name text).Keeps view
  boards : ∀ board s, view (host.setBoard board s) = view s

namespace Host.Keeps

variable {host : Host σ}

theorem currentBoard (h : host.Keeps view) : host.currentBoard.Keeps view := by
  intro s
  unfold Host.currentBoard
  cases host.board s with
  | none => exact h.boards Board.empty s
  | some b => rfl

theorem deliver (h : host.Keeps view) (name : String) (text : Text.Wide)
    (handlers : List HandlerOffer) :
    (host.deliver name text handlers).Keeps view := by
  induction handlers with
  | nil => exact .done ()
  | cons offer rest ih =>
    cases offer with
    | handler handler => exact (h.receives handler name text).andThen fun _ => ih
    | value v => exact .fail _

theorem note (h : host.Keeps view) (name message : String) (args : List Argument) :
    (host.note name message args).Keeps view := by
  refine h.currentBoard.andThen fun board => ?_
  split
  · exact .done ()
  · exact (Action.Keeps.ofExcept _).andThen fun text => h.deliver name text board.handlers

end Host.Keeps

namespace Formatter

variable {host : Host σ}

theorem noteFailure_keeps (h : host.Keeps view) (key : String) (snapshot : Snapshot σ)
    (fault : Fault) : (noteFailure host key snapshot fault).Keeps view :=
  (Action.Keeps.look snapshot.literal).andThen fun _ => h.note _ _ _

theorem resolveOne_keeps (h : host.Keeps view) (snapshot : Snapshot σ)
    {b : Binding σ} (hb : ∀ snapshot args, (b.extractor.call snapshot args).Keeps view) :
    (resolveOne host snapshot b).Keeps view := by
  refine (hb snapshot (b.args.map .text)).attempt.andThen fun outcome => ?_
  cases outcome with
  | ok v => exact .done v
  | error fault =>
    exact (noteFailure_keeps h b.key snapshot fault).andThen fun _ => .done Value.null

theorem resolveAll_keeps (h : host.Keeps view) (snapshot : Snapshot σ)
    {bindings : List (Binding σ)}
    (hb : ∀ b ∈ bindings, ∀ snapshot args, (b.extractor.call snapshot args).Keeps view) :
    (resolveAll host snapshot bindings).Keeps view := by
  induction bindings with
  | nil => exact .done []
  | cons b rest ih =>
    have hfirst := resolveOne_keeps h snapshot (hb b List.mem_cons_self)
    have hrest := ih fun b' hb' => hb b' (List.mem_cons_of_mem b hb')
    exact hfirst.andThen fun v => hrest.andThen fun vs => .done _

theorem line_keeps (h : host.Keeps view) {f : Formatter σ}
    (hf : ∀ b ∈ f.bindings, ∀ snapshot args, (b.extractor.call snapshot args).Keeps view)
    (snapshot : Snapshot σ) : (f.line host snapshot).Keeps view := by
  intro w
  rw [line_apply]
  exact resolveAll_keeps h snapshot hf w

end Formatter

end RequestLog
