import RequestLog.Proofs.Keeping
import RequestLog.Proofs.Telling

/-!
Loggers that leave a view of the state as it is. What is given to a logger may look at all of the
state. If it leaves the view as it is, so do the hooks of the logger.
-/
namespace RequestLog

open RequestLog.Action (Keeps)

variable {σ ω : Type} {view : σ → ω}

/-- A logger that leaves a view of the state as it is: so do its emitter, its extractors and its
predicate, and so does noting. -/
structure Logger.Keeps (view : σ → ω) (l : Logger σ) (host : Host σ) : Prop where
  notes : host.Keeps view
  emits : ∀ snapshot line, (l.emitter.emit snapshot line).Keeps view
  extracts : ∀ b ∈ l.formatter.bindings, ∀ snapshot args,
    (b.extractor.call snapshot args).Keeps view
  asks : ∀ p ∈ l.skip, ∀ snapshot, (p.call snapshot).Keeps view

namespace Logger.Keeps

variable {l : Logger σ} {host : Host σ}

theorem skips (h : l.Keeps view host) (snapshot : Snapshot σ) :
    (l.skips host snapshot).Keeps view := by
  unfold Logger.skips
  cases hp : l.skip with
  | none => exact .done false
  | some p =>
    refine (h.asks p hp snapshot).attempt.andThen fun outcome => ?_
    cases outcome with
    | ok v => exact .done v.truthy
    | error fault => exact (h.notes.note _ _ _).andThen fun _ => .done false

theorem logSnapshot (h : l.Keeps view host) (snapshot : Snapshot σ) :
    (l.logSnapshot host snapshot).Keeps view := by
  refine (h.skips snapshot).andThen fun skipped => ?_
  cases skipped with
  | true => exact .done none
  | false =>
    have hline := Formatter.line_keeps h.notes h.extracts snapshot
    exact hline.andThen fun line => (h.emits snapshot line).andThen fun _ => .done _

theorem conclude (h : l.Keeps view host) (w : Record σ × σ) :
    view (l.conclude host w).2.2 = view w.2 := by
  cases hs : l.immediate || w.1.isLogged with
  | true => rw [conclude_of_settled l host hs]
  | false =>
    rw [conclude_of_open l host hs, logRequest_apply]
    exact h.logSnapshot _ w.2

theorem startRequest (h : l.Keeps view host) (request : Request) (s : σ) :
    view (l.startRequest host request s).2 = view s := by
  cases hi : l.immediate with
  | false => rw [startRequest_of_deferred l host hi]
  | true =>
    rw [startRequest_of_immediate l host hi]
    exact h.logSnapshot _ s

end Logger.Keeps

end RequestLog
