import RequestLog.Proofs.Watch.Gateway

/-!
What the entries of a watched logger are: lines that the formatter has made of the snapshot which
is handed on with them, and the snapshot is that of the record at the end of its request.
-/
namespace RequestLog

variable {σ : Type}

theorem Record.response_finish (r : Record σ) (now : ClockReading) :
    (r.finish now).response = r.response := by
  obtain ⟨_, _, _, _, _, endAt, _, stage⟩ := r
  cases endAt <;> cases stage <;> rfl

namespace Logger

variable (l : Logger σ) (host : Host σ)

/-- Whether what calls hand to the emitter are lines of a snapshot. -/
def Hands (snapshot : Snapshot σ) (calls : List (Call σ)) : Prop :=
  ∀ e ∈ Call.entries calls, e.1 = snapshot ∧ ∃ s, (l.formatter.line host snapshot s).1 = .ok e.2

theorem write_hands (snapshot : Snapshot σ) (calls : List (Call σ)) (s : σ)
    (hcalls : Call.entries calls = []) :
    l.Hands host snapshot (l.watched.write host.watched snapshot.watched (calls, s)).2.1 := by
  obtain ⟨made, hmade, hrendering⟩ := l.formatter.line_watched host snapshot s
  have hentries : Call.entries (calls ++ made) = [] := by
    rw [Call.entries_append, hcalls, Call.entries_of_rendering hrendering, List.append_nil]
  have hwritten := hmade calls
  unfold write
  rcases hline : l.formatter.line host snapshot s with ⟨fault | line, t⟩
  · rw [hline] at hwritten
    rw [formatter_watched, Action.andThen_of_error hwritten]
    intro e he
    rw [hentries] at he
    cases he
  · rw [hline] at hwritten
    have hemit := l.emit_watched snapshot line (calls ++ made) t
    rw [formatter_watched, Action.andThen_of_ok hwritten, Action.andThen_done, hemit]
    intro e he
    rw [Call.entries_append, hentries, List.nil_append] at he
    obtain rfl := List.mem_singleton.mp he
    exact ⟨rfl, s, congrArg Prod.fst hline⟩

/-- Logging a snapshot hands on nothing but lines of it. -/
theorem logSnapshot_hands (snapshot : Snapshot σ) (s : σ) :
    l.Hands host snapshot (l.watched.logSnapshot host.watched snapshot.watched ([], s)).2.1 := by
  obtain ⟨asked, hasked, hentries, -⟩ := l.skips_watched host snapshot s
  have hskips := hasked []
  rw [List.nil_append] at hskips
  have hnone : l.Hands host snapshot asked := by
    intro e he
    rw [hentries] at he
    cases he
  rw [logSnapshot_eq]
  rcases hs : l.skips host snapshot s with ⟨fault | skipped, t⟩
  · rw [hs] at hskips
    rw [Action.andThen_of_error hskips]
    exact hnone
  · rw [hs] at hskips
    rw [Action.andThen_of_ok hskips]
    cases skipped with
    | true => exact hnone
    | false => exact l.write_hands host snapshot _ t hentries

def callsOfConclude (w : Record σ × σ) : List (Call σ) :=
  (l.watched.conclude host.watched (beside [] w)).2.2.1

theorem conclude_beside (calls : List (Call σ)) (w : Record σ × σ) :
    l.watched.conclude host.watched (beside calls w) =
      ((l.conclude host w).1, beside (calls ++ l.callsOfConclude host w)
        (l.conclude host w).2) := by
  obtain ⟨more, hmore, -⟩ := l.conclude_watched host w.1 w.2
  have hcalls : l.callsOfConclude host w = more := by
    rw [callsOfConclude, beside, hmore]
    rfl
  rw [hcalls]
  exact hmore calls

theorem callsOfConclude_of_settled {w : Record σ × σ} (h : (l.immediate || w.1.isLogged) = true) :
    l.callsOfConclude host w = [] := by
  have hwatched : (l.watched.immediate || (beside [] w).1.isLogged) = true := h
  rw [callsOfConclude, conclude_of_settled l.watched host.watched hwatched]
  rfl

theorem callsOfConclude_of_open {w : Record σ × σ} (h : (l.immediate || w.1.isLogged) = false) :
    l.callsOfConclude host w = (l.watched.logSnapshot host.watched
      (w.1.finish (host.now w.2)).snapshot.watched ([], w.2)).2.1 := by
  have hconclude := conclude_of_open (r := w.1.watched) l.watched host.watched h ([], w.2)
  rw [Record.finish_watched, logRequest_apply, Record.snapshot_watched] at hconclude
  exact congrArg (fun outcome => outcome.2.2.1) hconclude

/-- What is handed on at the end of a request are lines of the record as it ends then, which has
not been settled before. -/
theorem snapshot_of_mem_conclude {w : Record σ × σ} {e : Snapshot σ × String}
    (he : e ∈ Call.entries (l.callsOfConclude host w)) :
    (l.immediate || w.1.isLogged) = false ∧ e.1 = (w.1.finish (host.now w.2)).snapshot ∧
      ∃ s, (l.formatter.line host e.1 s).1 = .ok e.2 := by
  cases h : l.immediate || w.1.isLogged with
  | true =>
    rw [l.callsOfConclude_of_settled host h] at he
    cases he
  | false =>
    rw [l.callsOfConclude_of_open host h] at he
    obtain ⟨hsnapshot, hline⟩ := l.logSnapshot_hands host _ _ e he
    rw [hsnapshot]
    exact ⟨rfl, rfl, hline⟩

/-- What is handed on at the end of a request are lines of the response as the record has it
then. -/
theorem mem_entries_conclude {w : Record σ × σ} {e : Snapshot σ × String}
    (he : e ∈ Call.entries (l.callsOfConclude host w)) :
    e.1.response.response = w.1.response ∧ ∃ s, (l.formatter.line host e.1 s).1 = .ok e.2 := by
  obtain ⟨-, hsnapshot, hline⟩ := l.snapshot_of_mem_conclude host he
  refine ⟨?_, hline⟩
  rw [hsnapshot]
  exact w.1.response_finish _

end Logger

namespace Middleware

variable (l : Logger σ) (host : Host σ) {f : Fault}

theorem passedOn_eq_conclude {notFound : Bool} (h : f.isNotFound = .ok notFound)
    (w : Record σ × σ) :
    (passedOn l host f w).2 = (l.conclude host (failed notFound w.1, w.2)).2 := by
  rw [passedOn_apply, logFailure_of_tells l host h]

/-- The calls made when a failure is passed on: those of the end of the request, unless the failure
does not tell whether nothing was found. -/
def callsOfFailure (f : Fault) (w : Record σ × σ) : List (Call σ) :=
  match f.isNotFound with
  | .ok notFound => l.callsOfConclude host (failed notFound w.1, w.2)
  | .error _ => []

theorem passedOn_beside (calls : List (Call σ)) (w : Record σ × σ) :
    (passedOn l.watched host.watched f (beside calls w)).2 =
      beside (calls ++ callsOfFailure l host f w) (passedOn l host f w).2 := by
  unfold callsOfFailure
  rcases hf : f.isNotFound with g | notFound
  · rw [passedOn_of_refused _ _ hf, passedOn_of_refused _ _ hf, List.append_nil]
  · rw [passedOn_eq_conclude _ _ hf, passedOn_eq_conclude _ _ hf]
    have hbeside : (failed notFound (beside calls w).1, (beside calls w).2) =
        beside calls (failed notFound w.1, w.2) := by
      rw [beside, failed_watched]
      rfl
    rw [hbeside, l.conclude_beside host]

/-- What is handed on with a failure is handed on at the end of the request. -/
theorem mem_conclude_of_failure {w : Record σ × σ} {e : Snapshot σ × String}
    (he : e ∈ Call.entries (callsOfFailure l host f w)) :
    ∃ notFound, f.isNotFound = .ok notFound ∧
      e ∈ Call.entries (l.callsOfConclude host (failed notFound w.1, w.2)) := by
  unfold callsOfFailure at he
  split at he
  · next notFound hf => exact ⟨notFound, hf, he⟩
  · cases he

end Middleware

end RequestLog
