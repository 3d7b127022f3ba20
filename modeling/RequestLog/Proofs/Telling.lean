import RequestLog.Proofs.Format.Rendering
import RequestLog.Proofs.Watch.Hooks

/-!
Loggers that can tell what becomes of a snapshot: the failures of the predicate and of the
extractors in notes, and their values on the line. Where the emitter does not fail and notes are
taken, logging such a snapshot does not fail either.
-/
namespace RequestLog

variable {σ : Type} {l : Logger σ} {host : Host σ} {snapshot : Snapshot σ}

/-- Whether the failure of a predicate, if it fails, can be noted. -/
def Skip.Tells (p : Skip σ) (snapshot : Snapshot σ) : Prop :=
  ∀ s fault, (p.call snapshot s).1 = .error fault →
    (Argument.fault fault).HasLiteral ∧ (Argument.object p.shown).HasLiteral

namespace Logger

/-- Whether all that may come of a snapshot can be told. -/
structure Tells (l : Logger σ) (snapshot : Snapshot σ) : Prop where
  skip : ∀ p ∈ l.skip, p.Tells snapshot
  line : l.formatter.Tells snapshot

/-- Neither emitting nor rendering fails, nor does noting that the predicate failed. -/
structure Reliable (l : Logger σ) (host : Host σ) : Prop where
  emits : ∀ snapshot line s, (l.emitter.emit snapshot line s).1 = .ok ()
  renders : ∀ snapshot s, ∃ line, (l.formatter.line host snapshot s).1 = .ok line
  notes : ∀ p ∈ l.skip, ∀ fault s, (noteSkip host p fault s).1 = .ok false

/-- A logging of a reliable logger does not fail. -/
theorem Reliable.answer_ok (hr : l.Reliable host) {answer : Except Fault (Option String)}
    {calls : List (Call σ)} (h : l.Logging host snapshot answer calls) :
    ∃ line, answer = .ok line := by
  cases h with
  | leftOut => exact ⟨none, rfl⟩
  | emitted line => exact ⟨some line, rfl⟩
  | refused line fault fails =>
    obtain ⟨s, hs⟩ := fails
    rw [hr.emits] at hs
    cases hs
  | unrendered fault fails =>
    obtain ⟨s, hs⟩ := fails
    obtain ⟨line, hline⟩ := hr.renders snapshot s
    rw [hline] at hs
    cases hs
  | unnoted fault fails =>
    obtain ⟨p, hp, verdict, s, hs⟩ := fails
    rw [hr.notes p hp] at hs
    cases hs

theorem noteSkip_ok (h : host.TakesNotes) {p : Skip σ} {fault : Fault}
    (hf : (Argument.fault fault).HasLiteral) (hp : (Argument.object p.shown).HasLiteral) (s : σ) :
    (noteSkip host p fault s).1 = .ok false := by
  rw [noteSkip, Action.andThen_done, h.note_ok "skip" (Message.exists_text_skipFailure hf hp) s]
  rfl

/-- Where the failure of the predicate can be noted, a snapshot is left out or not. -/
theorem skips_ok (h : host.TakesNotes) (ht : ∀ p ∈ l.skip, p.Tells snapshot) (s : σ) :
    ∃ skipped, (l.skips host snapshot s).1 = .ok skipped := by
  cases hp : l.skip with
  | none => exact ⟨false, by simp [skips, hp]⟩
  | some p =>
    rcases hc : p.call snapshot s with ⟨fault | v, t⟩
    · obtain ⟨hf, hs⟩ := ht p hp s fault (congrArg Prod.fst hc)
      rw [skips_of_error hp hc]
      exact ⟨false, noteSkip_ok h hf hs t⟩
    · rw [skips_of_ok hp hc]
      exact ⟨v.truthy, rfl⟩

section Tells

variable (hnotes : host.TakesNotes)
  (hemit : ∀ snapshot line s, (l.emitter.emit snapshot line s).1 = .ok ())

include hnotes hemit

theorem Tells.write_ok (h : l.Tells snapshot) (s : σ) :
    ∃ line, (l.write host snapshot s).1 = .ok line := by
  obtain ⟨line, hl⟩ := Formatter.line_ok hnotes h.line s
  rw [write, Action.andThen_of_fst hl, Action.andThen_done, hemit]
  exact ⟨some line, rfl⟩

theorem Tells.logSnapshot_ok (h : l.Tells snapshot) (s : σ) :
    ∃ line, (l.logSnapshot host snapshot s).1 = .ok line := by
  obtain ⟨skipped, hs⟩ := skips_ok hnotes h.skip s
  rw [logSnapshot_eq, Action.andThen_of_fst hs]
  cases skipped with
  | true => exact ⟨none, rfl⟩
  | false => exact h.write_ok hnotes hemit _

/-- A hook at the end of a request does not fail if all that comes of the record can be told
then. -/
theorem conclude_ok {r : Record σ} {s : σ} (h : l.Tells (r.finish (host.now s)).snapshot) :
    ∃ line, (l.conclude host (r, s)).1 = .ok line := by
  cases hs : l.immediate || r.isLogged with
  | true =>
    rw [conclude_of_settled l host hs]
    exact ⟨none, rfl⟩
  | false =>
    rw [conclude_of_open l host hs, logRequest_apply]
    exact h.logSnapshot_ok hnotes hemit s

theorem startRequest_ok {request : Request} {s : σ}
    (h : l.Tells (l.opened host request s).snapshot) :
    ∃ r, (l.startRequest host request s).1 = .ok r := by
  cases hi : l.immediate with
  | false =>
    rw [startRequest_of_deferred l host hi]
    exact ⟨_, rfl⟩
  | true =>
    obtain ⟨line, hl⟩ := h.logSnapshot_ok hnotes hemit s
    rw [startRequest_of_immediate l host hi, hl]
    exact ⟨_, rfl⟩

end Tells

/-- Whether calls are those of logging one snapshot without a predicate: its line is handed to the
emitter once, if notes are taken and all that comes of the snapshot's tokens can be told. -/
structure LogsOnce (l : Logger σ) (host : Host σ) (snapshot : Snapshot σ) (calls : List (Call σ)) :
    Prop where
  logging : ∃ answer, l.Logging host snapshot answer calls
  entries : host.TakesNotes → l.formatter.Tells snapshot →
    ∃ line, Call.entries calls = [(snapshot, line)]

theorem Logging.once {answer : Except Fault (Option String)} {calls : List (Call σ)}
    (h : l.Logging host snapshot answer calls) (hskip : l.skip = none) :
    l.LogsOnce host snapshot calls where
  logging := ⟨answer, h⟩
  entries hnotes htells := by
    cases h with
    | leftOut asks =>
      rw [hskip] at asks
      cases asks
    | emitted line _ entries => exact ⟨line, entries⟩
    | refused line _ _ _ entries => exact ⟨line, entries⟩
    | unrendered fault fails =>
      obtain ⟨s, hs⟩ := fails
      obtain ⟨line, hline⟩ := Formatter.line_ok hnotes htells s
      rw [hs] at hline
      cases hline
    | unnoted fault fails =>
      obtain ⟨p, hp, -⟩ := fails
      rw [hskip] at hp
      cases hp

end Logger

end RequestLog
