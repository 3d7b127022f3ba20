import RequestLog.Proofs.Format.Lines
import RequestLog.Proofs.Keeping

/-!
Lines that nothing but the clocks of the host has a part in. Where notes are taken and leave the
clocks as they are, such a line is made of what each extractor gives in the state at the start.
-/
namespace RequestLog

variable {σ : Type} {host : Host σ}

/-- Whether the clocks are all of the host that an extractor depends on, and it leaves them as they
are. -/
structure Extractor.ReadsClocks (host : Host σ) (e : Extractor σ) : Prop where
  depends : ∀ snapshot args s t, host.now s = host.now t →
    (e.call snapshot args s).1 = (e.call snapshot args t).1
  keeps : ∀ snapshot args, (e.call snapshot args).Keeps host.now

namespace Extractor

theorem readsClocks_ofFunction (shown : String)
    (f : Snapshot σ → List Value → Except Fault Value) :
    (ofFunction shown f).ReadsClocks host where
  depends snapshot args s t _ := by rw [outcome_ofFunction, outcome_ofFunction]
  keeps snapshot args := .ofExcept (f snapshot args)

theorem readsClocks_ofClocks (shown : String)
    (f : ClockReading → Snapshot σ → List Value → Except Fault Value) :
    (Builtin.ofClocks host shown f).ReadsClocks host where
  depends snapshot args s t h := by
    simp only [Builtin.ofClocks, Action.andThen_of_ok (Action.look_apply host.now _),
      Action.ofExcept_apply, h]
  keeps snapshot args := (Action.Keeps.look host.now).andThen fun _ => .ofExcept _

end Extractor

theorem Builtin.readsClocks {p : String × Extractor σ} (h : p ∈ extractors host) :
    p.2.ReadsClocks host := by
  simp only [extractors, List.mem_cons, List.not_mem_nil, or_false] at h
  -- all but the total time and the date are functions of the snapshot
  rcases h with rfl | rfl | rfl | rfl | rfl | rfl | rfl | rfl | rfl | rfl | rfl | rfl | rfl | rfl
  all_goals
    first
    | exact Extractor.readsClocks_ofFunction _ _
    | exact Extractor.readsClocks_ofClocks _ _

namespace Formatter

variable {snapshot : Snapshot σ} {bindings : List (Binding σ)}

/-- Values that only the clocks have a part in are those that the extractors give in any state with
the same clocks. -/
theorem resolveAll_of_readsClocks (hnotes : host.TakesNotes) (hkeeps : host.Keeps host.now)
    (hb : ∀ b ∈ bindings, b.extractor.ReadsClocks host)
    (hfaults : ∀ b ∈ bindings, ∀ s,
      snapshot.Notes (b.extractor.call snapshot (b.args.map .text) s).1)
    {s t : σ} (hnow : host.now t = host.now s) :
    (resolveAll host snapshot bindings t).1 = .ok (bindings.map fun b =>
      (b.key, counted (b.extractor.call snapshot (b.args.map .text) s).1)) := by
  induction bindings generalizing t with
  | nil => rfl
  | cons b rest ih =>
    obtain ⟨hfirst, hrest⟩ := List.forall_mem_cons.mp hb
    obtain ⟨hnoted, hnotedRest⟩ := List.forall_mem_cons.mp hfaults
    have hlater :=
      ih hrest hnotedRest ((resolveOne_keeps hkeeps snapshot hfirst.keeps t).trans hnow)
    rw [resolveAll, Action.andThen_of_fst (resolveOne_ok hnotes (hnoted t)), Action.andThen_done,
      hlater, hfirst.depends snapshot _ t s hnow]
    rfl

/-- Two snapshots of which every extractor of a formatter gives the same have the same line, or the
same value refuses its text. -/
theorem line_congr_of_readsClocks (hnotes : host.TakesNotes) (hkeeps : host.Keeps host.now)
    {f : Formatter σ} (hf : ∀ b ∈ f.bindings, b.extractor.ReadsClocks host)
    {snapshot₁ snapshot₂ : Snapshot σ} (hfaults₁ : f.NotesFailures snapshot₁)
    (hfaults₂ : f.NotesFailures snapshot₂)
    (h : ∀ b ∈ f.bindings, ∀ args,
      b.extractor.call snapshot₁ args = b.extractor.call snapshot₂ args)
    (s : σ) : (f.line host snapshot₁ s).1 = (f.line host snapshot₂ s).1 := by
  have hvalues : (f.bindings.map fun b =>
        (b.key, counted (b.extractor.call snapshot₁ (b.args.map .text) s).1)) =
      f.bindings.map fun b =>
        (b.key, counted (b.extractor.call snapshot₂ (b.args.map .text) s).1) :=
    List.map_congr_left fun b hb => by rw [h b hb]
  rw [line_apply, line_apply, resolveAll_of_readsClocks hnotes hkeeps hf hfaults₁ rfl,
    resolveAll_of_readsClocks hnotes hkeeps hf hfaults₂ rfl, hvalues]

end Formatter

end RequestLog
