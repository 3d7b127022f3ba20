import RequestLog.Proofs.Keeping
import RequestLog.Proofs.Sink.Emission

/-!
Lines handed to an emitter one after the other. Each line that can be written makes one trial of
the stream, and three histories can be read off the trials: what the stream keeps, its flushes, and
the notes.
-/
namespace RequestLog

open RequestLog.Action (Records Keeps)

variable {σ ω α : Type} {host : Host σ} {e : StreamEmitter σ} {view : σ → ω} {s t u : σ}

namespace Output

def octetsOf : Output → List UInt8
  | octets os => os
  | text _ => []

def charsOf : Output → List Char
  | octets _ => []
  | text s => s.toList

end Output

namespace Deed

/-- A deed that is a call of the stream. -/
def call? : Deed → Option Deed
  | note _ _ _ _ => none
  | call => some call

/-- What was written, if it was. -/
def written? : Deed → Option Output
  | write out (.ok ()) => some out
  | _ => none

/-- The name of a note that a handler is handed. -/
def noteTo? (handler : String) : Deed → Option String
  | note h name _ _ => if h = handler then some name else none
  | _ => none

theorem filterMap_call?_notes (name : String) (text : Text.Wide) (handlers : List HandlerOffer) :
    (Deed.notes name text handlers).filterMap call? = [] := by
  induction handlers with
  | nil => rfl
  | cons offer rest ih => cases offer <;> simpa [Deed.notes, call?] using ih

/-- A handler is handed a note as often as it is on the board. -/
theorem filterMap_noteTo?_notes (handler name : String) (text : Text.Wide)
    (handlers : List HandlerOffer) :
    (Deed.notes name text handlers).filterMap (noteTo? handler) =
      List.replicate ((handlers.filterMap HandlerOffer.name?).count handler) name := by
  induction handlers with
  | nil => rfl
  | cons offer rest ih =>
    cases offer with
    | value v => exact ih
    | handler h =>
      have hcons : Deed.notes name text (.handler h :: rest) =
          .note h name text (.ok ()) :: Deed.notes name text rest := rfl
      rw [hcons]
      by_cases hh : h = handler
      · simp [noteTo?, HandlerOffer.name?, hh, ih, List.replicate_succ]
      · simp [noteTo?, HandlerOffer.name?, hh, ih]

end Deed

namespace Host.Noting

variable {name : String} {text : Except Fault Text.Wide} {words : Text.Wide}
  {answer : Except Fault Unit} {deeds : List Deed}

theorem filterMap_call? (h : host.Noting name text s answer deeds) :
    deeds.filterMap Deed.call? = [] := by
  cases h with
  | delivered => exact Deed.filterMap_call?_notes _ _ _
  | unheard => rfl
  | unworded => rfl

/-- A note that has a text reaches a handler that listens. -/
theorem filterMap_noteTo? {handler : String} (h : host.Noting name (.ok words) s answer deeds)
    (hl : host.Listens handler) : deeds.filterMap (Deed.noteTo? handler) = [name] := by
  rw [h.eq_notes, Deed.filterMap_noteTo?_notes, hl s]
  rfl

end Host.Noting

/-- A write to a stream, with what came of it and of the flush after it, if there was one. -/
structure Trial where
  out : Output
  written : Except Fault Unit
  flushed : Option (Except Fault Unit)

namespace Trial

def calls (trial : Trial) : List Deed :=
  .write trial.out trial.written :: (trial.flushed.map Deed.flush).toList

/-- A flush comes after a write that succeeds if the stream can be flushed, and never after one
that fails. -/
def InStep (e : StreamEmitter σ) (trial : Trial) : Prop :=
  trial.flushed.isSome = (trial.written.isOk && e.target.flush.able?.isSome)

/-- What is left of a trial at the stream: a write that fails leaves nothing. -/
def kept? (trial : Trial) : Option Output :=
  match trial.written with
  | .ok () => some trial.out
  | .error _ => none

/-- The name of the note about what failed. -/
def failure? (trial : Trial) : Option String :=
  match trial.written, trial.flushed with
  | .error _, _ => some "stream_emit"
  | .ok (), some (.error _) => some "stream_flush"
  | .ok (), _ => none

end Trial

namespace StreamEmitter

/-- Something that is kept of what is written to a stream: a write that succeeds adds its parts at
the end, and nothing else that an emitter does changes it. -/
structure Gathers (host : Host σ) (e : StreamEmitter σ) (parts : Output → List α)
    (kept : σ → List α) :
    Prop where
  written : ∀ out s t, e.write out s = (.ok (), t) → kept t = kept s ++ parts out
  lost : ∀ out s fault t, e.write out s = (.error fault, t) → kept t = kept s
  flushes : ∀ flush, e.target.flush.able? = some flush → flush.Keeps kept
  notes : host.Keeps kept

/-- The deeds that lead from one state to another are those of the trials, with the notes about
what failed if it can be worded. -/
structure Account (host : Host σ) (e : StreamEmitter σ) (trials : List Trial) (deeds : List Deed)
    (s t : σ) : Prop where
  calls : deeds.filterMap Deed.call? = trials.flatMap Trial.calls
  inStep : ∀ trial ∈ trials, trial.InStep e
  notes : e.NotesFailures → ∀ handler, host.Listens handler →
    deeds.filterMap (Deed.noteTo? handler) = trials.filterMap Trial.failure?
  keeps : ∀ {α : Type} (parts : Output → List α) (kept : σ → List α), e.Gathers host parts kept →
    kept t = kept s ++ (trials.filterMap Trial.kept?).flatMap parts

namespace Account

theorem nil : Account host e [] [] s s where
  calls := rfl
  inStep _ h := nomatch h
  notes _ _ _ := rfl
  keeps _ _ _ := (List.append_nil _).symm

theorem append {trials later : List Trial} {deeds more : List Deed}
    (h : Account host e trials deeds s t) (hl : Account host e later more t u) :
    Account host e (trials ++ later) (deeds ++ more) s u where
  calls := by rw [List.filterMap_append, List.flatMap_append, h.calls, hl.calls]
  inStep trial ht := (List.mem_append.mp ht).elim (h.inStep trial) (hl.inStep trial)
  notes hn handler hh := by
    rw [List.filterMap_append, List.filterMap_append, h.notes hn handler hh,
      hl.notes hn handler hh]
  keeps parts kept hk := by
    rw [hl.keeps parts kept hk, h.keeps parts kept hk, List.append_assoc, ← List.flatMap_append,
      List.filterMap_append]

end Account

section Keeping

theorem noteFailure_keeps (h : host.Keeps view) (e : StreamEmitter σ) (name message : String)
    (fault : Fault) : (noteFailure host e name message fault).Keeps view :=
  (Keeps.look e.literal).andThen fun _ => h.note _ _ _

theorem flush_keeps (h : host.Keeps view)
    (hf : ∀ flush, e.target.flush.able? = some flush → flush.Keeps view) :
    (e.flush host).Keeps view := by
  unfold StreamEmitter.flush
  split
  · exact .done ()
  · next flush hable =>
    refine (hf flush hable).attempt.andThen fun outcome => ?_
    cases outcome with
    | ok _ => exact .done ()
    | error fault => exact noteFailure_keeps h e _ _ fault

end Keeping

section Steps

theorem FailureNoting.filterMap_noteTo? {handler name call : String} {fault : Fault}
    {answer : Except Fault Unit} {notes : List Deed}
    (h : FailureNoting host e name call fault t answer notes)
    (hf : (Argument.fault fault).HasLiteral ∧ ∃ shown, e.literal t = .ok shown)
    (hl : host.Listens handler) : notes.filterMap (Deed.noteTo? handler) = [name] := by
  obtain ⟨words, hwords⟩ := exists_failureText hf call
  rw [FailureNoting, hwords] at h
  exact Host.Noting.filterMap_noteTo? h hl

/-- Something to write makes one trial. -/
theorem account_of_emission {entry : String} {out : Output} {answer : Except Fault Unit}
    {deeds : List Deed} (hout : e.output entry = .ok out)
    (h : Emission host e out s answer deeds) :
    ∃ trial : Trial, trial.out = out ∧ Account host e [trial] deeds s (e.emit host entry s).2 := by
  cases h with
  | @lost fault t _ _ outcome noting =>
    refine ⟨⟨out, .error fault, none⟩, rfl, ?_, ?_, fun hn handler hh => ?_,
      fun parts kept hk => ?_⟩
    · simp [Deed.call?, noting.filterMap_call?, Trial.calls]
    · simp [Trial.InStep, Except.isOk, Except.toBool]
    · rw [List.filterMap_cons_none rfl]
      exact noting.filterMap_noteTo? (hn.write _ _ _ _ outcome) hh
    · rw [emit_of_lost hout outcome, noteFailure_keeps hk.notes e _ _ fault t]
      simp [hk.lost out s fault t outcome, Trial.kept?]
  | @written t _ later outcome flushing =>
    -- a flush neither adds to what is kept nor takes from it, so only the write matters for it
    have hkept : ∀ {α : Type} (parts : Output → List α) (kept : σ → List α),
        e.Gathers host parts kept →
        kept (e.emit host entry s).2 = kept s ++ parts out := by
      intro α parts kept hk
      rw [emit_of_written hout outcome, flush_keeps hk.notes hk.flushes t]
      exact hk.written out s t outcome
    cases flushing with
    | unable able =>
      refine ⟨⟨out, .ok (), none⟩, rfl, rfl, ?_, fun _ _ _ => rfl, fun parts kept hk => ?_⟩
      · simp [Trial.InStep, able]
      · simpa [Trial.kept?] using hkept parts kept hk
    | flushed able _ =>
      refine ⟨⟨out, .ok (), some (.ok ())⟩, rfl, rfl, ?_, fun _ _ _ => rfl,
        fun parts kept hk => ?_⟩
      · simp [Trial.InStep, able, Except.isOk, Except.toBool]
      · simpa [Trial.kept?] using hkept parts kept hk
    | @failed _ fault v _ _ able failing noting =>
      refine ⟨⟨out, .ok (), some (.error fault)⟩, rfl, ?_, ?_, fun hn handler hh => ?_,
        fun parts kept hk => ?_⟩
      · simp [Deed.call?, noting.filterMap_call?, Trial.calls]
      · simp [Trial.InStep, able, Except.isOk, Except.toBool]
      · rw [List.filterMap_cons_none rfl, List.filterMap_cons_none rfl]
        exact noting.filterMap_noteTo? (hn.flush _ able _ _ _ failing) hh
      · simpa [Trial.kept?] using hkept parts kept hk

/-- A line makes one trial if there is something to write for it, and else fails without one. -/
theorem emit_account (h : host.TakesNotes) {write : Output → Action σ Unit}
    (hw : e.target.write = .able write) (entry : String) (s : σ) :
    ∃ trials deeds, Account host e trials deeds s (e.emit host entry s).2 ∧
      Records (e.recorded.emit host.recorded entry) (e.emit host entry) s deeds ∧
      (e.NotesFailures → (e.emit host entry s).1 = (e.output entry).map fun _ => ()) ∧
      trials.map Trial.out = (e.output entry).toOption.toList := by
  cases hout : e.output entry with
  | error fault =>
    have hemit : e.emit host entry s = (.error fault, s) := emit_of_refused hout s
    have hrecorded : e.recorded.output entry = .error fault := hout
    refine ⟨[], [], ?_, Records.silent fun deeds => ?_, ?_, rfl⟩
    · rw [hemit]
      exact .nil
    · rw [hemit, emit_of_refused hrecorded]
    · intro _
      rw [hemit]
      rfl
  | ok out =>
    obtain ⟨deeds, hemission, hrecords⟩ := emit_recorded h hw hout s
    obtain ⟨trial, rfl, haccount⟩ := account_of_emission hout hemission
    exact ⟨[trial], deeds, haccount, hrecords, hemission.ok, rfl⟩

end Steps

/-- Hands lines to an emitter one after the other, whether or not it fails. -/
def emitAll (host : Host σ) (e : StreamEmitter σ) : List String → σ → List (Except Fault Unit) × σ
  | [], s => ([], s)
  | entry :: rest, s =>
    let later := emitAll host e rest (e.emit host entry s).2
    ((e.emit host entry s).1 :: later.1, later.2)

/-- What an emitter does when it is handed lines. -/
def deedsOf (host : Host σ) (e : StreamEmitter σ) (entries : List String) (s : σ) : List Deed :=
  (e.recorded.emitAll host.recorded entries ([], s)).2.1

theorem emitAll_account (h : host.TakesNotes) {write : Output → Action σ Unit}
    (hw : e.target.write = .able write) (entries : List String) (s : σ) :
    ∃ trials more, Account host e trials more s (e.emitAll host entries s).2 ∧
      (∀ deeds, e.recorded.emitAll host.recorded entries (deeds, s) =
        ((e.emitAll host entries s).1, (deeds ++ more, (e.emitAll host entries s).2))) ∧
      (e.NotesFailures →
        (e.emitAll host entries s).1 = entries.map fun entry => (e.output entry).map fun _ => ()) ∧
      trials.map Trial.out = entries.filterMap fun entry => (e.output entry).toOption := by
  induction entries generalizing s with
  | nil => exact ⟨[], [], .nil, fun deeds => by simp [emitAll], fun _ => rfl, rfl⟩
  | cons entry rest ih =>
    obtain ⟨first, deeds, haccount, hrecords, hanswer, houts⟩ := emit_account h hw entry s
    obtain ⟨later, more, haccounts, hrun, hanswers, hrest⟩ := ih (e.emit host entry s).2
    refine ⟨first ++ later, deeds ++ more, haccount.append haccounts, fun past => ?_, fun hn => ?_,
      ?_⟩
    · simp [emitAll, hrecords past, hrun, List.append_assoc]
    · rw [emitAll, List.map_cons, ← hanswer hn, ← hanswers hn]
    · rw [List.map_append, houts, hrest, List.filterMap_cons]
      cases (e.output entry).toOption <;> rfl

/-- A text in the form in which it is written to the stream. -/
def asOutput (e : StreamEmitter σ) (text : String) : Except Fault Output :=
  if e.binary then (e.coding.encode text).map .octets else .ok (.text text)

section Lines

variable {sep : String}

theorem asOutput_error_iff {text : String} {fault : Fault} :
    e.asOutput text = .error fault ↔ e.binary = true ∧ e.coding.Refuses text fault := by
  rw [← Coding.encode_error_iff, asOutput]
  cases hb : e.binary with
  | false => simp
  | true => cases e.coding.encode text <;> simp [Except.map]

theorem withSeparator_of_text {separator : Value}
    (h : separator = .text sep ∨ separator = .null ∧ sep = "") (entry : String) :
    withSeparator separator entry = .ok (entry ++ sep) := by
  rcases h with rfl | ⟨rfl, rfl⟩
  · by_cases hs : sep = ""
    · subst hs
      simp [withSeparator, Value.truthy]
    · simp [withSeparator, Value.truthy, hs]
  · simp [withSeparator, Value.truthy]

theorem output_of_text (h : e.separator = .text sep ∨ e.separator = .null ∧ sep = "")
    (entry : String) :
    e.output entry = e.asOutput (entry ++ sep) := by
  rw [output, withSeparator_of_text h, asOutput]
  cases e.binary with
  | false => rfl
  | true =>
    cases hencode : e.coding.encode (entry ++ sep) <;>
      simp [hencode, Bind.bind, Except.bind, Pure.pure, Except.pure, Except.map]

theorem separator_of_build {label : String} {offer : SinkOffer σ} {settings : StreamSettings}
    (h : build host label offer settings s = (.ok e, t)) : e.separator = settings.separator := by
  unfold build at h
  split at h
  · cases h
  · obtain ⟨stream, u, -, h⟩ := Action.andThen_ok_cases h
    obtain ⟨coding, v, -, h⟩ := Action.andThen_ok_cases h
    cases h
    rfl

/-- The trials of lines that are handed to an emitter with a text as its separator. -/
theorem exists_account (h : host.TakesNotes) {write : Output → Action σ Unit}
    (hw : e.target.write = .able write)
    (hsep : e.separator = .text sep ∨ e.separator = .null ∧ sep = "") (entries : List String)
    (s : σ) :
    let outputs := entries.map fun entry => e.asOutput (entry ++ sep)
    (e.NotesFailures →
      (e.emitAll host entries s).1 = outputs.map fun output => output.map fun _ => ()) ∧
    ∃ trials, Account host e trials (e.deedsOf host entries s) s (e.emitAll host entries s).2 ∧
      trials.map Trial.out = outputs.filterMap Except.toOption := by
  intro outputs
  obtain ⟨trials, deeds, haccount, hrun, hanswers, houts⟩ := emitAll_account h hw entries s
  have hdeeds : e.deedsOf host entries s = deeds := by
    rw [deedsOf, hrun, List.nil_append]
  refine ⟨fun hn => ?_, trials, hdeeds ▸ haccount, ?_⟩
  · simp only [hanswers hn, outputs, output_of_text hsep, List.map_map]
    rfl
  · simp only [houts, outputs, output_of_text hsep, List.filterMap_map]
    rfl

end Lines

/-- The accounts of an emitter that has been built with a text or nothing as its separator. Handing
it a line fails exactly if the line cannot be encoded; every other line makes one trial of the
stream, in the order of the lines. Whatever fails at the stream, a flush follows each write that
succeeds and no other, each failure is noted once, in the order of the failures, and what the
stream keeps is what the writes that succeeded added to it. -/
theorem account_of_build (host : Host σ) (h : host.TakesNotes) (label : String)
    (offer : SinkOffer σ) (settings : StreamSettings) (e : StreamEmitter σ) (s₀ s₁ : σ)
    (hbuild : build host label offer settings s₀ = (.ok e, s₁)) (sep : String)
    (hsep : settings.separator = .text sep ∨ settings.separator = .null ∧ sep = "")
    (entries : List String) (s : σ) :
    let outputs := entries.map fun entry => e.asOutput (entry ++ sep)
    (e.NotesFailures →
      (e.emitAll host entries s).1 = outputs.map fun output => output.map fun _ => ()) ∧
    (∃ trials, Account host e trials (e.deedsOf host entries s) s (e.emitAll host entries s).2 ∧
      trials.map Trial.out = outputs.filterMap Except.toOption ∧
      ∀ outs, outputs = outs.map Except.ok → trials.map Trial.out = outs) ∧
    ∀ entry fault, e.asOutput (entry ++ sep) = .error fault ↔
      e.binary = true ∧ e.coding.Refuses (entry ++ sep) fault := by
  intro outputs
  obtain ⟨write, hwrite⟩ := able_of_build hbuild
  rw [← separator_of_build hbuild] at hsep
  obtain ⟨hanswers, trials, haccount, houts⟩ := exists_account h hwrite hsep entries s
  refine ⟨hanswers, ⟨trials, haccount, houts, fun outs hall => ?_⟩,
    fun entry fault => asOutput_error_iff⟩
  have hall : entries.map (fun entry => e.asOutput (entry ++ sep)) = outs.map Except.ok := hall
  rw [houts, hall, List.filterMap_map]
  exact List.filterMap_some

theorem write_flaky (out : Output) (s : Nat × List UInt8) :
    PlainHost.flakyEmitter.write out s =
      match out, s.1 % 2 with
      | .octets os, 0 => (.ok (), (s.1 + 1, s.2 ++ os))
      | _, _ => (.error (.host "OSError" [.text "write refused"] .none), (s.1 + 1, s.2)) := rfl

/-- What a flaky stream keeps are the octets that it takes. -/
theorem gathers_flaky :
    PlainHost.flakyEmitter.Gathers PlainHost.pagedHost Output.octetsOf Prod.snd where
  written out s t h := by
    simp only [write_flaky] at h
    split at h <;> cases h
    rfl
  lost out s fault t h := by
    simp only [write_flaky] at h
    split at h <;> cases h
    rfl
  flushes flush hable := by
    cases hable
    exact fun _ => rfl
  notes := ⟨fun _ _ _ _ => rfl, fun _ _ => rfl⟩

theorem notesFailures_flaky : PlainHost.flakyEmitter.NotesFailures where
  write out s fault t h := by
    simp only [write_flaky] at h
    split at h <;> cases h
    exact ⟨⟨_, rfl⟩, _, rfl⟩
  flush flush hable s fault t h := by
    cases hable
    cases h
    exact ⟨⟨_, rfl⟩, _, rfl⟩

theorem account_of_build_flaky :
    PlainHost.pagedHost.TakesNotes ∧
    build PlainHost.pagedHost "StreamEmitter" (.stream PlainHost.flakyStream)
      PlainHost.strictSettings (0, []) = (.ok PlainHost.flakyEmitter, (0, [])) ∧
    PlainHost.strictSettings.separator = .text "\n" ∧ PlainHost.pagedHost.Listens "pager" ∧
    PlainHost.flakyEmitter.NotesFailures ∧
    PlainHost.flakyEmitter.Gathers PlainHost.pagedHost Output.octetsOf Prod.snd ∧
    ∃ trials : List Trial,
      trials.map Trial.out = [.octets [97, 10], .octets [98, 10], .octets [99, 10]] ∧
      trials.filterMap Trial.failure? = ["stream_flush", "stream_emit", "stream_flush"] ∧
      (trials.filterMap Trial.kept?).flatMap Output.octetsOf = [97, 10, 99, 10] := by
  have hbuild : build PlainHost.pagedHost "StreamEmitter" (.stream PlainHost.flakyStream)
      PlainHost.strictSettings (0, []) = (.ok PlainHost.flakyEmitter, (0, [])) := rfl
  obtain ⟨-, ⟨trials, haccount, houts, -⟩, -⟩ := account_of_build PlainHost.pagedHost
    PlainHost.takesNotes_paged "StreamEmitter" (.stream PlainHost.flakyStream)
    PlainHost.strictSettings
    PlainHost.flakyEmitter (0, []) (0, []) hbuild "\n" (.inl rfl) ["a", "\u00e9", "b", "c"] (0, [])
  refine ⟨PlainHost.takesNotes_paged, hbuild, rfl, fun _ => rfl, notesFailures_flaky,
    gathers_flaky, trials, ?_, ?_, ?_⟩
  · rw [houts]
    decide +kernel
  · rw [← haccount.notes notesFailures_flaky "pager" fun _ => rfl]
    decide +kernel
  · have hkept := haccount.keeps Output.octetsOf Prod.snd gathers_flaky
    rw [List.nil_append] at hkept
    rw [← hkept]
    decide +kernel

end StreamEmitter

end RequestLog
