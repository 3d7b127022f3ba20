import RequestLog.Proofs.Notes
import RequestLog.Proofs.Tables

/-!
Rendering by a host that takes notes. A token that fails counts as absent, so a snapshot has a line
unless the log itself would have to say something that refuses its text: a value that belongs on
the line, or a failure that is to be noted.
-/
namespace RequestLog

variable {σ : Type} {host : Host σ}

theorem Request.exists_literal_iff {r : Request} : (∃ shown, r.literal = .ok shown) ↔
    (∃ method, r.method.display = .ok method) ∧ ∃ url, r.url.literal = .ok url := by
  constructor
  · rintro ⟨shown, h⟩
    obtain ⟨method, hmethod, h⟩ := bind_eq_ok.mp h
    obtain ⟨url, hurl, -⟩ := bind_eq_ok.mp h
    exact ⟨⟨method, hmethod⟩, url, hurl⟩
  · rintro ⟨⟨method, hmethod⟩, url, hurl⟩
    exact ⟨_, by rw [Request.literal, hmethod, hurl]; rfl⟩

/-- A snapshot can be described where its request, its status and its options can. -/
theorem Snapshot.exists_literal_iff {snapshot : Snapshot σ} {s : σ} :
    (∃ shown, snapshot.literal s = .ok shown) ↔
    (∃ request, snapshot.request.literal = .ok request) ∧
      (∃ status, snapshot.status.literal = .ok status) ∧
      ∃ options, snapshot.optionsLiteral s = .ok options := by
  constructor
  · rintro ⟨shown, h⟩
    obtain ⟨request, hrequest, h⟩ := bind_eq_ok.mp h
    obtain ⟨response, hresponse, h⟩ := bind_eq_ok.mp h
    obtain ⟨options, hoptions, -⟩ := bind_eq_ok.mp h
    obtain ⟨status, hstatus, -⟩ := map_eq_ok.mp hresponse
    exact ⟨⟨request, hrequest⟩, ⟨status, hstatus⟩, options, hoptions⟩
  · rintro ⟨⟨request, hrequest⟩, ⟨status, hstatus⟩, options, hoptions⟩
    have hresponse : snapshot.response.response.literal =
        .ok ("<ResponseInfo status=" ++ status ++ ">") := map_eq_ok.mpr ⟨status, hstatus, rfl⟩
    exact ⟨_, by rw [Snapshot.literal, hrequest, hresponse, hoptions]; rfl⟩

/-- Whether a snapshot can be described, whatever happens beside it. -/
def Snapshot.HasLiteral (snapshot : Snapshot σ) : Prop :=
  ∀ s, ∃ shown, snapshot.literal s = .ok shown

/-- Whether the failure of an extractor, if it fails, can be noted with the snapshot. -/
def Snapshot.Notes (snapshot : Snapshot σ) (outcome : Except Fault Value) : Prop :=
  ∀ fault, outcome = .error fault → (Argument.fault fault).HasLiteral ∧ snapshot.HasLiteral

namespace Formatter

/-- Whether the failures of the tokens of a snapshot, if any fail, can be noted. -/
def NotesFailures (f : Formatter σ) (snapshot : Snapshot σ) : Prop :=
  ∀ b ∈ f.bindings, ∀ s, snapshot.Notes (b.extractor.call snapshot (b.args.map .text) s).1

/-- Whether all that may come of the tokens of a snapshot can be told: failures in a note, values
on the line. -/
structure Tells (f : Formatter σ) (snapshot : Snapshot σ) : Prop where
  notes : f.NotesFailures snapshot
  texts : ∀ b ∈ f.bindings, ∀ s v,
    (b.extractor.call snapshot (b.args.map .text) s).1 = .ok v → v.HasText

/-- The value that an outcome of an extractor counts as. -/
def counted : Except Fault Value → Value
  | .ok v => v
  | .error _ => .null

theorem hasText_counted {outcome : Except Fault Value} (h : ∀ v, outcome = .ok v → v.HasText) :
    (counted outcome).HasText := by
  cases outcome with
  | ok v => exact h v rfl
  | error fault => exact Value.hasText_null

theorem noteFailure_ok (h : host.TakesNotes) (key : String) {snapshot : Snapshot σ} {fault : Fault}
    (hs : snapshot.HasLiteral) (hf : (Argument.fault fault).HasLiteral) (s : σ) :
    (noteFailure host key snapshot fault s).1 = .ok () := by
  rw [noteFailure, Action.andThen_of_ok (Action.look_apply snapshot.literal s)]
  have hshown : (Argument.object (snapshot.literal s)).HasLiteral := hs s
  exact h.note_ok "token_resolve"
    (Message.exists_text_tokenFailure hf (Argument.hasLiteral_text key) hshown) s

/-- A token has the value that its extractor gives, or null. -/
theorem resolveOne_ok (h : host.TakesNotes) {snapshot : Snapshot σ} {b : Binding σ} {s : σ}
    (hn : snapshot.Notes (b.extractor.call snapshot (b.args.map .text) s).1) :
    (resolveOne host snapshot b s).1 =
      .ok (counted (b.extractor.call snapshot (b.args.map .text) s).1) := by
  rw [resolveOne, Action.attempt_andThen]
  rcases hc : b.extractor.call snapshot (b.args.map .text) s with ⟨fault | v, t⟩
  · rw [hc] at hn
    obtain ⟨hf, hs⟩ := hn fault rfl
    simp only [Action.andThen_of_fst (noteFailure_ok h b.key hs hf t), Action.done_apply, counted]
  · rfl

/-- Whatever becomes of notes, a value that a token has is the one that its extractor gives, or
null. -/
theorem value_of_resolveOne {snapshot : Snapshot σ} {b : Binding σ} {s t : σ} {v : Value}
    (h : resolveOne host snapshot b s = (.ok v, t)) :
    v = counted (b.extractor.call snapshot (b.args.map .text) s).1 := by
  rw [resolveOne, Action.attempt_andThen] at h
  rcases hc : b.extractor.call snapshot (b.args.map .text) s with ⟨fault | w, u⟩
  · rw [hc] at h
    obtain ⟨-, u', -, hnull⟩ := Action.andThen_ok_cases h
    cases hnull
    rfl
  · rw [hc] at h
    cases h
    rfl

theorem resolveAll_ok (h : host.TakesNotes) {snapshot : Snapshot σ} {bindings : List (Binding σ)}
    (hn : ∀ b ∈ bindings, ∀ s, snapshot.Notes (b.extractor.call snapshot (b.args.map .text) s).1)
    (s : σ) : ∃ vs, (resolveAll host snapshot bindings s).1 = .ok vs := by
  induction bindings generalizing s with
  | nil => exact ⟨[], rfl⟩
  | cons b rest ih =>
    obtain ⟨vs, hvs⟩ := ih (fun b' hb' => hn b' (List.mem_cons_of_mem _ hb'))
      (resolveOne host snapshot b s).2
    rw [resolveAll, Action.andThen_of_fst (resolveOne_ok h (hn b List.mem_cons_self s)),
      Action.andThen_done, hvs]
    exact ⟨_, rfl⟩

/-- Each value belongs to a binding, in the same order, and comes from an outcome of its
extractor. -/
def ComeFrom (snapshot : Snapshot σ) (bindings : List (Binding σ))
    (values : List (String × Value)) :
    Prop :=
  List.Forall₂ (fun b p => p.1 = b.key ∧
    ∃ s, p.2 = counted (b.extractor.call snapshot (b.args.map .text) s).1) bindings values

theorem resolveAll_values {snapshot : Snapshot σ} {bindings : List (Binding σ)}
    {values : List (String × Value)} {s t : σ}
    (h : resolveAll host snapshot bindings s = (.ok values, t)) :
    ComeFrom snapshot bindings values := by
  induction bindings generalizing values s with
  | nil =>
    cases h
    exact .nil
  | cons b rest ih =>
    rw [resolveAll] at h
    obtain ⟨v, u, hv, h⟩ := Action.andThen_ok_cases h
    obtain ⟨more, u', hmore, h⟩ := Action.andThen_ok_cases h
    cases h
    exact .cons ⟨rfl, s, value_of_resolveOne hv⟩ (ih hmore)

theorem ComeFrom.hasText {snapshot : Snapshot σ} {bindings : List (Binding σ)}
    {values : List (String × Value)} (h : ComeFrom snapshot bindings values)
    (ht : ∀ b ∈ bindings, ∀ s v,
      (b.extractor.call snapshot (b.args.map .text) s).1 = .ok v → v.HasText) :
    ∀ p ∈ values, p.2.HasText := by
  induction h with
  | nil => exact fun _ hp => nomatch hp
  | @cons b p bindings values hp hrest ih =>
    obtain ⟨-, s, hvalue⟩ := hp
    obtain ⟨hfirst, hlater⟩ := List.forall_mem_cons.mp ht
    exact List.forall_mem_cons.mpr ⟨hvalue ▸ hasText_counted (hfirst s), ih hlater⟩

theorem line_apply (f : Formatter σ) (snapshot : Snapshot σ) (s : σ) :
    f.line host snapshot s = ((resolveAll host snapshot f.bindings s).1 >>=
      fun vs => f.template.render ⟨vs⟩, (resolveAll host snapshot f.bindings s).2) := by
  rcases h : resolveAll host snapshot f.bindings s with ⟨fault | vs, t⟩
  · rw [line, resolve, Action.andThen_of_error (Action.andThen_of_error h)]
    rfl
  · have hr : f.resolve host snapshot s = (.ok ⟨vs⟩, t) := Action.andThen_of_ok h
    rw [line, Action.andThen_of_ok hr, Action.ofExcept_apply]
    rfl

end Formatter

namespace Template

theorem exists_fill {placeholder : String} {found : Option Value}
    (h : ∀ v, found = some v → v.HasText) : ∃ text, fill placeholder found = .ok text := by
  unfold fill
  split
  · exact ⟨_, rfl⟩
  · exact ⟨_, rfl⟩
  · next v _ => exact Value.exists_written_iff.mpr (h v rfl)

/-- A template is rendered where all values have texts. -/
theorem exists_render (t : Template) {values : List (String × Value)}
    (h : ∀ p ∈ values, p.2.HasText) : ∃ line, t.render ⟨values⟩ = .ok line := by
  have hparts : ∀ part ∈ t.parts, ∃ text, renderPart t.placeholder ⟨values⟩ part = .ok text := by
    intro part _
    cases part with
    | text literal => exact ⟨literal, rfl⟩
    | slot key => exact exists_fill fun v hv => h (key, v) (Table.mem_entries_of_get? hv)
  obtain ⟨texts, htexts⟩ := exists_mapM_iff.mpr hparts
  exact ⟨String.join texts, by rw [render, htexts]; rfl⟩

end Template

namespace Formatter

/-- A snapshot all of whose tokens can be told has a line. -/
theorem line_ok (h : host.TakesNotes) {f : Formatter σ} {snapshot : Snapshot σ}
    (ht : f.Tells snapshot) (s : σ) : ∃ line, (f.line host snapshot s).1 = .ok line := by
  obtain ⟨vs, hvs⟩ := resolveAll_ok h ht.notes s
  have htexts := (resolveAll_values (Prod.ext hvs rfl)).hasText ht.texts
  obtain ⟨line, hline⟩ := f.template.exists_render htexts
  exact ⟨line, by rw [line_apply, hvs]; exact hline⟩

end Formatter

end RequestLog
