import RequestLog.Proofs.Actions
import RequestLog.Proofs.Watch.Calls

/-!
What a watched logger does is what the logger does, with calls written down. The calls of one
logging are those of the predicate, of the extractors and of the handlers of notes, and at most one
of the emitter; `Logger.logSnapshot_watched` tells the five ways in which a logging can end.
-/
namespace RequestLog

namespace Call

variable {σ : Type}

def isNote : Call σ → Bool
  | noted .. => true
  | _ => false

/-- Whether a call is one of those made while a line is rendered. -/
def isRendering : Call σ → Bool
  | extracted .. => true
  | noted .. => true
  | _ => false

theorem isRendering_of_isNote {c : Call σ} (h : c.isNote = true) : c.isRendering = true := by
  cases c <;> first | rfl | cases h

/-- Nothing is handed to the emitter while a line is rendered. -/
theorem entries_of_rendering {calls : List (Call σ)} (h : ∀ c ∈ calls, c.isRendering = true) :
    entries calls = [] := by
  apply List.filterMap_eq_nil_iff.mpr
  intro c hc
  have hr := h c hc
  cases c <;> first | rfl | cases hr

/-- The predicate is not asked while a line is rendered. -/
theorem any_leavesOut_of_rendering {calls : List (Call σ)}
    (h : ∀ c ∈ calls, c.isRendering = true) :
    calls.any leavesOut = false := by
  apply List.any_eq_false.mpr
  intro c hc
  have hr := h c hc
  cases c <;> first | exact Bool.false_ne_true | cases hr

end Call

namespace Action

variable {σ α β : Type}

/-- A watched action does what an action does, and writes down nothing but calls of a kind. -/
def Mirrors (kind : Call σ → Bool) (watched : Action (Watched σ) α) (act : Action σ α) : Prop :=
  ∀ s, ∃ more, (∀ calls, watched (calls, s) = ((act s).1, (calls ++ more, (act s).2))) ∧
    ∀ c ∈ more, kind c = true

namespace Mirrors

variable {kind : Call σ → Bool}

theorem mono {wider : Call σ → Bool} {watched : Action (Watched σ) α} {act : Action σ α}
    (h : Mirrors kind watched act) (hk : ∀ c, kind c = true → wider c = true) :
    Mirrors wider watched act := by
  intro s
  obtain ⟨more, he, hm⟩ := h s
  exact ⟨more, he, fun c hc => hk c (hm c hc)⟩

/-- An action that makes no call. -/
theorem silent {watched : Action (Watched σ) α} {act : Action σ α}
    (h : ∀ calls s, watched (calls, s) = ((act s).1, (calls, (act s).2))) :
    Mirrors kind watched act :=
  fun s => ⟨[], by simp [h], by simp⟩

theorem done (a : α) : Mirrors kind (Action.done a) (Action.done a) :=
  silent fun _ _ => rfl

theorem fail (f : Fault) : Mirrors kind (Action.fail f : Action (Watched σ) α) (Action.fail f) :=
  silent fun _ _ => rfl

theorem ofExcept (r : Except Fault α) : Mirrors kind (Action.ofExcept r) (Action.ofExcept r) := by
  cases r with
  | ok a => exact done a
  | error f => exact fail f

theorem attempt {watched : Action (Watched σ) α} {act : Action σ α}
    (h : Mirrors kind watched act) :
    Mirrors kind watched.attempt act.attempt := by
  intro s
  obtain ⟨more, he, hm⟩ := h s
  exact ⟨more, by simp [Action.attempt, he], hm⟩

theorem andThen {watched : Action (Watched σ) α} {act : Action σ α}
    {watchedNext : α → Action (Watched σ) β} {next : α → Action σ β} (h : Mirrors kind watched act)
    (hn : ∀ a, Mirrors kind (watchedNext a) (next a)) :
    Mirrors kind (watched.andThen watchedNext) (act.andThen next) := by
  intro s
  obtain ⟨more, he, hm⟩ := h s
  rcases hs : act s with ⟨f | a, t⟩
  · rw [hs] at he
    rw [andThen_of_error hs]
    exact ⟨more, fun calls => andThen_of_error (he calls), hm⟩
  · rw [hs] at he
    obtain ⟨later, hl, hk⟩ := hn a t
    rw [andThen_of_ok hs]
    refine ⟨more ++ later, ?_, ?_⟩
    · intro calls
      rw [andThen_of_ok (he calls), hl, List.append_assoc]
    · intro c hc
      exact (List.mem_append.mp hc).elim (hm c) (hk c)

end Mirrors

end Action

open RequestLog.Action (Mirrors)

namespace Host

variable {σ : Type}

theorem receive_watched (host : Host σ) (handler name : String) (text : Text.Wide) :
    Mirrors Call.isNote (host.watched.receive handler name text)
    (host.receive handler name text) :=
  fun s => ⟨[.noted handler name text (host.receive handler name text s).1], fun _ => rfl, by
    simp [Call.isNote]⟩

theorem currentBoard_watched (host : Host σ) {kind : Call σ → Bool} :
    Mirrors kind host.watched.currentBoard host.currentBoard := by
  apply Mirrors.silent
  intro calls s
  simp only [currentBoard, watched]
  cases host.board s <;> rfl

theorem deliver_watched (host : Host σ) (name : String) (text : Text.Wide)
    (handlers : List HandlerOffer) : Mirrors Call.isNote (host.watched.deliver name text handlers)
      (host.deliver name text handlers) := by
  induction handlers with
  | nil => exact Mirrors.done ()
  | cons offer rest ih =>
    cases offer with
    | handler handler => exact (host.receive_watched handler name text).andThen fun _ => ih
    | value v => exact Mirrors.fail _

theorem note_watched (host : Host σ) (name message : String) (args : List Argument) :
    Mirrors Call.isNote (host.watched.note name message args) (host.note name message args) := by
  apply host.currentBoard_watched.andThen
  intro board
  split
  · exact Mirrors.done ()
  · exact (Mirrors.ofExcept _).andThen fun text => host.deliver_watched name text board.handlers

end Host

namespace Formatter

variable {σ : Type}

theorem literal_watched (s : Snapshot σ) (calls : List (Call σ)) (host : σ) :
    s.watched.literal (calls, host) = s.literal host := by
  cases s with
  | mk request response options =>
    cases options <;> rfl

theorem noteFailure_watched (host : Host σ) (key : String) (snapshot : Snapshot σ)
    (fault : Fault) :
    Mirrors Call.isNote (noteFailure host.watched key snapshot.watched fault)
      (noteFailure host key snapshot fault) := by
  have hl : Mirrors Call.isNote (Action.look snapshot.watched.literal)
      (Action.look snapshot.literal) :=
    Mirrors.silent fun calls s => by simp only [Action.look, literal_watched]
  exact hl.andThen fun shown => host.note_watched "token_resolve"
    "got %r resolving token %r for %r" [.fault fault, .value (.text key), .object shown]

theorem call_watched (b : Binding σ) (snapshot : Snapshot σ) (args : List Value) :
    Mirrors Call.isRendering (b.watched.extractor.call snapshot.watched args)
      (b.extractor.call snapshot args) := by
  intro s
  refine ⟨[.extracted b.key snapshot args (b.extractor.call snapshot args s).1], ?_, by
    simp [Call.isRendering]⟩
  intro calls
  simp only [Binding.watched, Extractor.watched, Action.watched, Snapshot.unwatched_watched]

theorem resolveOne_watched (host : Host σ) (snapshot : Snapshot σ) (b : Binding σ) :
    Mirrors Call.isRendering (resolveOne host.watched snapshot.watched b.watched)
      (resolveOne host snapshot b) := by
  apply (call_watched b snapshot _).attempt.andThen
  rintro (fault | v)
  · exact ((noteFailure_watched host b.key snapshot fault).mono
      fun _ => Call.isRendering_of_isNote).andThen fun _ => Mirrors.done Value.null
  · exact Mirrors.done v

theorem resolveAll_watched (host : Host σ) (snapshot : Snapshot σ) (bindings : List (Binding σ)) :
    Mirrors Call.isRendering
      (resolveAll host.watched snapshot.watched (bindings.map Binding.watched))
      (resolveAll host snapshot bindings) := by
  induction bindings with
  | nil => exact Mirrors.done []
  | cons b rest ih =>
    exact (resolveOne_watched host snapshot b).andThen fun v => ih.andThen fun vs =>
      Mirrors.done ((b.key, v) :: vs)

theorem line_watched (f : Formatter σ) (host : Host σ) (snapshot : Snapshot σ) :
    Mirrors Call.isRendering (f.watched.line host.watched snapshot.watched)
    (f.line host snapshot) :=
  ((resolveAll_watched host snapshot f.bindings).andThen fun vs => Mirrors.done
    (Table.mk vs)).andThen fun values => Mirrors.ofExcept (f.template.render values)

end Formatter

namespace Logger

variable {σ : Type}

/-- A note that the predicate failed; nothing is left out then. -/
def noteSkip (host : Host σ) (p : Skip σ) (fault : Fault) : Action σ Bool :=
  (host.note "skip" "got %r calling skip predicate %r" [.fault fault, .object p.shown]).andThen
    fun _ => Action.done false

/-- What one logging of a snapshot amounts to: its answer, and the calls that it made. -/
inductive Logging (l : Logger σ) (host : Host σ) (snapshot : Snapshot σ) :
    Except Fault (Option String) → List (Call σ) → Prop where
  /-- The predicate left the line out. -/
  | leftOut {calls : List (Call σ)} (asks : l.skip.isSome = true)
      (out : calls.any Call.leavesOut = true) (entries : Call.entries calls = []) :
      Logging l host snapshot (.ok none) calls
  /-- A line was made and emitted. -/
  | emitted {calls : List (Call σ)} (line : String) (out : calls.any Call.leavesOut = false)
      (entries : Call.entries calls = [(snapshot, line)]) :
      Logging l host snapshot (.ok (some line)) calls
  /-- A line was made, and the emitter failed. -/
  | refused {calls : List (Call σ)} (line : String) (fault : Fault)
      (fails : ∃ s, (l.emitter.emit snapshot line s).1 = .error fault)
      (out : calls.any Call.leavesOut = false)
        (entries : Call.entries calls = [(snapshot, line)]) :
      Logging l host snapshot (.error fault) calls
  /-- No line was made, since rendering failed: a failure of a token could not be noted, or a value
  has no text. -/
  | unrendered {calls : List (Call σ)} (fault : Fault)
      (fails : ∃ s, (l.formatter.line host snapshot s).1 = .error fault)
      (out : calls.any Call.leavesOut = false) (entries : Call.entries calls = []) :
      Logging l host snapshot (.error fault) calls
  /-- No line was made, since the failure of the predicate could not be noted. -/
  | unnoted {calls : List (Call σ)} (fault : Fault)
      (fails : ∃ p ∈ l.skip, ∃ verdict s, (noteSkip host p verdict s).1 = .error fault)
      (out : calls.any Call.leavesOut = false) (entries : Call.entries calls = []) :
      Logging l host snapshot (.error fault) calls

@[simp] theorem formatter_watched (l : Logger σ) : l.watched.formatter = l.formatter.watched := rfl

theorem skips_of_ok {l : Logger σ} {host : Host σ} {p : Skip σ} {snapshot : Snapshot σ} {s t : σ}
    {v : Value} (hp : l.skip = some p) (h : p.call snapshot s = (.ok v, t)) :
    l.skips host snapshot s = (.ok v.truthy, t) := by
  simp only [skips, hp, Action.attempt_andThen, h, Action.done_apply]

theorem skips_of_error {l : Logger σ} {host : Host σ} {p : Skip σ} {snapshot : Snapshot σ}
    {s t : σ} {fault : Fault} (hp : l.skip = some p) (h : p.call snapshot s = (.error fault, t)) :
    l.skips host snapshot s = noteSkip host p fault t := by
  simp only [skips, hp, Action.attempt_andThen, h, noteSkip]

/-- Nothing is left out without a predicate. -/
theorem isSome_of_skips {l : Logger σ} {host : Host σ} {snapshot : Snapshot σ} {s : σ}
    (h : (l.skips host snapshot s).1 = .ok true) : l.skip.isSome = true := by
  cases hp : l.skip with
  | none =>
    simp only [skips, hp] at h
    cases h
  | some p => rfl

/-- Asking the predicate fails only if its own failure cannot be noted. -/
theorem noteSkip_of_skips {l : Logger σ} {host : Host σ} {snapshot : Snapshot σ} {s : σ}
    {fault : Fault} (h : (l.skips host snapshot s).1 = .error fault) :
    ∃ p ∈ l.skip, ∃ verdict t, (noteSkip host p verdict t).1 = .error fault := by
  cases hp : l.skip with
  | none =>
    simp only [skips, hp] at h
    cases h
  | some p =>
    rcases hc : p.call snapshot s with ⟨verdict | v, t⟩
    · rw [skips_of_error hp hc] at h
      exact ⟨p, rfl, verdict, t, h⟩
    · rw [skips_of_ok hp hc] at h
      cases h

theorem noteSkip_watched (host : Host σ) (p : Skip σ) (fault : Fault) :
    Mirrors Call.isNote (noteSkip host.watched p.watched fault) (noteSkip host p fault) :=
  (host.note_watched "skip" "got %r calling skip predicate %r"
    [.fault fault, .object p.shown]).andThen fun _ => Mirrors.done false

theorem noteSkip_ne_true (host : Host σ) (p : Skip σ) (fault : Fault) (s : σ) :
    (noteSkip host p fault s).1 ≠ .ok true := by
  intro h
  obtain ⟨_, _, _, hd⟩ := Action.andThen_ok_cases (Prod.ext h rfl)
  cases hd

/-- The predicate is asked at most once, and leaves the line out if it gives a true value. -/
theorem skips_watched (l : Logger σ) (host : Host σ) (snapshot : Snapshot σ) (s : σ) :
    ∃ more, (∀ calls, l.watched.skips host.watched snapshot.watched (calls, s) =
        ((l.skips host snapshot s).1, (calls ++ more, (l.skips host snapshot s).2))) ∧
      Call.entries more = [] ∧
      (more.any Call.leavesOut = true ↔ (l.skips host snapshot s).1 = .ok true) := by
  cases hp : l.skip with
  | none =>
    refine ⟨[], ?_, rfl, ?_⟩
    · simp [skips, watched, hp]
    · simp [skips, hp]
  | some p =>
    have hw : l.watched.skip = some p.watched := by simp [watched, hp]
    have hc : ∀ calls, p.watched.call snapshot.watched (calls, s) = ((p.call snapshot s).1,
        (calls ++ [.asked snapshot (p.call snapshot s).1], (p.call snapshot s).2)) := by
      intro calls
      simp only [Skip.watched, Action.watched, Snapshot.unwatched_watched]
    rcases h : p.call snapshot s with ⟨fault | v, t⟩
    · rw [h] at hc
      obtain ⟨noted, hm, hk⟩ := noteSkip_watched host p fault t
      have hr : ∀ c ∈ noted, c.isRendering = true :=
        fun c hc => Call.isRendering_of_isNote (hk c hc)
      rw [skips_of_error hp h]
      refine ⟨[.asked snapshot (.error fault)] ++ noted, ?_, ?_, ?_⟩
      · intro calls
        rw [skips_of_error hw (hc calls), hm, List.append_assoc]
      · rw [Call.entries_append, Call.entries_of_rendering hr]
        rfl
      · rw [List.any_append, Call.any_leavesOut_of_rendering hr]
        constructor
        · intro hout
          simp [Call.leavesOut] at hout
        · intro htrue
          exact absurd htrue (noteSkip_ne_true host p fault t)
    · rw [h] at hc
      rw [skips_of_ok hp h]
      refine ⟨[.asked snapshot (.ok v)], fun calls => skips_of_ok hw (hc calls), rfl, ?_⟩
      simp [Call.leavesOut]

/-- Makes the line of a snapshot that is not left out, and emits it. -/
def write (l : Logger σ) (host : Host σ) (snapshot : Snapshot σ) : Action σ (Option String) :=
  (l.formatter.line host snapshot).andThen fun line =>
    (l.emitter.emit snapshot line).andThen fun _ => Action.done (some line)

theorem logSnapshot_eq (l : Logger σ) (host : Host σ) (snapshot : Snapshot σ) :
    l.logSnapshot host snapshot = (l.skips host snapshot).andThen fun skipped =>
      if skipped then Action.done none else l.write host snapshot := rfl

/-- Handing a line to the emitter of a watched logger writes that down last. -/
theorem emit_watched (l : Logger σ) (snapshot : Snapshot σ) (line : String) (calls : List (Call σ))
    (s : σ) : l.watched.emitter.emit snapshot.watched line (calls, s) =
      ((l.emitter.emit snapshot line s).1,
        (calls ++ [.emitted snapshot line (l.emitter.emit snapshot line s).1],
          (l.emitter.emit snapshot line s).2)) := by
  simp only [watched, Emitter.watched, Action.watched, Snapshot.unwatched_watched]

/-- A line that is made is handed to the emitter, and nothing else is. -/
theorem write_watched (l : Logger σ) (host : Host σ) (snapshot : Snapshot σ) (s : σ) :
    ∃ more, (∀ calls, l.watched.write host.watched snapshot.watched (calls, s) =
        ((l.write host snapshot s).1, (calls ++ more, (l.write host snapshot s).2))) ∧
      more.any Call.leavesOut = false ∧ Logging l host snapshot (l.write host snapshot s).1
          more := by
  obtain ⟨made, hm, hr⟩ := l.formatter.line_watched host snapshot s
  have hme := Call.entries_of_rendering hr
  have hmo := Call.any_leavesOut_of_rendering hr
  unfold write
  rcases hl : l.formatter.line host snapshot s with ⟨fault | line, t⟩
  · rw [hl] at hm
    rw [Action.andThen_of_error hl]
    exact ⟨made, fun calls => Action.andThen_of_error (hm calls), hmo,
      .unrendered fault ⟨s, congrArg Prod.fst hl⟩ hmo hme⟩
  rw [hl] at hm
  rw [Action.andThen_of_ok hl]
  have hne : ∀ r, Call.entries (made ++ [Call.emitted snapshot line r]) = [(snapshot, line)] := by
    intro r
    rw [Call.entries_append, hme]
    rfl
  have hno : ∀ r, (made ++ [Call.emitted snapshot line r]).any Call.leavesOut = false := by
    intro r
    rw [List.any_append, hmo]
    rfl
  have he := fun calls => l.emit_watched snapshot line (calls ++ made) t
  rcases hemit : l.emitter.emit snapshot line t with ⟨fault | ⟨⟩, u⟩
  · rw [hemit] at he
    rw [Action.andThen_of_error hemit]
    refine ⟨_, fun calls => ?_, hno (.error fault),
      .refused line fault ⟨t, congrArg Prod.fst hemit⟩ (hno _) (hne _)⟩
    rw [formatter_watched, Action.andThen_of_ok (hm calls), Action.andThen_of_error (he calls),
      List.append_assoc]
  · rw [hemit] at he
    rw [Action.andThen_of_ok hemit]
    refine ⟨_, fun calls => ?_, hno (.ok ()), .emitted line (hno _) (hne _)⟩
    rw [formatter_watched, Action.andThen_of_ok (hm calls), Action.andThen_of_ok (he calls),
      List.append_assoc]
    rfl

section Outcomes

variable {l : Logger σ} {host : Host σ} {snapshot : Snapshot σ}
  {answer : Except Fault (Option String)} {line : Option String} {asked calls : List (Call σ)}

theorem Logging.length_entries_le (h : Logging l host snapshot answer calls) :
    (Call.entries calls).length ≤ 1 := by
  cases h with
  | leftOut _ _ he => simp [he]
  | emitted _ _ he => simp [he]
  | refused _ _ _ _ he => simp [he]
  | unrendered _ _ _ he => simp [he]
  | unnoted _ _ _ he => simp [he]

/-- A logging that does not fail answers the line that it emitted, if it emitted one. -/
theorem Logging.answer_of_ok (h : Logging l host snapshot (.ok line) calls) :
    line = (Call.entries calls).head?.map Prod.snd ∧
      ((Call.entries calls).length = 1 ↔ calls.any Call.leavesOut = false) := by
  cases h with
  | leftOut _ out he => simp [he, out]
  | emitted line out he => simp [he, out]

theorem Logging.after (h : Logging l host snapshot answer calls)
    (hae : Call.entries asked = []) (hao : asked.any Call.leavesOut = false)
    (hco : calls.any Call.leavesOut = false) :
    Logging l host snapshot answer (asked ++ calls) := by
  have he : Call.entries (asked ++ calls) = Call.entries calls := by
    rw [Call.entries_append, hae, List.nil_append]
  have ho : (asked ++ calls).any Call.leavesOut = false := by
    rw [List.any_append, hao, hco]
    rfl
  cases h with
  | leftOut _ out _ => rw [hco] at out; cases out
  | emitted line _ entries => exact .emitted line ho (he.trans entries)
  | refused line fault fails _ entries => exact .refused line fault fails ho (he.trans entries)
  | unrendered fault fails _ entries => exact .unrendered fault fails ho (he.trans entries)
  | unnoted fault fails _ entries => exact .unnoted fault fails ho (he.trans entries)

end Outcomes

/-- Logging a snapshot hands the line that it answers to the emitter, and nothing else. -/
theorem logSnapshot_watched (l : Logger σ) (host : Host σ) (snapshot : Snapshot σ) (s : σ) :
    ∃ more, (∀ calls, l.watched.logSnapshot host.watched snapshot.watched (calls, s) =
        ((l.logSnapshot host snapshot s).1, (calls ++ more, (l.logSnapshot host snapshot s).2))) ∧
      Logging l host snapshot (l.logSnapshot host snapshot s).1 more := by
  obtain ⟨asked, hs, hae, hao⟩ := l.skips_watched host snapshot s
  simp only [logSnapshot_eq]
  rcases hk : l.skips host snapshot s with ⟨fault | skipped, t⟩
  · rw [hk] at hs hao
    rw [Action.andThen_of_error hk]
    refine ⟨asked, fun calls => Action.andThen_of_error (hs calls),
      .unnoted fault (noteSkip_of_skips (congrArg Prod.fst hk)) ?_ hae⟩
    exact Bool.eq_false_iff.mpr (by simp [hao])
  rw [hk] at hs hao
  rw [Action.andThen_of_ok hk]
  cases skipped with
  | true =>
    have hasks : l.skip.isSome = true := isSome_of_skips (congrArg Prod.fst hk)
    exact ⟨asked, fun calls => Action.andThen_of_ok (hs calls), .leftOut hasks (hao.mpr rfl) hae⟩
  | false =>
    obtain ⟨more, hw, hno, hlog⟩ := l.write_watched host snapshot t
    refine ⟨asked ++ more, fun calls => ?_, hlog.after hae ?_ hno⟩
    · rw [Action.andThen_of_ok (hs calls), ← List.append_assoc]
      exact hw (calls ++ asked)
    · exact Bool.eq_false_iff.mpr (by simp [hao])

end Logger

end RequestLog
