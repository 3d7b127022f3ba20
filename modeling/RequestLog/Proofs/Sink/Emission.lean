import RequestLog.Proofs.Breaks.Text
import RequestLog.Proofs.PlainHost
import RequestLog.Proofs.Sink.Deeds

/-!
One line handed to a stream's emitter. A line that cannot be made into something to write is
refused with a fault before the stream is touched; for any other line nothing that the stream does
gets out of the emitter, and a line that is lost is noted once, unless somebody listens and the
note cannot be worded.
-/
namespace RequestLog

open RequestLog.Action (Records)

namespace Text.Charset

variable {charset : Charset} {treatment : Unencodable}

/-- A treatment either replaces all characters or refuses all of them. -/
theorem substitute?_eq_none (h : ¬ treatment.Replaces) (c : Char) :
    substitute? treatment c = none := by
  cases treatment <;> first | rfl | exact absurd (fun _ => rfl) h

theorem replaceMissing?_of_has {cs : List Char} (h : ∀ c ∈ cs, charset.has c = true) :
    replaceMissing? charset treatment cs = some cs := by
  induction cs with
  | nil => rfl
  | cons c rest ih =>
    have hrest := ih fun d hd => h d (List.mem_cons_of_mem _ hd)
    rw [replaceMissing?, if_pos (h c List.mem_cons_self), hrest, Option.map_some]

theorem replaceMissing?_of_missing (hrefuses : ¬ treatment.Replaces) {cs : List Char} {c : Char}
    (hc : c ∈ cs) (hmissing : charset.has c = false) :
    replaceMissing? charset treatment cs = none := by
  induction cs with
  | nil => cases hc
  | cons d rest ih =>
    rw [replaceMissing?]
    split
    · next hd =>
      rcases List.mem_cons.mp hc with rfl | hrest
      · cases hmissing.symm.trans hd
      · rw [ih hrest, Option.map_none]
    · rw [substitute?_eq_none hrefuses]

/-- A text is refused where characters are not replaced and the set does not have one of them. -/
theorem replaceMissing?_eq_none_iff {cs : List Char} :
    replaceMissing? charset treatment cs = none ↔
      ¬ treatment.Replaces ∧ ∃ c ∈ cs, charset.has c = false := by
  constructor
  · intro h
    constructor
    · intro hreplaces
      obtain ⟨shown, hshown⟩ := exists_replaceMissing charset hreplaces cs
      cases h.symm.trans hshown
    · by_contra hnone
      have hall : ∀ c ∈ cs, charset.has c = true := by
        intro c hc
        by_contra hmissing
        exact hnone ⟨c, hc, Bool.not_eq_true _ ▸ hmissing⟩
      cases h.symm.trans (replaceMissing?_of_has hall)
  · rintro ⟨hrefuses, c, hc, hmissing⟩
    exact replaceMissing?_of_missing hrefuses hc hmissing

end Text.Charset

namespace Coding

variable {c : Coding} {text : String} {fault : Fault}

/-- Whether it is left to the host what becomes of a text: the character set is its own, or the
treatment of a character of the text that the set lacks. -/
def LeavesToHost (c : Coding) (text : String) : Prop :=
  c.charset = none ∨ c.treatment = none ∧
    ∃ charset, c.charset = some charset ∧ ∃ d ∈ text.toList, charset.has d = false

/-- Why a coding refuses a text. -/
inductive Refuses (c : Coding) (text : String) : Fault → Prop where
  /-- A character of the text is missing in the character set and may not be replaced. -/
  | character {charset : Text.Charset} {treatment : Text.Unencodable}
      (known : c.charset = some charset)
      (treated : c.treatment = some treatment) (strict : ¬ treatment.Replaces) {d : Char}
      (mem : d ∈ text.toList) (missing : charset.has d = false) :
      Refuses c text (.unencodable (charset.firstMissing text.toList))
  /-- The host refuses the text. -/
  | own {fault : Fault} (left : c.LeavesToHost text) (refused : c.own text = .error fault) :
      Refuses c text fault

theorem encode_of_known {charset : Text.Charset} {treatment : Text.Unencodable}
    (hc : c.charset = some charset) (ht : c.treatment = some treatment) (text : String) :
    c.encode text = (charset.encodeWith treatment text.toList).mapError .unencodable := by
  simp only [encode, hc, ht]

/-- A text all of whose characters are in a known character set needs no treatment. -/
theorem encode_of_has {charset : Text.Charset} (hc : c.charset = some charset)
    (hall : ∀ d ∈ text.toList, charset.has d = true) :
    c.encode text = .ok (charset.encode text.toList) := by
  cases ht : c.treatment with
  | none => simp only [encode, hc, ht, List.all_eq_true.mpr hall, if_true]
  | some treatment =>
    rw [encode_of_known hc ht, Text.Charset.encodeWith, Text.Charset.replaceMissing?_of_has hall]
    rfl

theorem encode_of_left (h : c.LeavesToHost text) : c.encode text = c.own text := by
  rcases h with hc | ⟨ht, charset, hc, d, hd, hmissing⟩
  · simp only [encode, hc]
  · have hall : ¬ text.toList.all charset.has = true := by
      intro hall
      cases hmissing.symm.trans (List.all_eq_true.mp hall d hd)
    simp only [encode, hc, ht, if_neg hall]

theorem encode_error_iff : c.encode text = .error fault ↔ c.Refuses text fault := by
  constructor
  · intro h
    cases hc : c.charset with
    | none => exact .own (.inl hc) (encode_of_left (.inl hc) ▸ h)
    | some charset =>
      by_cases hall : ∀ d ∈ text.toList, charset.has d = true
      · cases (encode_of_has hc hall).symm.trans h
      obtain ⟨d, hd, hmissing⟩ : ∃ d ∈ text.toList, charset.has d = false := by
        simpa [not_forall] using hall
      cases ht : c.treatment with
      | none =>
        have hleft : c.LeavesToHost text := .inr ⟨ht, charset, hc, d, hd, hmissing⟩
        exact .own hleft (encode_of_left hleft ▸ h)
      | some treatment =>
        rw [encode_of_known hc ht, Text.Charset.encodeWith] at h
        cases hr : charset.replaceMissing? treatment text.toList with
        | some shown =>
          rw [hr] at h
          cases h
        | none =>
          rw [hr] at h
          cases h
          obtain ⟨hstrict, -⟩ := Text.Charset.replaceMissing?_eq_none_iff.mp hr
          exact .character hc ht hstrict hd hmissing
  · rintro (⟨hc, ht, hstrict, hd, hmissing⟩ | ⟨hleft, hrefused⟩)
    · rw [encode_of_known hc ht, Text.Charset.encodeWith,
        Text.Charset.replaceMissing?_of_missing hstrict hd hmissing]
      rfl
    · rw [encode_of_left hleft, hrefused]

end Coding

namespace StreamEmitter

variable {σ : Type} {host : Host σ} {e : StreamEmitter σ} {entry : String} {out : Output} {s t : σ}

/-- Why there is nothing to write for a line. -/
inductive Refuses (e : StreamEmitter σ) (entry : String) : Fault → Prop where
  /-- The separator counts as true and is no text. -/
  | separator (counts : e.separator.truthy = true) (alien : ∀ text, e.separator ≠ .text text) :
      Refuses e entry (.notJoinable e.separator)
  /-- The coding of a stream of octets refuses the line with its separator. -/
  | coding {text : String} {fault : Fault} (joined : withSeparator e.separator entry = .ok text)
      (octets : e.binary = true) (refused : e.coding.Refuses text fault) : Refuses e entry fault

theorem withSeparator_error_iff {separator : Value} {fault : Fault} :
    withSeparator separator entry = .error fault ↔
      separator.truthy = true ∧ (∀ text, separator ≠ .text text) ∧
      fault = .notJoinable separator := by
  unfold withSeparator
  split
  · next hcounts =>
    cases separator <;> simp [hcounts, eq_comm]
  · next hcounts =>
    simp [hcounts]

/-- There is nothing to write for a line exactly if it is refused. -/
theorem output_error_iff {fault : Fault} : e.output entry = .error fault ↔
    e.Refuses entry fault := by
  constructor
  · intro h
    rcases bind_eq_error.mp h with hjoined | ⟨text, hjoined, h⟩
    · obtain ⟨hcounts, halien, rfl⟩ := withSeparator_error_iff.mp hjoined
      exact .separator hcounts halien
    · cases hbinary : e.binary with
      | false =>
        rw [hbinary] at h
        cases h
      | true =>
        rw [hbinary, if_pos rfl] at h
        rcases bind_eq_error.mp h with hencode | ⟨os, -, h⟩
        · exact .coding hjoined hbinary (Coding.encode_error_iff.mp hencode)
        · cases h
  · rintro (⟨hcounts, halien⟩ | ⟨hjoined, hbinary, hrefused⟩)
    · have hjoined : withSeparator e.separator entry = .error (.notJoinable e.separator) :=
        withSeparator_error_iff.mpr ⟨hcounts, halien, rfl⟩
      exact bind_eq_error.mpr (.inl hjoined)
    · refine bind_eq_error.mpr (.inr ⟨_, hjoined, ?_⟩)
      rw [if_pos hbinary]
      exact bind_eq_error.mpr (.inl (Coding.encode_error_iff.mpr hrefused))

/-- The text of a note about a call of the stream that failed. -/
def failureText (e : StreamEmitter σ) (call : String) (fault : Fault) (w : σ) :
    Except Refusal Text.Wide := do
  return .ofString ("got " ++ (← fault.literal) ++ " on " ++ (← e.literal w) ++ "." ++ call ++
    "()")

/-- What becomes of the note about a call of the stream that failed. -/
abbrev FailureNoting (host : Host σ) (e : StreamEmitter σ) (name call : String) (fault : Fault)
    (w : σ) :
    Except Fault Unit → List Deed → Prop :=
  host.Noting name ((e.failureText call fault w).mapError .refused) w

/-- What an emitter does to flush its stream, and how that ends. -/
inductive Flushing (host : Host σ) (e : StreamEmitter σ) (s : σ) :
    Except Fault Unit → List Deed → Prop where
  /-- The stream cannot be flushed. -/
  | unable (able : e.target.flush.able? = none) : Flushing host e s (.ok ()) []
  | flushed {flush : Action σ Unit} {t : σ} (able : e.target.flush.able? = some flush)
      (outcome : flush s = (.ok (), t)) : Flushing host e s (.ok ()) [.flush (.ok ())]
  /-- The flush fails, which is noted once. -/
  | failed {flush : Action σ Unit} {fault : Fault} {t : σ} {answer : Except Fault Unit}
      {notes : List Deed} (able : e.target.flush.able? = some flush)
      (outcome : flush s = (.error fault, t))
      (noting : FailureNoting host e "stream_flush" "flush" fault t answer notes) :
      Flushing host e s answer (.flush (.error fault) :: notes)

/-- What an emitter does with something to write, and how that ends. -/
inductive Emission (host : Host σ) (e : StreamEmitter σ) (out : Output) (s : σ) :
    Except Fault Unit → List Deed → Prop where
  /-- The line is lost: the write fails, which is noted once, and nothing else is done. -/
  | lost {fault : Fault} {t : σ} {answer : Except Fault Unit} {notes : List Deed}
      (outcome : e.write out s = (.error fault, t))
      (noting : FailureNoting host e "stream_emit" "emit_entry" fault t answer notes) :
      Emission host e out s answer (.write out (.error fault) :: notes)
  /-- The line is written, and the stream flushed if it can be. -/
  | written {t : σ} {answer : Except Fault Unit} {deeds : List Deed}
      (outcome : e.write out s = (.ok (), t)) (flushing : Flushing host e t answer deeds) :
      Emission host e out s answer (.write out (.ok ()) :: deeds)

/-- Whether the failures of an emitter's stream can be worded. -/
structure NotesFailures (e : StreamEmitter σ) : Prop where
  write : ∀ out s fault t, e.write out s = (.error fault, t) →
    (Argument.fault fault).HasLiteral ∧ ∃ shown, e.literal t = .ok shown
  flush : ∀ flush, e.target.flush.able? = some flush → ∀ s fault t, flush s = (.error fault, t) →
    (Argument.fault fault).HasLiteral ∧ ∃ shown, e.literal t = .ok shown

theorem exists_failureText {fault : Fault} {w : σ}
    (h : (Argument.fault fault).HasLiteral ∧ ∃ shown, e.literal w = .ok shown) (call : String) :
    ∃ words, e.failureText call fault w = .ok words := by
  obtain ⟨⟨what, hwhat⟩, shown, hshown⟩ := h
  have hwhat : fault.literal = .ok what := hwhat
  exact ⟨_, by rw [failureText, hwhat, hshown]; rfl⟩

theorem FailureNoting.ok {fault : Fault} {w : σ} {name call : String} {answer : Except Fault Unit}
    {notes : List Deed} (h : FailureNoting host e name call fault w answer notes)
    (hf : (Argument.fault fault).HasLiteral ∧ ∃ shown, e.literal w = .ok shown) :
    answer = .ok () := by
  obtain ⟨words, hwords⟩ := exists_failureText hf call
  rw [FailureNoting, hwords] at h
  exact h.ok

theorem Flushing.ok {answer : Except Fault Unit} {deeds : List Deed}
    (h : Flushing host e s answer deeds) (hn : e.NotesFailures) : answer = .ok () := by
  cases h with
  | unable => rfl
  | flushed => rfl
  | failed able outcome noting => exact noting.ok (hn.flush _ able _ _ _ outcome)

/-- With something to write, an emission does not fail if the failures of the stream can be
worded. -/
theorem Emission.ok {answer : Except Fault Unit} {deeds : List Deed}
    (h : Emission host e out s answer deeds) (hn : e.NotesFailures) : answer = .ok () := by
  cases h with
  | lost outcome noting => exact noting.ok (hn.write _ _ _ _ outcome)
  | written outcome flushing => exact flushing.ok hn

section Outcomes

variable {flush : Action σ Unit} {fault : Fault}

theorem flush_of_unable (h : e.target.flush.able? = none) (s : σ) :
    e.flush host s = (.ok (), s) := by
  rw [StreamEmitter.flush, h]
  rfl

theorem flush_of_ok (h : e.target.flush.able? = some flush) (ho : flush s = (.ok (), t)) :
    e.flush host s = (.ok (), t) := by
  simp only [StreamEmitter.flush, h, Action.attempt_andThen, ho, Action.done_apply]

theorem flush_of_error (h : e.target.flush.able? = some flush) (ho : flush s = (.error fault, t)) :
    e.flush host s = noteFailure host e "stream_flush" "got %r on %r.flush()" fault t := by
  simp only [StreamEmitter.flush, h, Action.attempt_andThen, ho]

theorem emit_of_refused (h : e.output entry = .error fault) (s : σ) :
    e.emit host entry s = (.error fault, s) := by
  rw [emit, h]
  rfl

theorem emit_of_written (h : e.output entry = .ok out) (ho : e.write out s = (.ok (), t)) :
    e.emit host entry s = e.flush host t := by
  rw [emit, h, Action.andThen_of_ok (Action.ofExcept_apply _ s), Action.attempt_andThen, ho]

theorem emit_of_lost (h : e.output entry = .ok out) (ho : e.write out s = (.error fault, t)) :
    e.emit host entry s = noteFailure host e "stream_emit" "got %r on %r.emit_entry()" fault
    t := by
  rw [emit, h, Action.andThen_of_ok (Action.ofExcept_apply _ s), Action.attempt_andThen, ho]

end Outcomes

section Recording

theorem text_of_failure (e : StreamEmitter σ) (message call : String)
    (hm : message.toList = "got %r on %r.".toList ++ (call ++ "()").toList)
    (hc : '%' ∉ (call ++ "()").toList) (fault : Fault) (w : σ) :
    Message.text message [.fault fault, .object (e.literal w)] =
      (e.failureText call fault w).mapError .refused := by
  have hplaces : message.toList = Message.withPlaces ["got ".toList, " on ".toList]
      ('.' :: (call ++ "()").toList) := hm
  have hafter : '%' ∉ '.' :: (call ++ "()").toList :=
    List.not_mem_cons_of_ne_of_not_mem (by decide) hc
  rw [Message.text_of_places _ _ hplaces (by decide) hafter _ rfl, failureText]
  have hfault : (Argument.fault fault).literal = fault.literal := rfl
  have hobject : (Argument.object (e.literal w)).literal = e.literal w := rfl
  simp only [List.mapM_cons, List.mapM_nil, hfault, hobject]
  rcases fault.literal with r | what
  · rfl
  rcases e.literal w with r | shown
  · rfl
  · simp [Message.withLiterals, Text.Wide.ofString, Text.Wide.ofChars, Bind.bind, Except.bind,
      Pure.pure, Except.pure, Except.map]

theorem noteFailure_recorded (h : host.TakesNotes) (name : String) {message call : String}
    {fault : Fault} (ht : Message.text message [.fault fault, .object (e.literal t)] =
      (e.failureText call fault t).mapError .refused) :
    ∃ notes, FailureNoting host e name call fault t (noteFailure host e name message fault t).1
      notes ∧
      Records (noteFailure host.recorded e.recorded name message fault)
        (noteFailure host e name message fault) t notes := by
  have hlook : Records (Action.look e.recorded.literal) (Action.look e.literal) t [] := by
    apply Records.silent
    intro deeds
    rw [Action.look_apply, Action.look_apply, literal, target_recorded]
    rfl
  have hlooked : Action.look e.literal t = (.ok (e.literal t), t) := rfl
  obtain ⟨notes, hnoting, hrecords⟩ :=
    h.note_recorded name message [.fault fault, .object (e.literal t)] t
  refine ⟨notes, ?_, hlook.andThen hlooked hrecords⟩
  rw [noteFailure, Action.andThen_of_ok hlooked, FailureNoting, ← ht]
  exact hnoting

theorem write_recorded {write : Output → Action σ Unit} (hw : e.target.write = .able write)
    (out : Output) (s : σ) :
    Records (e.recorded.write out) (e.write out) s [.write out (e.write out s).1] := by
  intro deeds
  simp only [StreamEmitter.write, target_recorded, Stream.writeOut, Stream.recorded, hw]
  rfl

theorem able?_flush_recorded (e : StreamEmitter σ) :
    e.recorded.target.flush.able? =
      e.target.flush.able?.map fun flush => flush.recorded .flush := by
  rw [target_recorded, Stream.recorded]
  cases e.target.flush <;> rfl

theorem flush_recorded (h : host.TakesNotes) (e : StreamEmitter σ) (s : σ) :
    ∃ deeds, Flushing host e s (e.flush host s).1 deeds ∧
      Records (e.recorded.flush host.recorded) (e.flush host) s deeds := by
  have hrecorded := e.able?_flush_recorded
  cases hable : e.target.flush.able? with
  | none =>
    rw [hable, Option.map_none] at hrecorded
    have hflush : e.flush host s = (.ok (), s) := flush_of_unable hable s
    refine ⟨[], ?_, Records.silent fun deeds => ?_⟩
    · rw [hflush]
      exact .unable hable
    · rw [hflush, flush_of_unable hrecorded]
  | some flush =>
    rw [hable, Option.map_some] at hrecorded
    have hdeed := Records.of_recorded .flush flush s
    rcases houtcome : flush s with ⟨fault | ⟨⟩, t⟩
    · rw [houtcome] at hdeed
      have hflush : e.flush host s = noteFailure host e "stream_flush" "got %r on %r.flush()" fault
        t :=
        flush_of_error hable houtcome
      have htext := e.text_of_failure "got %r on %r.flush()" "flush" (by decide +kernel)
        (by decide) fault t
      obtain ⟨notes, hnoting, hnote⟩ := noteFailure_recorded h "stream_flush" htext
      have hflushing : Flushing host e s (e.flush host s).1 (.flush (.error fault) :: notes) := by
        rw [hflush]
        exact .failed hable houtcome hnoting
      refine ⟨_, hflushing, fun deeds => ?_⟩
      have hr := (hdeed deeds).trans (by rw [houtcome])
      rw [flush_of_error hrecorded hr, hnote, hflush, List.append_assoc]
      rfl
    · rw [houtcome] at hdeed
      have hflush : e.flush host s = (.ok (), t) := flush_of_ok hable houtcome
      have hflushing : Flushing host e s (e.flush host s).1 [.flush (.ok ())] := by
        rw [hflush]
        exact .flushed hable houtcome
      refine ⟨_, hflushing, fun deeds => ?_⟩
      have hr := (hdeed deeds).trans (by rw [houtcome])
      rw [flush_of_ok hrecorded hr, hflush]

/-- With something to write, a line is lost or written. -/
theorem emit_recorded (h : host.TakesNotes) {write : Output → Action σ Unit}
    (hw : e.target.write = .able write) (hout : e.output entry = .ok out) (s : σ) :
    ∃ deeds, Emission host e out s (e.emit host entry s).1 deeds ∧
      Records (e.recorded.emit host.recorded entry) (e.emit host entry) s deeds := by
  -- the recorded emitter writes the same, so it goes the same way
  have hrecorded : e.recorded.output entry = .ok out := hout
  have hdeed := write_recorded hw out s
  rcases houtcome : e.write out s with ⟨fault | ⟨⟩, t⟩
  · rw [houtcome] at hdeed
    have hemit : e.emit host entry s =
        noteFailure host e "stream_emit" "got %r on %r.emit_entry()" fault t :=
      emit_of_lost hout houtcome
    have htext := e.text_of_failure "got %r on %r.emit_entry()" "emit_entry" (by decide +kernel)
      (by decide) fault t
    obtain ⟨notes, hnoting, hnote⟩ := noteFailure_recorded h "stream_emit" htext
    have hemission : Emission host e out s (e.emit host entry s).1
        (.write out (.error fault) :: notes) := by
      rw [hemit]
      exact .lost houtcome hnoting
    refine ⟨_, hemission, fun deeds => ?_⟩
    have hr := (hdeed deeds).trans (by rw [houtcome])
    rw [emit_of_lost hrecorded hr, hnote, hemit, List.append_assoc]
    rfl
  · rw [houtcome] at hdeed
    have hemit : e.emit host entry s = e.flush host t := emit_of_written hout houtcome
    obtain ⟨later, hflushing, hflush⟩ := e.flush_recorded h t
    have hemission : Emission host e out s (e.emit host entry s).1
        (.write out (.ok ()) :: later) := by
      rw [hemit]
      exact .written houtcome hflushing
    refine ⟨_, hemission, fun deeds => ?_⟩
    have hr := (hdeed deeds).trans (by rw [houtcome])
    rw [emit_of_written hrecorded hr, hflush, hemit, List.append_assoc]
    rfl

end Recording

section Building

variable {label : String} {offer : SinkOffer σ} {settings : StreamSettings}

theorem able_of_streamOf {stream : Stream σ} (h : streamOf host label offer s = (.ok stream, t)) :
    ∃ write, stream.write = .able write := by
  unfold streamOf at h
  generalize offer.named host = found at h
  cases found with
  | value v => cases h
  | emitter e => cases h
  | stream given =>
    dsimp only at h
    split at h
    · next hable =>
      cases h
      cases hwrite : stream.write with
      | able write => exact ⟨write, rfl⟩
      | missing =>
        rw [hwrite] at hable
        cases hable
      | value v =>
        rw [hwrite] at hable
        cases hable
    · cases h

theorem able_of_build (h : build host label offer settings s = (.ok e, t)) :
    ∃ write, e.target.write = .able write := by
  unfold build at h
  split at h
  · cases h
  · obtain ⟨stream, u, hstream, h⟩ := Action.andThen_ok_cases h
    obtain ⟨coding, v, -, h⟩ := Action.andThen_ok_cases h
    cases h
    exact able_of_streamOf hstream

end Building

/-- Handing a line to an emitter that has been built. Either there is nothing to write for the
line: then the emitter fails, and neither the stream nor the handlers of notes have seen anything.
Or the line is written once, and flushed, or it is lost and noted once by every handler; whatever
the stream does, the emitter does not fail if the failures of the stream can be worded. -/
theorem emit_of_build (host : Host σ) (h : host.TakesNotes) (label : String) (offer : SinkOffer σ)
    (settings : StreamSettings) (e : StreamEmitter σ) (s₀ s₁ : σ)
    (hbuild : build host label offer settings s₀ = (.ok e, s₁)) (entry : String) (s : σ) :
    (∃ fault, e.Refuses entry fault ∧ e.emit host entry s = (.error fault, s) ∧
      Records (e.recorded.emit host.recorded entry) (e.emit host entry) s []) ∨
    ((∀ fault, ¬ e.Refuses entry fault) ∧ (e.NotesFailures → (e.emit host entry s).1 = .ok ()) ∧
      ∃ out deeds, e.output entry = .ok out ∧ Emission host e out s (e.emit host entry s).1 deeds ∧
        Records (e.recorded.emit host.recorded entry) (e.emit host entry) s deeds) := by
  cases hout : e.output entry with
  | error fault =>
    have hemit : e.emit host entry s = (.error fault, s) := emit_of_refused hout s
    have hrecorded : e.recorded.output entry = .error fault := hout
    refine .inl ⟨fault, output_error_iff.mp hout, hemit, Records.silent fun deeds => ?_⟩
    rw [hemit, emit_of_refused hrecorded]
  | ok out =>
    obtain ⟨write, hwrite⟩ := able_of_build hbuild
    obtain ⟨deeds, hemission, hrecords⟩ := emit_recorded h hwrite hout s
    refine .inr ⟨?_, hemission.ok, out, deeds, rfl, hemission, hrecords⟩
    intro fault hrefuses
    cases hout.symm.trans (output_error_iff.mpr hrefuses)

theorem PlainHost.strictEmitter_notesFailures : PlainHost.strictEmitter.NotesFailures where
  write out s fault t h := by cases out <;> cases h
  flush flush hable s fault t h := by
    cases hable
    cases h

theorem emit_of_build_strict :
    PlainHost.host.TakesNotes ∧
    build PlainHost.host "StreamEmitter" (.stream PlainHost.octetStream) PlainHost.strictSettings
      [] =
      (.ok PlainHost.strictEmitter, []) ∧
    (∃ fault, PlainHost.strictEmitter.emit PlainHost.host "\u00e9" [] = (.error fault, [])) ∧
    (PlainHost.strictEmitter.emit PlainHost.host "e" []).1 = .ok () := by
  have hbuild : build PlainHost.host "StreamEmitter" (.stream PlainHost.octetStream)
      PlainHost.strictSettings [] = (.ok PlainHost.strictEmitter, []) := rfl
  have hemit := fun entry => emit_of_build PlainHost.host PlainHost.takesNotes "StreamEmitter"
    (.stream PlainHost.octetStream) PlainHost.strictSettings PlainHost.strictEmitter []
    [] hbuild entry []
  refine ⟨PlainHost.takesNotes, hbuild, ?_, ?_⟩
  · rcases hemit "\u00e9" with ⟨fault, -, hfault, -⟩ | ⟨hnone, -⟩
    · exact ⟨fault, hfault⟩
    · have hstrict : ¬ Text.Unencodable.strict.Replaces := fun h => nomatch h 'e'
      have hmissing : Text.Charset.ascii.has (Char.ofNat 0xe9) = false := by decide
      have hmem : Char.ofNat 0xe9 ∈ ("\u00e9" ++ "\n").toList := by decide +kernel
      exact absurd (.coding rfl rfl (.character rfl rfl hstrict hmem hmissing)) (hnone _)
  · rcases hemit "e" with ⟨fault, hrefuses, -⟩ | ⟨-, hok, -⟩
    · have hout : PlainHost.strictEmitter.output "e" = .ok (.octets [101, 10]) := rfl
      cases hout.symm.trans (output_error_iff.mpr hrefuses)
    · exact hok PlainHost.strictEmitter_notesFailures

end StreamEmitter

end RequestLog
