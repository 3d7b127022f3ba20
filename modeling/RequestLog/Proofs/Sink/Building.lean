import RequestLog.Proofs.Actions
import RequestLog.Sink.Emitter

/-!
What emitters are built of. Building one looks at what is offered and at the settings and changes
nothing; it fails exactly if lines cannot be written to what is offered, if something unknown is
set, or if one of the two names of the coding is not known.
-/
namespace RequestLog

variable {σ : Type} {host : Host σ} {s : σ} {fault : Fault}

namespace Coding

variable {codecs : Codecs}

theorem charsetOf_default :
    charsetOf codecs (.text defaultCharset) = .ok (defaultCharset, some .utf8) := by
  rfl

theorem treatmentOf_default :
    treatmentOf codecs (.text defaultTreatment) = .ok (defaultTreatment, some .escape) := by
  rfl

/-- The names of a coding are looked up one after the other. -/
theorem ofNames_error_iff {charset treatment : Value} :
    ofNames codecs charset treatment = .error fault ↔ charsetOf codecs charset = .error fault ∨
      (∃ found, charsetOf codecs charset = .ok found) ∧
      treatmentOf codecs treatment = .error fault := by
  unfold ofNames
  cases charsetOf codecs charset with
  | error f => simp [bind, Except.bind]
  | ok found => cases treatmentOf codecs treatment <;> simp [bind, Except.bind, pure, Except.pure]

/-- With the treatment that is used where none is given, only the character set can be unknown. -/
theorem ofNames_default_error_iff {charset : Value} :
    ofNames codecs charset (.text defaultTreatment) = .error fault ↔
      charsetOf codecs charset = .error fault := by
  rw [ofNames_error_iff, treatmentOf_default]
  simp

end Coding

/-- The coding that settings ask for at a stream, unless something unknown is set. -/
def StreamSettings.codingFor (settings : StreamSettings) (codecs : Codecs) (stream : Stream σ) :
    Except Fault Coding :=
  if ! settings.unknown.isEmpty then .error (.unknownSettings settings.unknown)
  else Coding.ofNames codecs (StreamEmitter.encodingFor settings.encoding stream) settings.errors

namespace StreamEmitter

variable {offer : SinkOffer σ} {settings : StreamSettings} {stream : Stream σ}
  {write : Output → Action σ Unit}

/-- What lines cannot be written to is refused. -/
theorem build_of_unwritable (label : String) (hk : settings.unknown = [])
    (hw : ∀ stream write, offer.named host = .stream stream → stream.write ≠ .able write) :
    build host label offer settings s =
      (.error (.streamNotWritable label ((offer.named host).shown s)), s) := by
  have hstream : streamOf host label offer s =
      (.error (.streamNotWritable label ((offer.named host).shown s)), s) := by
    unfold streamOf
    cases hfound : offer.named host with
    | value v => rfl
    | emitter e => rfl
    | stream found =>
      have hunable : found.write.able?.isSome = false := by
        cases hwrite : found.write with
        | able write => exact absurd hwrite (hw found write hfound)
        | missing => rfl
        | value v => rfl
      simp only [hunable]
      rfl
  simp only [build, hk, List.isEmpty_nil, Bool.not_true, Bool.false_eq_true, if_false]
  exact Action.andThen_of_error hstream

/-- At a stream that lines can be written to, everything is up to the settings. -/
theorem build_of_writable (label : String) (settings : StreamSettings)
    (hn : offer.named host = .stream stream) (hw : stream.write = .able write) :
    build host label offer settings s =
      ((settings.codingFor host.codecs stream).map fun coding =>
        ⟨label, some stream, stream.nature.isBinary, coding, settings.separator⟩, s) := by
  have hstream : streamOf host label offer s = (.ok stream, s) := by
    simp only [streamOf, hn, hw, Operation.able?, Option.isSome_some, if_true, Action.done_apply]
  unfold build StreamSettings.codingFor
  split
  · rfl
  · rw [Action.andThen_of_ok hstream, Action.andThen_done, Action.ofExcept_apply]

end StreamEmitter

namespace SinkOffer

/-- What is offered as a place for lines, which is the console where nothing is. -/
def orConsole : SinkOffer σ → SinkOffer σ
  | value .null => value (.text "stdout")
  | offer => offer

/-- Why what is offered cannot be a place for lines. -/
inductive Refused (host : Host σ) (offer : SinkOffer σ) (s : σ) : Fault → Prop where
  /-- It is neither an emitter nor a stream that lines can be written to. -/
  | unwritable (plain : ∀ e, offer ≠ .emitter e)
      (closed : ∀ stream write, offer.orConsole.named host = .stream stream →
      stream.write ≠ .able write) :
      Refused host offer s
        (.streamNotWritable "StreamEmitter" ((offer.orConsole.named host).shown s))
  /-- It is a stream of text that names a character set which is not known. -/
  | unreadable {stream : Stream σ} {write : Output → Action σ Unit} {fault : Fault}
      (found : offer.orConsole.named host = .stream stream) (able : stream.write = .able write)
      (textual : stream.nature.isBinary = false)
      (unknown : Coding.charsetOf host.codecs
        (stream.encoding.orElse (.text Coding.defaultCharset)) = .error fault) :
      Refused host offer s fault

theorem named_stream (stream : Stream σ) : (SinkOffer.stream stream).named host = .stream stream :=
    rfl

end SinkOffer

namespace Emitter

theorem ofOffer_of_plain {offer : SinkOffer σ} (h : ∀ e, offer ≠ .emitter e) :
    ofOffer host offer = (StreamEmitter.build host "StreamEmitter" offer.orConsole
      .default).andThen fun e => Action.done (e.emitter host) := by
  cases offer with
  | emitter e => exact absurd rfl (h e)
  | stream stream => rfl
  | value v => cases v <;> rfl

/-- With no settings of its own, an emitter is built of a stream if the stream's character set is
known; octets need none. -/
theorem codingFor_default_error_iff {codecs : Codecs} {stream : Stream σ} :
    StreamSettings.default.codingFor codecs stream = .error fault ↔
      stream.nature.isBinary = false ∧
        Coding.charsetOf codecs (stream.encoding.orElse (.text Coding.defaultCharset)) =
        .error fault := by
  have hname : StreamSettings.default.codingFor codecs stream = Coding.ofNames codecs
      (if stream.nature.isBinary then .text Coding.defaultCharset
        else stream.encoding.orElse (.text Coding.defaultCharset))
        (.text Coding.defaultTreatment) := rfl
  rw [hname, Coding.ofNames_default_error_iff]
  cases stream.nature.isBinary with
  | true => simp [Coding.charsetOf_default]
  | false => simp

/-- An emitter is made of what is offered unless the offer is refused, and nothing else changes. -/
theorem ofOffer_cases (host : Host σ) (offer : SinkOffer σ) (s : σ) :
    (∃ fault, ofOffer host offer s = (.error fault, s) ∧ offer.Refused host s fault) ∨
      (∃ e, ofOffer host offer s = (.ok e, s)) ∧ ∀ fault, ¬ offer.Refused host s fault := by
  by_cases hplain : ∀ e, offer ≠ .emitter e
  · rw [ofOffer_of_plain hplain]
    by_cases hable : ∃ stream write, offer.orConsole.named host = .stream stream ∧
        stream.write = .able write
    · obtain ⟨stream, write, hfound, hwrite⟩ := hable
      have hbuild := StreamEmitter.build_of_writable (s := s) "StreamEmitter" .default hfound
        hwrite
      cases hcoding : StreamSettings.default.codingFor host.codecs stream with
      | error fault =>
        obtain ⟨htextual, hunknown⟩ := codingFor_default_error_iff.mp hcoding
        rw [hcoding] at hbuild
        exact .inl ⟨fault, Action.andThen_of_error hbuild,
          .unreadable hfound hwrite htextual hunknown⟩
      | ok coding =>
        rw [hcoding] at hbuild
        refine .inr ⟨⟨_, Action.andThen_of_ok hbuild⟩, fun fault hrefused => ?_⟩
        cases hrefused with
        | unwritable _ hclosed => exact hclosed stream write hfound hwrite
        | unreadable hfound' _ htextual hunknown =>
          obtain rfl : stream = _ := SinkOffer.stream.inj (hfound.symm.trans hfound')
          cases hcoding.symm.trans (codingFor_default_error_iff.mpr ⟨htextual, hunknown⟩)
    · have hclosed : ∀ stream write, offer.orConsole.named host = .stream stream →
          stream.write ≠ .able write := fun stream write hfound hwrite =>
        hable ⟨stream, write, hfound, hwrite⟩
      have hknown : StreamSettings.default.unknown = [] := rfl
      have hbuild := StreamEmitter.build_of_unwritable (s := s) "StreamEmitter" hknown hclosed
      exact .inl ⟨_, Action.andThen_of_error hbuild, .unwritable hplain hclosed⟩
  · obtain ⟨e, rfl⟩ := Classical.not_forall_not.mp hplain
    refine .inr ⟨⟨e, rfl⟩, fun fault hrefused => ?_⟩
    cases hrefused with
    | unwritable plain _ => exact plain e rfl
    | unreadable found _ _ _ => cases found

end Emitter

end RequestLog
