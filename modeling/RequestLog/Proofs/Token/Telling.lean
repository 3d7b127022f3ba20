import RequestLog.Proofs.Format.Settings
import RequestLog.Proofs.Refusals

/-!
Telling the known tokens. When one of them fails, the failure is one of the log's own, and its
value is a text unless it is a field of the request that is passed through. So a snapshot that can
be described and whose fields have texts has a line, in whatever format.
-/
namespace RequestLog

variable {σ α β : Type}

/-- Whether a computation fails with faults of the log's own making only. -/
def OwnFaults (x : Except Fault α) : Prop :=
  ∀ f, x = .error f → f.IsOwn

namespace OwnFaults

theorem ok (a : α) : OwnFaults (.ok a) := fun _ h => nomatch h

theorem error {f : Fault} (h : f.IsOwn) : OwnFaults (.error f : Except Fault α) := by
  intro g hg
  cases hg
  exact h

theorem bind {x : Except Fault α} {next : α → Except Fault β} (hx : OwnFaults x)
    (hn : ∀ a, OwnFaults (next a)) : OwnFaults (x >>= next) := by
  intro f h
  rcases bind_eq_error.mp h with h | ⟨a, -, h⟩
  · exact hx f h
  · exact hn a f h

end OwnFaults

/-- Whether an outcome is a value with a text or a fault of the log's own making. -/
structure Told (outcome : Except Fault Value) : Prop where
  text : ∀ v, outcome = .ok v → v.HasText
  fault : OwnFaults outcome

namespace Told

theorem ok {v : Value} (h : v.HasText) : Told (.ok v) where
  text _ hw := Except.ok.inj hw ▸ h
  fault := .ok v

theorem error {f : Fault} (h : f.IsOwn) : Told (.error f) where
  text _ hv := nomatch hv
  fault := .error h

theorem bind {x : Except Fault α} {next : α → Except Fault Value} (hx : OwnFaults x)
    (hn : ∀ a, Told (next a)) : Told (x >>= next) where
  text v hv := by
    obtain ⟨a, -, ha⟩ := bind_eq_ok.mp hv
    exact (hn a).text v ha
  fault := hx.bind fun a => (hn a).fault

end Told

theorem Value.ownFaults_toWhole (v : Value) : OwnFaults v.toWhole := by
  intro f h
  unfold toWhole at h
  split at h
  · cases h
  · cases h
  · split at h <;> cases h <;> trivial
  · obtain ⟨e, -, rfl⟩ := mapError_eq_error.mp h
    trivial
  · obtain ⟨e, -, rfl⟩ := mapError_eq_error.mp h
    trivial
  · cases h
    trivial

namespace Time

theorem ownFaults_microsOfValue (v : Value) : OwnFaults (microsOfValue v) := by
  unfold microsOfValue
  split
  · unfold microsOfFloat
    split
    · exact .error trivial
    · exact .error trivial
    · split
      · exact .ok _
      · exact .error trivial
  · split
    · split
      · exact .ok _
      · exact .error trivial
    · exact .error trivial

theorem ownFaults_universal (micros : Int) : OwnFaults (universal micros) := by
  unfold universal
  simp only
  split
  · exact .error trivial
  · split
    · exact .ok _
    · exact .error trivial

theorem ownFaults_dateText (form : DateForm) (time : Value) : OwnFaults (dateText form time) :=
  (ownFaults_microsOfValue time).bind fun micros =>
    (ownFaults_universal micros).bind fun _ => .ok _

end Time

theorem Headers.hasText_valueOf (h : Headers) (name : String) {default : Value}
    (hd : default.HasText) : (h.valueOf name default).HasText := by
  unfold valueOf
  split
  · exact Value.hasText_text _
  · exact hd

/-- What a log needs of a snapshot to say all that it says of it: it can be described, and the
fields of the request that are passed through have texts. -/
structure Snapshot.Told (snapshot : Snapshot σ) : Prop where
  literal : snapshot.HasLiteral
  method : snapshot.request.method.HasText
  referrer : snapshot.request.referrer.HasText
  clientAddress : snapshot.request.clientAddress.HasText
  httpVersion : snapshot.request.httpVersion.HasText

namespace Builtin

variable {snapshot : Snapshot σ}

theorem told_urlOf (url : Value) : RequestLog.Told (urlOf url) := by
  unfold urlOf
  split
  · split
    · exact .ok (Value.hasText_text _)
    · repeat' split
      · exact .ok (Value.hasText_octets _)
      · exact .ok (Value.hasText_octets _)
      · exact .ok (Value.hasText_octets _)
      · exact .ok (Value.hasText_text _)
      · exact .ok (Value.hasText_octets _)
    · exact .error trivial
    · exact .error trivial
  · exact .ok Value.hasText_null

theorem told_lapse (stop : Float → Float) (snapshot : Snapshot σ) (args : List Value) :
    RequestLog.Told (lapse stop snapshot args) := by
  have hplaces : OwnFaults (placesOf args) := by
    unfold placesOf
    split
    · exact .ok _
    · next f hf =>
      split
      · exact .ok _
      · exact .error (Value.ownFaults_toWhole _ f hf)
  refine .bind hplaces fun places => ?_
  split
  · exact .ok (Value.hasText_text _)
  · exact .ok Value.hasText_null

theorem told_date (now : ClockReading) (args : List Value) : RequestLog.Told (date now args) := by
  have hform : OwnFaults (dateFormOf args) := by
    unfold dateFormOf
    split
    · exact .ok _
    · exact .error trivial
    · exact .ok _
  refine .bind hform fun form => ?_
  cases form with
  | none => exact .ok Value.hasText_null
  | some form =>
    exact .bind (Time.ownFaults_dateText form _) fun _ => .ok (Value.hasText_text _)

theorem told_status (snapshot : Snapshot σ) (args : List Value) :
    RequestLog.Told (status snapshot args) := by
  unfold status
  split
  · exact .ok (Value.hasText_text _)
  · have hwritten (n : Int) : OwnFaults (Value.int n).written := by
      intro f hf
      obtain ⟨r, -, rfl⟩ := mapError_eq_error.mp hf
      trivial
    exact .bind (Value.ownFaults_toWhole _) fun n =>
      .bind (hwritten n) fun _ => .ok (Value.hasText_text _)

theorem told_namedHeader (headers : Headers) (args : List Value) :
    RequestLog.Told (namedHeader headers args) := by
  unfold namedHeader
  simp only
  split
  · generalize Extractor.firstArg args .null = name
    unfold Headers.value
    split
    · exact .ok (headers.hasText_valueOf _ Value.hasText_null).orNull
    · exact .ok Value.hasText_null.orNull
    · exact .error trivial
  · exact .ok Value.hasText_null

theorem told_clientAddress {valueOf : String → Value} (h : ∀ name, (valueOf name).HasText) :
    RequestLog.Told (ClientAddress.find valueOf) := by
  have hfirst : ∀ vs : List Value, (∀ v ∈ vs, v.HasText) →
      (ClientAddress.firstTrue vs).HasText := by
    intro vs hvs
    induction vs with
    | nil => exact Value.hasText_null
    | cons v rest ih =>
      obtain ⟨hv, hrest⟩ := List.forall_mem_cons.mp hvs
      exact hv.orElse (ih hrest)
  unfold ClientAddress.find
  split
  · unfold ClientAddress.ofForwarded
    split
    · exact .ok (Value.hasText_text _).orNull
    · exact .error trivial
    · exact .error trivial
  · refine .ok (hfirst _ fun v hv => ?_)
    obtain ⟨name, -, rfl⟩ := List.mem_map.mp hv
    exact h name

theorem told_user (header : Value) : RequestLog.Told (BasicAuth.ofHeader header) := by
  unfold BasicAuth.ofHeader
  split
  · split
    · split
      · exact .ok (Value.hasText_text _).orNull
      · exact .ok Value.hasText_null
    · exact .ok Value.hasText_null
    · exact .error trivial
    · exact .error trivial
  · exact .ok Value.hasText_null

/-- Whatever comes of a known token can be told. -/
theorem told_of_mem_extractors {host : Host σ} {name : String} {e : Extractor σ}
    (h : (name, e) ∈ extractors host) (hs : snapshot.Told) (args : List Value) (s : σ) :
    RequestLog.Told (e.call snapshot args s).1 := by
  have hrequest (name : String) : (snapshot.request.header name).HasText :=
    snapshot.request.headers.hasText_valueOf name Value.hasText_null
  have hresponse (name : String) : (snapshot.response.response.header name).HasText :=
    snapshot.response.response.headers.hasText_valueOf name Value.hasText_null
  simp only [extractors, List.mem_cons, Prod.mk.injEq, List.not_mem_nil, or_false] at h
  rcases h with ⟨-, rfl⟩ | ⟨-, rfl⟩ | ⟨-, rfl⟩ | ⟨-, rfl⟩ | ⟨-, rfl⟩ | ⟨-, rfl⟩ | ⟨-, rfl⟩ |
    ⟨-, rfl⟩ | ⟨-, rfl⟩ | ⟨-, rfl⟩ | ⟨-, rfl⟩ | ⟨-, rfl⟩ | ⟨-, rfl⟩ | ⟨-, rfl⟩
  all_goals
    simp only [Extractor.ofFunction, ofClocks, Action.ofExcept_apply,
      Action.andThen_of_ok (Action.look_apply _ _)]
  · exact told_urlOf _
  · exact .ok hs.method
  · exact told_lapse ..
  · exact told_lapse ..
  · exact told_date ..
  · exact told_status ..
  · exact .ok (hs.referrer.orElse ((hrequest _).orElse (hrequest _).orNull))
  · exact .ok (hs.httpVersion.orElse (Value.hasText_text _))
  · exact .ok (hrequest _).orNull
  · exact told_namedHeader ..
  · exact told_namedHeader ..
  · exact .ok ((hresponse _).orElse (Value.hasText_text _))
  · have hfound := told_clientAddress hrequest
    refine ⟨fun v hv => ?_, hfound.fault.bind fun _ => .ok _⟩
    obtain ⟨found, hok, hv⟩ := bind_eq_ok.mp hv
    cases hv
    exact (hfound.text found hok).orElse hs.clientAddress.orNull
  · exact told_user _

end Builtin

namespace Formatter

/-- All that comes of the tokens of a formatter of known tokens can be told. -/
theorem tells_of_builtin {host : Host σ} {given placeholder : String} {snapshot : Snapshot σ}
    (h : snapshot.Told) :
    (ofFormat (Registry.builtin host).freeze given placeholder).Tells snapshot := by
  have hall : ∀ b ∈ (ofFormat (Registry.builtin host).freeze given placeholder).bindings, ∀ s,
      Told (b.extractor.call snapshot (b.args.map .text) s).1 := by
    intro b hb s
    obtain ⟨t, -, e, he, rfl⟩ := mem_bindingsOf.mp hb
    exact Builtin.told_of_mem_extractors (Table.mem_of_get?_ofList he) h _ s
  exact ⟨fun b hb s fault hf => ⟨Fault.hasLiteral_of_isOwn ((hall b hb s).fault fault hf),
    h.literal⟩, fun b hb s => (hall b hb s).text⟩

end Formatter

end RequestLog
