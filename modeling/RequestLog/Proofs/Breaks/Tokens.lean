import RequestLog.Proofs.Breaks.Values
import RequestLog.Proofs.Tables
import RequestLog.Proofs.Text.Pieces
import RequestLog.Proofs.Url.Parts
import RequestLog.Token.Registry

/-!
Tokens without line breaks. What most tokens show is a number, a date, or cut out of what the
request and its response carry, and has no break where those have none. The user is read from an
encoded header and can have breaks that the header has not.
-/
namespace RequestLog

open Text (IsBreak)

variable {σ : Type}

/-- Whether no value of headers has a line break. -/
def Headers.Unbroken (h : Headers) : Prop :=
  ∀ name value, h.get? name = some value → Text.Unbroken value.toList

/-- What servers promise of a request and of its response: no line breaks in the texts and octets
of the request, in the status where it is a text, and in the values of the headers. -/
structure Snapshot.Unbroken (s : Snapshot σ) : Prop where
  method : s.request.method.Unbroken
  url : s.request.url.Unbroken
  referrer : s.request.referrer.Unbroken
  clientAddress : s.request.clientAddress.Unbroken
  httpVersion : s.request.httpVersion.Unbroken
  requestHeaders : s.request.headers.Unbroken
  status : ∀ text, s.status = .text text → Text.Unbroken text.toList
  responseHeaders : s.response.response.headers.Unbroken

/-- Whether the authorization header of a request, once decoded, names a user with a line break. -/
def Request.HidesBreak (r : Request) : Prop :=
  ∃ header user, r.header "authorization" = .text header ∧
    BasicAuth.ofText? header.toList = some user ∧ ¬ Text.Unbroken user

namespace Headers

variable {h : Headers} {v default : Value}

theorem Unbroken.valueOf (hh : h.Unbroken) (name : String) (hd : default.Unbroken) :
    (h.valueOf name default).Unbroken := by
  unfold Headers.valueOf
  split
  · next value hvalue => exact hh _ value hvalue
  · exact hd

theorem Unbroken.value (hh : h.Unbroken) (hd : default.Unbroken) {name : Value}
    (hv : h.value name default = .ok v) : v.Unbroken := by
  unfold Headers.value at hv
  split at hv
  · cases hv
    exact hh.valueOf _ hd
  · cases hv
    exact hd
  · cases hv

end Headers

namespace Snapshot.Unbroken

variable {s : Snapshot σ}

theorem requestHeader (h : s.Unbroken) (name : String) : (s.request.header name).Unbroken :=
  h.requestHeaders.valueOf name trivial

theorem responseHeader (h : s.Unbroken) (name : String) :
    (s.response.response.header name).Unbroken :=
  h.responseHeaders.valueOf name trivial

end Snapshot.Unbroken

namespace Url

variable {cs : List Char}

theorem unbroken_shown (h : Text.Unbroken cs) : Text.Unbroken (shown cs) := by
  unfold shown
  split
  · exact h
  · next parts hparts =>
    split
    · exact h
    · split
      · decide
      · exact h.subset (path_subset hparts)

end Url

/-- Octets that are ASCII are those of the characters that they are read as. -/
theorem Text.Charset.mem_of_ascii {os : List UInt8} {cs : List Char}
    (h : Charset.ascii.decode? os = some cs) {c : Char} (hc : c ∈ cs) :
    Utf8.octet c.toNat ∈ os := by
  induction os generalizing cs with
  | nil =>
    cases h
    cases hc
  | cons o rest ih =>
    rw [Charset.decode?, List.mapM_cons] at h
    obtain ⟨d, hd, h⟩ := Option.bind_eq_some_iff.mp h
    obtain ⟨more, hmore, h⟩ := Option.bind_eq_some_iff.mp h
    cases h
    split at hd
    · next ho =>
      cases hd
      rcases List.mem_cons.mp hc with rfl | hc
      · have hvalid : o.toNat.isValidChar := .inl (by omega)
        have hoctet : Utf8.octet (Char.ofNat o.toNat).toNat = o := by
          rw [toNat_ofNat, if_pos hvalid, Utf8.octet, UInt8.ofNat_toNat]
        rw [hoctet]
        exact List.mem_cons_self
      · exact List.mem_cons_of_mem _ (ih hmore hc)
    · cases hd

namespace ClientAddress

variable {valueOf : String → Value} {v : Value}

theorem unbroken_firstTrue {values : List Value} (h : ∀ w ∈ values, w.Unbroken) :
    (firstTrue values).Unbroken := by
  induction values with
  | nil => trivial
  | cons w rest ih =>
    exact (h w List.mem_cons_self).orElse (ih fun u hu => h u (List.mem_cons_of_mem _ hu))

theorem unbroken_find (hvalues : ∀ name, (valueOf name).Unbroken) (h : find valueOf = .ok v) :
    v.Unbroken := by
  unfold find at h
  split at h
  · have hforwarded := hvalues forwardedFor
    unfold ofForwarded at h
    split at h
    · next s hs =>
      cases h
      rw [hs] at hforwarded
      have hentry : Value.Unbroken (.text (String.ofList (firstEntry s.toList))) := by
        rw [Value.unbroken_text, String.toList_ofList]
        exact Text.Unbroken.subset hforwarded fun c hc =>
          (List.takeWhile_sublist _).subset (Text.mem_of_mem_strip hc)
      exact hentry.orNull
    · cases h
    · cases h
  · cases h
    apply unbroken_firstTrue
    intro w hw
    obtain ⟨name, -, rfl⟩ := List.mem_map.mp hw
    exact hvalues name

end ClientAddress

namespace BasicAuth

variable {r : Request} {v : Value}

/-- A user with a line break is the user of the request: a text that is empty has none. -/
theorem find_of_hidesBreak (h : r.HidesBreak) :
    ∃ user, find r.header = .ok (.text (String.ofList user)) ∧ ¬ Text.Unbroken user := by
  obtain ⟨header, user, hheader, huser, hbreak⟩ := h
  refine ⟨user, ?_, hbreak⟩
  have hne : user ≠ [] := by
    rintro rfl
    exact hbreak Text.unbroken_nil
  have hheader' : header ≠ "" := by
    rintro rfl
    have hnone : ofText? "".toList = none := by decide +kernel
    rw [hnone] at huser
    cases huser
  simp [find, ofHeader, hheader, huser, Value.truthy, Value.orNull, Value.orElse, hne, hheader']

theorem unbroken_find (hr : ¬ r.HidesBreak) (h : find r.header = .ok v) : v.Unbroken := by
  unfold find at h
  generalize hheader : r.header "authorization" = header at h
  unfold ofHeader at h
  split at h
  · split at h
    · next s _ =>
      split at h
      · next user huser =>
        cases h
        have hbroken : Text.Unbroken user :=
          Decidable.byContradiction fun hbreak => hr ⟨s, user, hheader, huser, hbreak⟩
        have htext : Value.Unbroken (.text (String.ofList user)) := by
          rwa [Value.unbroken_text, String.toList_ofList]
        exact htext.orNull
      · cases h
        trivial
    · cases h
      trivial
    · cases h
    · cases h
  · cases h
    trivial

end BasicAuth

namespace Builtin

variable {snapshot : Snapshot σ} {args : List Value} {v : Value}

theorem unbroken_urlOf {url : Value} (hu : url.Unbroken) (h : urlOf url = .ok v) : v.Unbroken := by
  unfold urlOf at h
  split at h
  · split at h
    · next s =>
      cases h
      rw [Value.unbroken_text, String.toList_ofList]
      exact Url.unbroken_shown hu
    · next os =>
      split at h
      · cases h
        exact hu
      · next cs hcs =>
        split at h
        · cases h
          exact hu
        · next parts hparts =>
          repeat' split at h
          all_goals cases h
          · exact hu
          · exact Value.unbroken_text.mpr (by decide)
          · intro o ho
            obtain ⟨c, hc, ho⟩ := List.mem_flatMap.mp ho
            rw [List.mem_singleton.mp ho]
            exact hu _ (Text.Charset.mem_of_ascii hcs (Url.path_subset hparts hc))
    · cases h
    · cases h
  · cases h
    trivial

theorem unbroken_lapse {stop : Float → Float} (h : lapse stop snapshot args = .ok v) :
    v.Unbroken := by
  obtain ⟨places, -, h⟩ := bind_eq_ok.mp h
  split at h
  · cases h
    exact Number.unbroken_fixedText _ _
  · cases h
    trivial

theorem unbroken_date {now : ClockReading} (h : date now args = .ok v) : v.Unbroken := by
  obtain ⟨form, -, h⟩ := bind_eq_ok.mp h
  cases form with
  | none =>
    cases h
    trivial
  | some form =>
    obtain ⟨text, htext, h⟩ := bind_eq_ok.mp h
    cases h
    exact Time.unbroken_dateText htext

theorem unbroken_colourCode (code : Nat) : Text.Unbroken (colourCode code).toList := by
  have hmarks : ¬ IsBreak (Char.ofNat 27) ∧ ¬ IsBreak '[' ∧ ¬ IsBreak 'm' := by decide
  simp [colourCode, Text.unbroken_digits, hmarks]

theorem unbroken_coloured (n : Int) : Text.Unbroken (coloured n).toList := by
  simp [coloured, unbroken_colourCode, Number.unbroken_intText]

theorem unbroken_status (hs : snapshot.Unbroken) (h : status snapshot args = .ok v) :
    v.Unbroken := by
  unfold status at h
  split at h
  · next t ht =>
    cases h
    apply hs.status
    unfold Value.orElse at ht
    split at ht
    · exact ht
    · cases ht
  · obtain ⟨n, -, h⟩ := bind_eq_ok.mp h
    obtain ⟨shown, hshown, h⟩ := bind_eq_ok.mp h
    cases h
    split
    · exact unbroken_coloured n
    · rw [Value.unbroken_text, ← (Value.numeral_eq_ok.mp (mapError_eq_ok.mp hshown)).2]
      exact Number.unbroken_intText n

theorem unbroken_referrer (hs : snapshot.Unbroken) (h : referrer snapshot args = .ok v) :
    v.Unbroken := by
  cases h
  exact hs.referrer.orElse ((hs.requestHeader _).orElse (hs.requestHeader _).orNull)

theorem unbroken_namedHeader {headers : Headers} (hh : headers.Unbroken)
    (h : namedHeader headers args = .ok v) : v.Unbroken := by
  unfold namedHeader at h
  simp only at h
  split at h
  · obtain ⟨w, hw, rfl⟩ := map_eq_ok.mp h
    have hnull : Value.null.Unbroken := trivial
    exact (hh.value hnull hw).orNull
  · cases h
    trivial

theorem unbroken_remoteAddress (hs : snapshot.Unbroken)
    (h : remoteAddress snapshot args = .ok v) : v.Unbroken := by
  obtain ⟨found, hfound, h⟩ := bind_eq_ok.mp h
  cases h
  exact (ClientAddress.unbroken_find hs.requestHeader hfound).orElse hs.clientAddress.orNull

/-- A known token is the user's, or shows no line break where the snapshot has none. -/
theorem cases_of_mem_extractors {host : Host σ} {name : String} {e : Extractor σ}
    (h : (name, e) ∈ extractors host) :
    (name = "remote-user" ∧ ∃ shown, e = .ofFunction shown remoteUser) ∨
      (name ≠ "remote-user" ∧ ∀ {snapshot : Snapshot σ} {args : List Value} {s : σ} {v : Value},
        snapshot.Unbroken → (e.call snapshot args s).1 = .ok v → v.Unbroken) := by
  simp only [extractors, List.mem_cons, Prod.mk.injEq, List.not_mem_nil, or_false] at h
  rcases h with ⟨rfl, rfl⟩ | ⟨rfl, rfl⟩ | ⟨rfl, rfl⟩ | ⟨rfl, rfl⟩ | ⟨rfl, rfl⟩ | ⟨rfl, rfl⟩ |
    ⟨rfl, rfl⟩ | ⟨rfl, rfl⟩ | ⟨rfl, rfl⟩ | ⟨rfl, rfl⟩ | ⟨rfl, rfl⟩ | ⟨rfl, rfl⟩ | ⟨rfl, rfl⟩ |
    ⟨rfl, rfl⟩
  -- the user's token is the last one; the others have a lemma each where they do not read a field
  case inr.inr.inr.inr.inr.inr.inr.inr.inr.inr.inr.inr.inr => exact .inl ⟨rfl, _, rfl⟩
  all_goals
    refine .inr ⟨by decide, fun {snapshot args s v} hs h => ?_⟩
    simp only [Extractor.ofFunction, ofClocks, Action.ofExcept_apply,
      Action.andThen_of_ok (Action.look_apply _ _)] at h
  · exact unbroken_urlOf hs.url h
  · cases h
    exact hs.method
  · exact unbroken_lapse h
  · exact unbroken_lapse h
  · exact unbroken_date h
  · exact unbroken_status hs h
  · exact unbroken_referrer hs h
  · cases h
    exact hs.httpVersion.orElse (Value.unbroken_text.mpr (by decide))
  · cases h
    exact (hs.requestHeader _).orNull
  · exact unbroken_namedHeader hs.requestHeaders h
  · exact unbroken_namedHeader hs.responseHeaders h
  · cases h
    exact (hs.responseHeader _).orElse (Value.unbroken_text.mpr (by decide))
  · exact unbroken_remoteAddress hs h

end Builtin

end RequestLog
