import RequestLog.Proofs.Gateway.RequestHeaders

/-!
Environments that describe a request. The address of a request can be put together, or a name is
missing for it, if the values that are read for it are texts and its paths are in Latin-1. Its
headers can be made if the values that stand for them have texts.
-/
namespace RequestLog.Environ

/-- The names whose values are read for the address and the version of a request. -/
def describing : List String :=
  ["wsgi.url_scheme", "HTTP_HOST", "SERVER_NAME", "SERVER_PORT", "SCRIPT_NAME", "PATH_INFO",
    "QUERY_STRING", "SERVER_PROTOCOL"]

def paths : List String := ["SCRIPT_NAME", "PATH_INFO"]

/-- An environment whose values are texts where they are read, or have them for headers, and whose
paths are in Latin-1. -/
structure Describes (e : Environ) : Prop where
  texts : ∀ name ∈ describing, ∀ v, e.get? name = some v → ∃ s, v = .text s
  headers : ∀ p ∈ e.headerPairs, p.2.HasText
  latin1 : ∀ name ∈ paths, ∀ s, e.get? name = some (.text s) →
    s.toList.all Text.Charset.latin1.has = true

/-- Whether a part of an address has come to nothing worse than a missing name. -/
def Fits {α : Type} (part : Except UriFault α) : Prop :=
  ∀ f, part ≠ .error (.fault f)

namespace Fits

variable {α β : Type}

theorem ok (a : α) : Fits (.ok a) := fun _ h => nomatch h

theorem bind {part : Except UriFault α} {next : α → Except UriFault β} (h : Fits part)
    (hn : ∀ a, part = .ok a → Fits (next a)) : Fits (part >>= next) := by
  intro f hf
  cases hp : part with
  | error g =>
    rw [hp] at hf
    cases hf
    exact h f hp
  | ok a =>
    rw [hp] at hf
    exact hn a hp f hf

end Fits

theorem append_text (url s : String) : append url (.text s) = .ok (url ++ s) := rfl

variable {e : Environ} {name : String}

theorem Fits.required (e : Environ) (name : String) : Fits (e.required name) := by
  unfold Environ.required
  cases e.get? name with
  | none => exact fun _ h => nomatch h
  | some v => exact .ok v

theorem eq_some_of_required {v : Value} (h : e.required name = .ok v) : e.get? name = some v := by
  unfold Environ.required at h
  cases hg : e.get? name with
  | none =>
    rw [hg] at h
    cases h
  | some w =>
    rw [hg] at h
    cases h
    rfl

theorem Fits.quoted {s : String} (h : s.toList.all Text.Charset.latin1.has = true)
    (safe : List Char) :
    Fits (Environ.quoted safe (.text s)) := by
  rw [Environ.quoted, if_pos h]
  exact .ok _

theorem protocolVersion_text (s : String) : ∃ v, protocolVersion (.text s) = .ok v := by
  rw [protocolVersion]
  split
  · exact ⟨_, rfl⟩
  · exact ⟨_, rfl⟩

/-- Values that have texts make headers. -/
theorem normalize_headerSource_ok (h : ∀ p ∈ e.headerPairs, p.2.HasText) :
    ∃ headers, Headers.normalize e.headerSource = .ok headers := by
  obtain ⟨texts, htexts⟩ : ∃ texts, e.headerPairs.mapM HeaderSource.textsOf = .ok texts := by
    refine exists_mapM_iff.mpr fun p hp => ?_
    obtain ⟨value, hvalue⟩ := h p hp
    rw [headerPairs_eq] at hp
    obtain ⟨q, -, rfl⟩ := List.mem_map.mp hp
    exact ⟨(q.1, value), HeaderSource.textsOf_eq_ok.mpr ⟨rfl, hvalue⟩⟩
  rw [← HeaderSource.texts_of_pairs (HeaderSource.pairs_parts _)] at htexts
  exact ⟨_, Headers.normalize_of_texts htexts⟩

namespace Describes

variable (h : e.Describes)

include h

theorem value_cases (hn : name ∈ describing) :
    e.value name = .null ∨ ∃ s, e.get? name = some (.text s) ∧ e.value name = .text s := by
  unfold value
  cases hg : e.get? name with
  | none => exact .inl rfl
  | some v =>
    obtain ⟨s, rfl⟩ := h.texts name hn v hg
    exact .inr ⟨s, rfl, rfl⟩

/-- A value that counts as true is a text, and can be put behind an address. -/
theorem append_value (hn : name ∈ describing) (ht : (e.value name).truthy = true) (url : String) :
    Fits (append url (e.value name)) := by
  rcases h.value_cases hn with hv | ⟨s, -, hv⟩
  · rw [hv] at ht
    cases ht
  · rw [hv, append_text]
    exact .ok _

theorem append_required (hn : name ∈ describing) {v : Value} (hv : e.required name = .ok v)
    (url : String) : Fits (append url v) := by
  obtain ⟨s, rfl⟩ := h.texts name hn v (eq_some_of_required hv)
  rw [append_text]
  exact .ok _

theorem fits_schemePart : Fits e.schemePart := by
  refine (Fits.required e _).bind fun v hv => ?_
  obtain ⟨s, rfl⟩ := h.texts _ (by decide) v (eq_some_of_required hv)
  exact .ok _

theorem fits_hostPart : Fits e.hostPart := by
  refine h.fits_schemePart.bind fun url _ => ?_
  split
  · next ht => exact h.append_value (by decide) ht url
  · refine (Fits.required e _).bind fun v hv => ?_
    refine (h.append_required (by decide) hv url).bind fun url _ => ?_
    refine (Fits.required e _).bind fun number hnumber => ?_
    split
    · exact .ok url
    · exact h.append_required (by decide) hnumber _

theorem fits_script : Fits (quoted ['/'] ((e.value "SCRIPT_NAME").orElse (.text "/"))) := by
  have hslash : ("/" : String).toList.all Text.Charset.latin1.has = true := by decide
  rcases h.value_cases (by decide : "SCRIPT_NAME" ∈ describing) with hv | ⟨s, hs, hv⟩
  · rw [hv]
    exact .quoted hslash _
  · rw [hv, Value.orElse]
    split
    · exact .quoted (h.latin1 _ (by decide) s hs) _
    · exact .quoted hslash _

theorem fits_path (safe : List Char) :
    Fits (quoted safe ((e.get? "PATH_INFO").getD (.text ""))) := by
  cases hg : e.get? "PATH_INFO" with
  | none => exact .quoted (by decide) _
  | some v =>
    obtain ⟨s, rfl⟩ := h.texts _ (by decide) v hg
    exact .quoted (h.latin1 _ (by decide) s hg) _

theorem fits_query (url : String) :
    Fits (if (e.value "QUERY_STRING").truthy then append (url ++ "?") (e.value "QUERY_STRING")
      else .ok url) := by
  split
  · next ht => exact h.append_value (by decide) ht _
  · exact .ok url

theorem fits_uri : Fits e.uri := by
  refine h.fits_hostPart.bind fun url _ => ?_
  refine h.fits_script.bind fun script _ => ?_
  refine (h.fits_path _).bind fun path _ => ?_
  split
  · exact h.fits_query _
  · exact h.fits_query _

theorem url_ok : ∃ v, e.url = .ok v := by
  unfold Environ.url
  rcases hu : e.uri with fault | s
  · cases fault with
    | missing => exact ⟨_, rfl⟩
    | fault f => exact absurd hu (h.fits_uri f)
  · exact ⟨_, rfl⟩

theorem protocolVersion_ok : ∃ v, protocolVersion (e.value "SERVER_PROTOCOL") = .ok v := by
  rcases h.value_cases (by decide : "SERVER_PROTOCOL" ∈ describing) with hv | ⟨s, -, hv⟩
  · rw [hv]
    exact ⟨.null, rfl⟩
  · rw [hv]
    exact protocolVersion_text s

/-- Such an environment describes a request. -/
theorem request_ok : ∃ request, e.request = .ok request := by
  obtain ⟨url, hurl⟩ := h.url_ok
  obtain ⟨version, hversion⟩ := h.protocolVersion_ok
  obtain ⟨headers, hheaders⟩ := normalize_headerSource_ok h.headers
  exact ⟨_, bind_eq_ok.mpr ⟨url, hurl,
    bind_eq_ok.mpr ⟨version, hversion, bind_eq_ok.mpr ⟨headers, hheaders, rfl⟩⟩⟩⟩

end Describes

end RequestLog.Environ
