import RequestLog.Proofs.Format.Lines
import RequestLog.Proofs.Headers
import RequestLog.Proofs.PlainHost
import RequestLog.Proofs.Text.Base64
import RequestLog.Proofs.Text.Pieces
import RequestLog.Proofs.Text.Replacing

/-!
The user of a request from the credentials that its authorization header carries. The name is what
the octets in front of the colon are read as, so the password behind it does not show, whatever
either is made of.
-/
namespace RequestLog

variable {σ : Type}

namespace BasicAuth

open Text

/-- The octet that parts a name from a password. -/
def colon : UInt8 := 0x3A

/-- The octets of a name, with those of a password behind a colon if there is one. -/
def credentials (user : List UInt8) : Option (List UInt8) → List UInt8
  | none => user
  | some password => user ++ colon :: password

/-- Whether a header carries octets: behind the word of the scheme, in letters of any case, stands
what is written for the octets, possibly between white space. -/
def Carries (header : List Char) (octets : List UInt8) : Prop :=
  ∃ word left right, header = word ++ (left ++ Base64.encode octets ++ right) ∧
    word.map Char.toLower = scheme ∧ (∀ c ∈ left, isBlank c = true) ∧ ∀ c ∈ right, isBlank c = true

variable {header : List Char} {user octets : List UInt8}

/-- Carried octets are what the user is looked for in. -/
theorem ofText?_of_carries (h : Carries header octets) :
    ofText? header = some (userOf octets) := by
  obtain ⟨word, left, right, rfl, hword, hleft, hright⟩ := h
  have hlength : word.length = 6 := by
    rw [← List.length_map Char.toLower, hword]
    rfl
  have hascii : ∀ c ∈ word, c.toNat < 128 := by
    intro c hc
    have hmem : c.toLower ∈ scheme := hword ▸ List.mem_map_of_mem hc
    have hall : scheme.all (·.toNat < 128) = true := by decide
    have hlower : c.toLower.toNat < 128 := by simpa using List.all_eq_true.mp hall _ hmem
    exact ascii_of_toLower hlower
  have hcore : HasCore (left ++ Base64.encode octets ++ right) (Base64.encode octets) :=
    ⟨⟨left, right, rfl, hleft, hright⟩,
      fun c hc => Base64.not_isBlank_of_mem_encode octets c (List.mem_of_mem_head? hc),
      fun c hc => Base64.not_isBlank_of_mem_encode octets c (List.mem_of_mem_getLast? hc)⟩
  rw [ofText?, ← hlength, List.take_left, List.drop_left, lower_of_ascii hascii, if_pos hword,
    ← hcore.eq_strip, Base64.decode?_encode]
  rfl

theorem colon_notMem_decodeReplacing (h : colon ∉ user) : ':' ∉ Utf8.decodeReplacing user :=
  fun hc => h (Utf8.mem_of_mem_decodeReplacing (by decide) hc)

/-- The user is what is read of the name alone. -/
theorem userOf_credentials (h : colon ∉ user) (password : Option (List UInt8)) :
    userOf (credentials user password) = Utf8.decodeReplacing user := by
  have hname : ∀ c ∈ Utf8.decodeReplacing user, (c != ':') = true := by
    intro c hc
    rw [bne_iff_ne]
    rintro rfl
    exact colon_notMem_decodeReplacing h hc
  cases password with
  | none => exact List.takeWhile_eq_self_iff.mpr hname
  | some password =>
    rw [userOf, credentials, Utf8.decodeReplacing_append (by decide),
      List.takeWhile_append_of_pos hname]
    exact List.append_nil _

/-- The value that is shown for a name: null for an empty one. -/
def shownOf (user : List UInt8) : Value :=
  if user = [] then .null else .text (String.ofList (Utf8.decodeReplacing user))

theorem ofHeader_of_carries {value : String} (hcolon : colon ∉ user)
    (password : Option (List UInt8)) (h : Carries value.toList (credentials user password)) :
    ofHeader (.text value) = .ok (shownOf user) := by
  have htext := ofText?_of_carries h
  have hvalue : value ≠ "" := by
    rintro rfl
    have hnone : ofText? "".toList = none := by decide +kernel
    rw [hnone] at htext
    cases htext
  rw [userOf_credentials hcolon] at htext
  by_cases hu : user = []
  · simp [ofHeader, htext, Value.truthy, hvalue, Value.orNull, Value.orElse, shownOf, hu,
      Utf8.decodeReplacing_eq_nil_iff]
  · simp [ofHeader, htext, Value.truthy, hvalue, Value.orNull, Value.orElse, shownOf, hu,
      Utf8.decodeReplacing_eq_nil_iff]

end BasicAuth

/-- Whether the only authorization header that a host gives, under a name in any case, carries
octets. -/
structure HeaderSource.Authorizes (source : HeaderSource) (octets : List UInt8) : Prop where
  only : ∃ before name value after, source.texts = .ok (before ++ (name, value) :: after) ∧
    Headers.lowerName name = "authorization" ∧
    (∀ p ∈ before ++ after, Headers.lowerName p.1 ≠ "authorization") ∧
    BasicAuth.Carries value.toList octets

theorem HeaderSource.Authorizes.value {source : HeaderSource} {octets : List UInt8}
    {headers : Headers}
    (h : source.Authorizes octets) (hheaders : Headers.normalize source = .ok headers) :
    ∃ value, headers.valueOf "authorization" .null = .text value ∧
        BasicAuth.Carries value.toList octets := by
  obtain ⟨before, name, value, after, htexts, hname, hothers, hcarries⟩ := h.only
  rw [Headers.normalize_of_texts htexts] at hheaders
  obtain rfl : Headers.ofPairs (before ++ (name, value) :: after) = headers :=
    Except.ok.inj hheaders
  have hlower : Headers.lowerName "authorization" = "authorization" := by decide +kernel
  exact ⟨value, Headers.valueOf_of_get? hlower (Headers.get?_ofPairs_of_only hname hothers) _,
    hcarries⟩

open BasicAuth (colon credentials shownOf) in
/-- The token for the user shows what the name of the credentials is read as, and nothing for an
empty one. What it shows is the same for all passwords and has no colon. -/
theorem Registry.resolve_remoteUser (host : Host σ) {user : List UInt8} (hcolon : colon ∉ user) :
    (∀ password source snapshot args s, source.Authorizes (credentials user password) →
      Headers.normalize source = .ok snapshot.request.headers →
      (builtin host).resolve (.text "remote-user") snapshot args s = (.ok (shownOf user), s)) ∧
    (shownOf user = .null ↔ user = []) ∧
    ∀ text, shownOf user = .text text →
      text = String.ofList (Text.Utf8.decodeReplacing user) ∧ ':' ∉ text.toList := by
  refine ⟨fun password source snapshot args s hsource hheaders => ?_, ?_, fun text htext => ?_⟩
  · obtain ⟨value, hvalue, hcarries⟩ := hsource.value hheaders
    have hregistered :
        ("remote-user", Extractor.ofFunction "<extractor remote-user>" Builtin.remoteUser) ∈
        Builtin.extractors host := by simp [Builtin.extractors]
    have hfind : (builtin host).find (.text "remote-user") =
        .ok (.ofFunction "<extractor remote-user>" Builtin.remoteUser) := by
      rw [find, get, get?_builtin hregistered]
    have huser : Builtin.remoteUser snapshot (someArgs args) = .ok (shownOf user) := by
      rw [Builtin.remoteUser, BasicAuth.find, Request.header, hvalue]
      exact BasicAuth.ofHeader_of_carries hcolon password hcarries
    rw [resolve, hfind]
    simp [Extractor.ofFunction, huser, Action.ofExcept, Action.andThen, Action.done]
  · by_cases hu : user = [] <;> simp [shownOf, hu]
  · unfold shownOf at htext
    split at htext
    · cases htext
    · cases htext
      exact ⟨rfl, by simpa using BasicAuth.colon_notMem_decodeReplacing hcolon⟩

/-- Headers with a name that breaks off within a character, and a password that is no text
either. -/
def brokenHeaders : HeaderSource :=
  .parts [[.text "Host", .text "plain"],
    [.octets (Text.Utf8.encode "AUTHORIZATION".toList), .text "bAsIC \t YeKCOsMo\u00A0"]]

open BasicAuth (colon credentials) in
theorem Registry.resolve_remoteUser_broken :
    colon ∉ [0x61, 0xE2, 0x82] ∧
      brokenHeaders.Authorizes (credentials [0x61, 0xE2, 0x82] (some [0xC3, 0x28])) ∧
      Headers.normalize brokenHeaders =
        .ok ⟨[("host", "plain"), ("authorization", "bAsIC \t YeKCOsMo\u00A0")]⟩ ∧
      (builtin PlainHost.host).resolve (.text "remote-user")
        (PlainHost.snapshot ⟨[("host", "plain"), ("authorization", "bAsIC \t YeKCOsMo\u00A0")]⟩) []
        [] =
          (.ok (.text "a\uFFFD"), []) := by
  have hcolon : colon ∉ [0x61, 0xE2, 0x82] := by decide
  have htexts : brokenHeaders.texts =
      .ok [("Host", "plain"), ("AUTHORIZATION", "bAsIC \t YeKCOsMo\u00A0")] :=
    congrArg Except.ok (by decide +kernel)
  have hsource : brokenHeaders.Authorizes (credentials [0x61, 0xE2, 0x82] (some [0xC3, 0x28])) :=
    ⟨[("Host", "plain")], "AUTHORIZATION", "bAsIC \t YeKCOsMo\u00A0", [],
      htexts, by decide +kernel, by decide +kernel,
      "bAsIC ".toList, "\t ".toList, "\u00A0".toList, by decide +kernel, by decide +kernel,
      List.all_eq_true.mp (by decide +kernel), List.all_eq_true.mp (by decide +kernel)⟩
  have hentries : (Headers.ofPairs [("Host", "plain"),
      ("AUTHORIZATION", "bAsIC \t YeKCOsMo\u00A0")]).entries =
      [("host", "plain"), ("authorization", "bAsIC \t YeKCOsMo\u00A0")] := by decide +kernel
  have hheaders : Headers.normalize brokenHeaders =
      .ok ⟨[("host", "plain"), ("authorization", "bAsIC \t YeKCOsMo\u00A0")]⟩ := by
    rw [← hentries]
    exact Headers.normalize_of_texts htexts
  obtain ⟨hresolve, -, -⟩ := resolve_remoteUser PlainHost.host hcolon
  refine ⟨hcolon, hsource, hheaders, ?_⟩
  have htext : String.ofList (Text.Utf8.decodeReplacing [0x61, 0xE2, 0x82]) = "a\uFFFD" := by
    decide +kernel
  rw [hresolve _ _ _ [] [] hsource hheaders, BasicAuth.shownOf, if_neg (List.cons_ne_nil _ _),
    htext]

end RequestLog
