import Mathlib.Data.Bool.AllAny
import RequestLog.Proofs.Format.Lines
import RequestLog.Proofs.Gateway.Requests
import RequestLog.Proofs.Token.UrlPath
import RequestLog.Proofs.Url.Assembly

/-!
The path that a log shows of a request that an environment describes. The address that is put
together of the environment is taken apart again for the log, and what is left is the encoded form
of the path of the script and the path behind it, whatever characters are in them.
-/
namespace RequestLog.Environ

open RequestLog.Text

variable {e : Environ} {name : String}

/-- Paths that an environment may hold: empty or with a slash in front, of characters up to
U+00FF. -/
structure Rooted (cs : List Char) : Prop where
  root : cs = [] ∨ cs.head? = some '/'
  latin1 : ∀ c ∈ cs, c.toNat < 256

/-- Environments that tell the address of a request: its scheme, its host, or the name and the
number of the server, and its paths. -/
structure Addressed (e : Environ) : Prop where
  scheme : ∃ s ∈ ["http", "https"], e.get? "wsgi.url_scheme" = some (.text s)
  host : (∃ s, e.get? "HTTP_HOST" = some (.text s) ∧ Url.IsHost s.toList) ∨
    (e.value "HTTP_HOST").truthy = false ∧
      (∃ s, e.get? "SERVER_NAME" = some (.text s) ∧ Url.IsHost s.toList) ∧
      ∃ s, e.get? "SERVER_PORT" = some (.text s) ∧ ∀ c ∈ s.toList, c.isDigit = true
  rooted : ∀ name ∈ paths, e.get? name = none ∨
    ∃ s, e.get? name = some (.text s) ∧ Rooted s.toList
  query : e.get? "QUERY_STRING" = none ∨ ∃ s, e.get? "QUERY_STRING" = some (.text s)

/-- The characters of the text under a name: none where there is no text. -/
def charsAt (e : Environ) (name : String) : List Char :=
  match e.value name with
  | .text s => s.toList
  | _ => []

/-- The path of the script and the path behind it, a slash if both are empty. -/
def target (e : Environ) : List Char :=
  if e.charsAt "SCRIPT_NAME" ++ e.charsAt "PATH_INFO" = [] then ['/']
  else e.charsAt "SCRIPT_NAME" ++ e.charsAt "PATH_INFO"

/-- The characters that stand for themselves in the encoded form of a path behind a script. -/
def safeInPath : List Char := ['/', ';', '=', ',']

def encodedTarget (e : Environ) : List Char :=
  if e.charsAt "SCRIPT_NAME" ++ e.charsAt "PATH_INFO" = [] then ['/']
  else Percent.encode ['/'] (e.charsAt "SCRIPT_NAME") ++ Percent.encode safeInPath
    (e.charsAt "PATH_INFO")

theorem quoted_text {s : String} (h : ∀ c ∈ s.toList, c.toNat < 256) (safe : List Char) :
    quoted safe (.text s) = .ok (String.ofList (Percent.encode safe s.toList)) := by
  rw [quoted, if_pos]
  exact List.all_eq_true.mpr fun c hc => decide_eq_true (h c hc)

theorem charsAt_of_none (h : e.get? name = none) : e.charsAt name = [] := by
  rw [charsAt, value, h]
  rfl

theorem charsAt_of_text {s : String} (h : e.get? name = some (.text s)) :
    e.charsAt name = s.toList := by
  rw [charsAt, value, h]
  rfl

theorem value_eq {v : Value} (h : e.get? name = some v) : e.value name = v := by
  rw [value, h]
  rfl

section Host

variable {scheme host server number : String}

theorem schemePart_eq (hs : e.get? "wsgi.url_scheme" = some (.text scheme)) :
    e.schemePart = .ok (scheme ++ "://") := by
  rw [schemePart, required, hs]
  rfl

theorem hostPart_of_host (hs : e.get? "wsgi.url_scheme" = some (.text scheme))
    (hh : e.get? "HTTP_HOST" = some (.text host)) (hne : host ≠ "") :
    e.hostPart = .ok (scheme ++ "://" ++ host) := by
  refine bind_eq_ok.mpr ⟨_, schemePart_eq hs, ?_⟩
  rw [value_eq hh, if_pos ((Value.truthy_text host).mpr hne), append_text]

/-- The number of a server stands behind its name where it does not go without saying. -/
theorem hostPart_of_server (hs : e.get? "wsgi.url_scheme" = some (.text scheme))
    (hh : (e.value "HTTP_HOST").truthy = false)
    (hname : e.get? "SERVER_NAME" = some (.text server))
    (hnumber : e.get? "SERVER_PORT" = some (.text number)) :
    e.hostPart = .ok (scheme ++ "://" ++
      if (Value.text number).equals e.usualNumber then server else server ++ ":" ++ number) := by
  have hserver : e.required "SERVER_NAME" = .ok (.text server) := by rw [required, hname]
  have hport : e.required "SERVER_PORT" = .ok (.text number) := by rw [required, hnumber]
  refine bind_eq_ok.mpr ⟨_, schemePart_eq hs, ?_⟩
  rw [if_neg (by rw [hh]; exact Bool.false_ne_true)]
  refine bind_eq_ok.mpr
    ⟨_, hserver, bind_eq_ok.mpr ⟨_, append_text .., bind_eq_ok.mpr ⟨_, hport, ?_⟩⟩⟩
  split
  · rfl
  · rw [append_text]
    simp only [String.append_assoc]

end Host

namespace Addressed

variable (h : e.Addressed)

include h

theorem rooted_charsAt (hn : name ∈ paths) : Rooted (e.charsAt name) := by
  rcases h.rooted name hn with hnone | ⟨s, hs, hr⟩
  · rw [charsAt_of_none hnone]
    exact ⟨.inl rfl, fun c hc => nomatch hc⟩
  · rwa [charsAt_of_text hs]

theorem rooted_script : Rooted (e.charsAt "SCRIPT_NAME") :=
  h.rooted_charsAt (by decide)

theorem rooted_info : Rooted (e.charsAt "PATH_INFO") :=
  h.rooted_charsAt (by decide)

theorem truthy_iff (hn : name ∈ paths) : (e.value name).truthy = true ↔ e.charsAt name ≠ [] := by
  rcases h.rooted name hn with hnone | ⟨s, hs, -⟩
  · rw [charsAt_of_none hnone, value, hnone]
    exact iff_of_false Bool.false_ne_true fun hne => hne rfl
  · rw [charsAt_of_text hs, value_eq hs, Value.truthy_text, Ne, Ne, ← String.toList_inj,
      String.toList_empty]

theorem quoted_script : quoted ['/'] ((e.value "SCRIPT_NAME").orElse (.text "/")) =
    .ok (String.ofList (Percent.encode ['/']
      (if e.charsAt "SCRIPT_NAME" = [] then ['/'] else e.charsAt "SCRIPT_NAME"))) := by
  rw [Value.orElse]
  by_cases hscript : e.charsAt "SCRIPT_NAME" = []
  · rw [if_pos hscript, if_neg fun ht => (h.truthy_iff (by decide)).mp ht hscript]
    exact quoted_text (s := "/") (List.all_iff_forall_prop.mp (by decide)) _
  · rw [if_neg hscript, if_pos ((h.truthy_iff (by decide)).mpr hscript)]
    rcases h.rooted "SCRIPT_NAME" (by decide) with hnone | ⟨s, hs, hr⟩
    · exact absurd (charsAt_of_none hnone) hscript
    · rw [value_eq hs, charsAt_of_text hs]
      exact quoted_text hr.latin1 _

theorem quoted_info : quoted safeInPath ((e.get? "PATH_INFO").getD (.text "")) =
    .ok (String.ofList (Percent.encode safeInPath (e.charsAt "PATH_INFO"))) := by
  rcases h.rooted "PATH_INFO" (by decide) with hnone | ⟨s, hs, hr⟩
  · rw [hnone, charsAt_of_none hnone]
    exact quoted_text (s := "") (fun c hc => nomatch hc) _
  · rw [hs, charsAt_of_text hs]
    exact quoted_text hr.latin1 _

/-- A slash stands for an empty script, and takes the place of the one that the path behind it
starts with. -/
theorem script_append_info :
    let info := String.ofList (Percent.encode safeInPath (e.charsAt "PATH_INFO"))
    String.ofList (Percent.encode ['/']
        (if e.charsAt "SCRIPT_NAME" = [] then ['/'] else e.charsAt "SCRIPT_NAME")) ++
      (if (e.value "SCRIPT_NAME").truthy then info else String.ofList (info.toList.drop 1)) =
    String.ofList e.encodedTarget := by
  dsimp only
  rw [encodedTarget]
  by_cases hscript : e.charsAt "SCRIPT_NAME" = []
  · rw [if_pos hscript, if_neg fun ht => (h.truthy_iff (by decide)).mp ht hscript, hscript,
      List.nil_append, ← String.ofList_append, String.toList_ofList]
    rcases h.rooted_info.root with hinfo | hinfo
    · rw [hinfo]
      rfl
    · obtain ⟨rest, hrest⟩ := List.head?_eq_some_iff.mp hinfo
      rw [hrest, Percent.encode_of_safe (by decide), if_neg (List.cons_ne_nil _ _)]
      rfl
  · rw [if_neg hscript, if_pos ((h.truthy_iff (by decide)).mpr hscript), if_neg,
      String.ofList_append]
    exact fun hnil => hscript (List.append_eq_nil_iff.mp hnil).1

theorem hostPart_eq : ∃ scheme ∈ ["http", "https"], ∃ host, Url.IsHost host.toList ∧
    e.hostPart = .ok (scheme ++ "://" ++ host) := by
  obtain ⟨scheme, hmem, hscheme⟩ := h.scheme
  refine ⟨scheme, hmem, ?_⟩
  rcases h.host with ⟨s, hs, hhost⟩ | ⟨hnone, ⟨name, hname, hhost⟩, number, hnumber, hdigits⟩
  · have hne : s ≠ "" := by
      rintro rfl
      exact hhost.nonempty rfl
    exact ⟨s, hhost, hostPart_of_host hscheme hs hne⟩
  · refine ⟨_, ?_, hostPart_of_server hscheme hnone hname hnumber⟩
    split
    · exact hhost
    · rw [String.toList_append, String.toList_append, List.append_assoc]
      exact hhost.append_digits hdigits

/-- What the query puts behind an address is nothing, or starts with a question mark. -/
theorem append_query (url : String) : ∃ more, (more = [] ∨ Url.StartsQuery more) ∧ ∃ uri : String,
    (if (e.value "QUERY_STRING").truthy then append (url ++ "?") (e.value "QUERY_STRING")
      else .ok url) =
      .ok uri ∧ uri.toList = url.toList ++ more := by
  by_cases hq : (e.value "QUERY_STRING").truthy = true
  · rw [if_pos hq]
    rcases h.query with hnone | ⟨s, hs⟩
    · rw [value, hnone] at hq
      cases hq
    · refine ⟨'?' :: s.toList, .inr (.inl rfl), url ++ "?" ++ s, by rw [value_eq hs, append_text],
        ?_⟩
      rw [String.toList_append, String.toList_append, List.append_assoc]
      rfl
  · exact ⟨[], .inl rfl, url, if_neg hq, (List.append_nil _).symm⟩

theorem uri_eq : ∃ scheme ∈ ["http", "https"], ∃ host : String, Url.IsHost host.toList ∧
    ∃ more, (more = [] ∨ Url.StartsQuery more) ∧ ∃ uri : String, e.uri = .ok uri ∧
      uri.toList = Url.assembled scheme.toList host.toList e.encodedTarget ++ more := by
  obtain ⟨scheme, hmem, host, hhost, hpart⟩ := h.hostPart_eq
  obtain ⟨more, hmore, uri, huri, hchars⟩ := h.append_query _
  refine ⟨scheme, hmem, host, hhost, more, hmore, uri, ?_, ?_⟩
  · exact bind_eq_ok.mpr ⟨_, hpart, bind_eq_ok.mpr ⟨_, h.quoted_script,
      bind_eq_ok.mpr ⟨_, h.quoted_info, huri⟩⟩⟩
  · rw [hchars, String.append_assoc, h.script_append_info, Url.assembled]
    simp only [String.toList_append, String.toList_ofList, List.append_assoc, List.cons_append]
    rfl

theorem encoded_encodedTarget : Percent.Encoded safeInPath e.encodedTarget := by
  rw [encodedTarget]
  split
  · exact .plain (by decide) .nil
  · refine .append ((Percent.encoded_encode ?_).mono (by decide)) (Percent.encoded_encode ?_)
    · exact h.rooted_script.latin1
    · exact h.rooted_info.latin1

theorem decode_encodedTarget : Percent.decode e.encodedTarget = e.target := by
  rw [encodedTarget, target]
  split
  · decide
  · rw [Percent.decode_encode_append (by decide) h.rooted_script.latin1,
      Percent.decode_encode (by decide) h.rooted_info.latin1]

theorem ascii_encodedTarget : ∀ c ∈ e.encodedTarget, c.toNat < 128 :=
  h.encoded_encodedTarget.ascii (List.all_iff_forall_prop.mp (by decide))

theorem isPath_encodedTarget : Url.IsPath e.encodedTarget where
  rooted := by
    rw [encodedTarget]
    split
    · rfl
    · next hne =>
      rcases h.rooted_script.root with hscript | hscript
      · rw [hscript, List.nil_append] at hne
        rw [hscript]
        have hinfo := h.rooted_info.root.resolve_left hne
        exact Percent.head?_encode (by decide) hinfo
      · rw [List.head?_append, Percent.head?_encode (by decide) hscript]
        rfl
  clear := by
    have hplain : ∀ c ∈ Url.notInPath,
        (Percent.isUnreserved c || safeInPath.contains c) = false :=
      List.all_iff_forall_prop.mp (by decide)
    refine h.encoded_encodedTarget.forall_mem (fun c hc hm => ?_) (by decide)
    rw [hplain c hm] at hc
    cases hc

/-- What is shown of the address is the encoded form of the path. -/
theorem shown_uri : ∃ uri : String,
    e.uri = .ok uri ∧ uri ≠ "" ∧ Url.shown uri.toList = e.encodedTarget := by
  obtain ⟨scheme, hmem, host, hhost, more, hmore, uri, huri, hchars⟩ := h.uri_eq
  have hscheme : ∃ first rest, scheme.toList = first :: rest ∧ ':' ∉ first :: rest ∧
      (first.isAlpha && (first :: rest).all Url.isSchemeChar) = true := by
    rcases List.mem_pair.mp hmem with rfl | rfl
    · exact ⟨'h', ['t', 't', 'p'], rfl, by decide, by decide⟩
    · exact ⟨'h', ['t', 't', 'p', 's'], rfl, by decide, by decide⟩
  obtain ⟨first, rest, hfirst, hcolon, hs⟩ := hscheme
  rw [hfirst] at hchars
  refine ⟨uri, huri, ?_, ?_⟩
  · rintro rfl
    simp [Url.assembled] at hchars
  · have hshown := Url.shown_assembled hs hhost h.isPath_encodedTarget hcolon
    rw [hchars]
    rcases hmore with rfl | hmore
    · rwa [List.append_nil]
    · rwa [(Url.isAbsolute_assembled hs hhost h.isPath_encodedTarget hcolon).shown_append hmore]

theorem url_of_request {σ : Type} {snapshot : Snapshot σ} (hr : e.request = .ok snapshot.request)
    (args : List Value) :
    Builtin.url snapshot args = .ok (.text (String.ofList e.encodedTarget)) := by
  obtain ⟨uri, huri, hne, hshown⟩ := h.shown_uri
  have hurl : e.url = .ok (.text uri) := by rw [url, huri]
  obtain ⟨u, hu, hr⟩ := bind_eq_ok.mp hr
  obtain ⟨version, -, hr⟩ := bind_eq_ok.mp hr
  obtain ⟨headers, -, hr⟩ := bind_eq_ok.mp hr
  obtain rfl : Value.text uri = u := Except.ok.inj (hurl.symm.trans hu)
  have hrequest : snapshot.request.url = .text uri := by
    rw [← Except.ok.inj hr]
  rw [Builtin.url, hrequest, Builtin.urlOf, if_pos ((Value.truthy_text uri).mpr hne), hshown]

/-- The version and the headers that a request is made with do not keep it from being described. -/
theorem request_ok (hp : ∀ v, e.get? "SERVER_PROTOCOL" = some v → ∃ s, v = .text s)
    (hheaders : ∀ p ∈ e.headerPairs, p.2.HasText) :
    ∃ request, e.request = .ok request := by
  obtain ⟨uri, huri, -⟩ := h.shown_uri
  have hurl : e.url = .ok (.text uri) := by rw [url, huri]
  have hversion : ∃ version, protocolVersion (e.value "SERVER_PROTOCOL") = .ok version := by
    cases hg : e.get? "SERVER_PROTOCOL" with
    | none =>
      rw [value, hg]
      exact ⟨.null, rfl⟩
    | some v =>
      obtain ⟨s, rfl⟩ := hp v hg
      rw [value_eq hg]
      exact protocolVersion_text s
  obtain ⟨version, hversion⟩ := hversion
  obtain ⟨headers, hheaders⟩ := normalize_headerSource_ok hheaders
  exact ⟨_, bind_eq_ok.mpr ⟨_, hurl,
    bind_eq_ok.mpr ⟨_, hversion, bind_eq_ok.mpr ⟨_, hheaders, rfl⟩⟩⟩⟩

theorem resolve_url {σ : Type} (host : Host σ) {snapshot : Snapshot σ}
    (hr : e.request = .ok snapshot.request) (args : List Value) (s : σ) :
    (Registry.builtin host).resolve (.text "url") snapshot args s =
      (.ok (.text (String.ofList e.encodedTarget)), s) := by
  have hregistered : ("url", Extractor.ofFunction "<extractor url>" Builtin.url) ∈
      Builtin.extractors host := by simp [Builtin.extractors]
  rw [Registry.resolve_builtin hregistered, h.url_of_request hr]

end Addressed

/-- The token for the URL shows the path of a request that an environment describes,
percent-encoded: it is ASCII, and decoding it gives the path of the script and the path behind it.
It does not depend on the scheme, the host and the query, and two requests of which it shows the
same have the same path. -/
theorem url_token_is_path {σ : Type} (host : Host σ) (h : e.Addressed) :
    ((∀ v, e.get? "SERVER_PROTOCOL" = some v → ∃ s, v = .text s) →
      (∀ p ∈ e.headerPairs, p.2.HasText) → ∃ request, e.request = .ok request) ∧
    ∃ path : List Char, Percent.Encoded safeInPath path ∧ (∀ c ∈ path, c.toNat < 128) ∧
      Percent.decode path = e.target ∧
      ∀ (snapshot : Snapshot σ) args s, e.request = .ok snapshot.request →
        (Registry.builtin host).resolve (.text "url") snapshot args s =
          (.ok (.text (String.ofList path)), s) ∧
        ∀ (other : Environ) (otherSnapshot : Snapshot σ), other.Addressed →
          other.request = .ok otherSnapshot.request →
          ((∀ name ∈ paths, other.charsAt name = e.charsAt name) →
            (Registry.builtin host).resolve (.text "url") otherSnapshot args s =
              (Registry.builtin host).resolve (.text "url") snapshot args s) ∧
          ((Registry.builtin host).resolve (.text "url") otherSnapshot args s =
              (Registry.builtin host).resolve (.text "url") snapshot args s →
            other.target = e.target) := by
  refine ⟨h.request_ok, e.encodedTarget, h.encoded_encodedTarget, h.ascii_encodedTarget,
    h.decode_encodedTarget, fun snapshot args s hr => ⟨h.resolve_url host hr args s,
      fun other otherSnapshot hother hotherRequest => ⟨fun hsame => ?_, fun hsame => ?_⟩⟩⟩
  · rw [h.resolve_url host hr, hother.resolve_url host hotherRequest, encodedTarget, encodedTarget,
      hsame "SCRIPT_NAME" (by decide), hsame "PATH_INFO" (by decide)]
  · rw [h.resolve_url host hr, hother.resolve_url host hotherRequest] at hsame
    have hpath : other.encodedTarget = e.encodedTarget := by simpa [String.ofList_inj] using hsame
    rw [← h.decode_encodedTarget, ← hother.decode_encodedTarget, hpath]

/-- An environment without a host, with a query, and with delimiters in its paths. -/
def crowdedEnviron : Environ :=
  ⟨[("wsgi.url_scheme", .text "https"), ("SERVER_NAME", .text "plain-1.local"),
    ("SERVER_PORT", .text "8443"), ("SCRIPT_NAME", .text "/a%"),
    ("PATH_INFO", .text "//?#;\u00e9\n%2F"), ("QUERY_STRING", .text "#[\t")]⟩

/-- An environment with a host and no query, and with the same paths. -/
def sparseEnviron : Environ :=
  ⟨[("PATH_INFO", .text "//?#;\u00e9\n%2F"), ("SCRIPT_NAME", .text "/a%"),
    ("HTTP_HOST", .text "plain:80"), ("wsgi.url_scheme", .text "http")]⟩

theorem addressed_crowded : crowdedEnviron.Addressed where
  scheme := ⟨"https", by decide, rfl⟩
  host := .inr ⟨rfl, ⟨_, rfl, by decide, List.all_iff_forall_prop.mp (by decide)⟩, _, rfl,
    List.all_iff_forall_prop.mp (by decide)⟩
  rooted name hn := by
    rcases List.mem_pair.mp hn with rfl | rfl
    · exact .inr ⟨_, rfl, .inr (by decide), List.all_iff_forall_prop.mp (by decide)⟩
    · exact .inr ⟨_, rfl, .inr (by decide), List.all_iff_forall_prop.mp (by decide)⟩
  query := .inr ⟨_, rfl⟩

theorem addressed_sparse : sparseEnviron.Addressed where
  scheme := ⟨"http", by decide, rfl⟩
  host := .inl ⟨_, rfl, by decide, List.all_iff_forall_prop.mp (by decide)⟩
  rooted name hn := by
    rcases List.mem_pair.mp hn with rfl | rfl
    · exact .inr ⟨_, rfl, .inr (by decide), List.all_iff_forall_prop.mp (by decide)⟩
    · exact .inr ⟨_, rfl, .inr (by decide), List.all_iff_forall_prop.mp (by decide)⟩
  query := .inl rfl

theorem url_token_is_path_crowded : crowdedEnviron.Addressed ∧ sparseEnviron.Addressed ∧
    ∃ (snapshot otherSnapshot : Snapshot (List String)) (path : List Char),
      crowdedEnviron.request = .ok snapshot.request ∧
      sparseEnviron.request = .ok otherSnapshot.request ∧
      Percent.decode path = "/a%//?#;\u00e9\n%2F".toList ∧
      (Registry.builtin PlainHost.host).resolve (.text "url") snapshot [] [] =
        (.ok (.text (String.ofList path)), []) ∧
      (Registry.builtin PlainHost.host).resolve (.text "url") otherSnapshot [] [] =
        (.ok (.text (String.ofList path)), []) := by
  obtain ⟨hdescribed, path, -, -, hdecode, hshown⟩ :=
    url_token_is_path PlainHost.host addressed_crowded
  obtain ⟨hother, -⟩ := url_token_is_path PlainHost.host addressed_sparse
  obtain ⟨request, hrequest⟩ := hdescribed (fun v hv => nomatch hv) fun p hp => nomatch hp
  obtain ⟨otherRequest, hotherRequest⟩ := hother (fun v hv => nomatch hv) fun p hp => by
    obtain rfl := List.mem_singleton.mp hp
    exact Value.hasText_text _
  let snapshot (request : Request) : Snapshot (List String) :=
    { PlainHost.snapshot Table.empty with request := request }
  obtain ⟨htoken, hsame⟩ := hshown (snapshot request) [] [] hrequest
  obtain ⟨hequal, -⟩ := hsame sparseEnviron (snapshot otherRequest) addressed_sparse hotherRequest
  have htarget : crowdedEnviron.target = "/a%//?#;\u00e9\n%2F".toList := by decide +kernel
  refine ⟨addressed_crowded, addressed_sparse, snapshot request, snapshot otherRequest, path,
    hrequest, hotherRequest, hdecode.trans htarget, htoken, ?_⟩
  rw [← htoken]
  refine hequal fun name hn => ?_
  rcases List.mem_pair.mp hn with rfl | rfl <;> rfl

end RequestLog.Environ
