import RequestLog.Proofs.Format.Clocks
import RequestLog.Proofs.Format.Setup
import RequestLog.Proofs.Token.Telling
import RequestLog.Proofs.Url.Parts

/-!
The path that a log shows of a URL. A URL that is not absolute is shown as it is; of an absolute
one the path is shown, so that neither its query nor its fragment has a part in a line.
-/
namespace RequestLog

variable {σ : Type} {host : Host σ}

/-- A snapshot with another URL of its request. -/
def Snapshot.withUrl (s : Snapshot σ) (url : String) : Snapshot σ :=
  { s with request := { s.request with url := .text url } }

/-- Whether a snapshot can be described does not depend on the text that its URL is. -/
theorem Snapshot.HasLiteral.withUrl {snapshot : Snapshot σ} {u v : String}
    (h : (snapshot.withUrl u).HasLiteral) : (snapshot.withUrl v).HasLiteral := by
  intro s
  obtain ⟨hrequest, hothers⟩ := exists_literal_iff.mp (h s)
  obtain ⟨hmethod, -⟩ := Request.exists_literal_iff.mp hrequest
  exact exists_literal_iff.mpr ⟨Request.exists_literal_iff.mpr ⟨hmethod, _, rfl⟩, hothers⟩

namespace Builtin

variable {u more : String}

theorem url_withUrl (snapshot : Snapshot σ) (args : List Value) (u : String) :
    url (snapshot.withUrl u) args =
      .ok (if u = "" then .null else .text (String.ofList (Url.shown u.toList))) := by
  by_cases h : u = ""
  · subst h
    rfl
  · simp [url, urlOf, Snapshot.withUrl, Value.truthy, h]

theorem ne_empty_of_isAbsolute (h : Url.IsAbsolute u.toList) : u ≠ "" := by
  rintro rfl
  exact Url.not_isAbsolute_nil h

theorem url_of_isAbsolute (h : Url.IsAbsolute u.toList) (snapshot : Snapshot σ)
    (args : List Value) :
    url (snapshot.withUrl u) args = .ok (.text (String.ofList (Url.shown u.toList))) := by
  rw [url_withUrl, if_neg (ne_empty_of_isAbsolute h)]

theorem url_append (h : Url.IsAbsolute u.toList) (hm : Url.StartsQuery more.toList)
    (snapshot : Snapshot σ) (args : List Value) :
    url (snapshot.withUrl (u ++ more)) args = url (snapshot.withUrl u) args := by
  have hne : u ++ more ≠ "" := fun hempty =>
    ne_empty_of_isAbsolute h (String.append_eq_empty_iff.mp hempty).1
  rw [url_of_isAbsolute h, url_withUrl, if_neg hne, String.toList_append, h.shown_append hm]

/-- No token but the URL's depends on the URL. -/
theorem cases_of_withUrl {p : String × Extractor σ} (hp : p ∈ extractors host) :
    p = ("url", .ofFunction "<extractor url>" url) ∨
      ∀ (snapshot : Snapshot σ) u, p.2.call (snapshot.withUrl u) = p.2.call snapshot := by
  simp only [extractors, List.mem_cons, List.not_mem_nil, or_false] at hp
  rcases hp with rfl | rfl | rfl | rfl | rfl | rfl | rfl | rfl | rfl | rfl | rfl | rfl | rfl | rfl
  · exact .inl rfl
  all_goals exact .inr fun _ _ => rfl

/-- No token tells an absolute URL from the one with a query or a fragment behind it. -/
theorem call_append (h : Url.IsAbsolute u.toList) (hm : Url.StartsQuery more.toList)
    (snapshot : Snapshot σ) (args : List Value) {p : String × Extractor σ}
    (hp : p ∈ extractors host) :
    p.2.call (snapshot.withUrl (u ++ more)) args = p.2.call (snapshot.withUrl u) args := by
  rcases cases_of_withUrl hp with rfl | hsame
  · exact congrArg Action.ofExcept (url_append h hm snapshot args)
  · rw [hsame, hsame]

/-- The extractors of a formatter of the known tokens are those of the tokens. -/
theorem extractor_mem {settings : FormatterSettings} {f : Formatter σ}
    (hf : (Formatter.build (Registry.builtin host) settings).1 = .ok f) {b : Binding σ}
    (hb : b ∈ f.bindings) : ∃ name, (name, b.extractor) ∈ extractors host := by
  obtain ⟨given, placeholder, -, -, rfl⟩ := Formatter.build_ok_iff.mp hf
  obtain ⟨t, -, e, he, rfl⟩ := Formatter.mem_bindingsOf.mp hb
  exact ⟨t.name, Table.mem_of_get?_ofList he⟩

/-- Failures that can be noted with an absolute URL can be noted with a query or a fragment behind
it. -/
theorem notesFailures_append (h : Url.IsAbsolute u.toList) (hm : Url.StartsQuery more.toList)
    {snapshot : Snapshot σ} {settings : FormatterSettings} {f : Formatter σ}
    (hf : (Formatter.build (Registry.builtin host) settings).1 = .ok f)
    (hfaults : f.NotesFailures (snapshot.withUrl u)) :
    f.NotesFailures (snapshot.withUrl (u ++ more)) := by
  intro b hb s fault hfault
  obtain ⟨name, hp⟩ := extractor_mem hf hb
  have hcall : b.extractor.call (snapshot.withUrl (u ++ more)) (b.args.map .text) =
      b.extractor.call (snapshot.withUrl u) (b.args.map .text) :=
    call_append h hm snapshot (b.args.map .text) hp
  rw [hcall] at hfault
  obtain ⟨hliteral, hsnapshot⟩ := hfaults b hb s fault hfault
  exact ⟨hliteral, hsnapshot.withUrl⟩

/-- What is shown of the URL of a request: nothing exactly if it is empty, the URL as it is if it
is not absolute, and a path without breaks if it is. A query or a fragment behind an absolute URL
changes neither this nor any other token. It changes no line either, where notes are taken and
leave the clocks as they are, and the failures of other tokens can be noted. -/
theorem url_shows_path (host : Host σ) (snapshot : Snapshot σ) (args : List Value) (u : String) :
    (url (snapshot.withUrl u) args = .ok .null ↔ u = "") ∧
    (u ≠ "" → ¬ Url.IsAbsolute u.toList → url (snapshot.withUrl u) args = .ok (.text u)) ∧
    (Url.IsAbsolute u.toList → ∃ path : String,
      url (snapshot.withUrl u) args = .ok (.text path) ∧ path.toList.head? = some '/' ∧
      (∀ c ∈ path.toList, c ∉ Url.notInPath) ∧
      ∀ more : String, Url.StartsQuery more.toList →
        url (snapshot.withUrl (u ++ more)) args = .ok (.text path) ∧
        (∀ p ∈ extractors host, ∀ args,
          p.2.call (snapshot.withUrl (u ++ more)) args = p.2.call (snapshot.withUrl u) args) ∧
        (host.TakesNotes → host.Keeps host.now → ∀ settings f,
          (Formatter.build (Registry.builtin host) settings).1 = .ok f →
          f.NotesFailures (snapshot.withUrl u) → ∀ s,
            (f.line host (snapshot.withUrl (u ++ more)) s).1 =
              (f.line host (snapshot.withUrl u) s).1)) := by
  refine ⟨?_, fun hne habsolute => ?_, fun habsolute => ?_⟩
  · rw [url_withUrl]
    by_cases h : u = "" <;> simp [h]
  · rw [url_withUrl, if_neg hne, Url.shown_of_not_isAbsolute habsolute, String.ofList_toList]
  · obtain ⟨hhead, hchars⟩ := habsolute.shown_path
    have hurl := url_of_isAbsolute habsolute snapshot args
    refine ⟨_, hurl, by rwa [String.toList_ofList], by rwa [String.toList_ofList],
      fun more hm => ⟨?_, fun p hp args => ?_, fun hnotes hkeeps settings f hf hfaults s => ?_⟩⟩
    · rw [url_append habsolute hm, hurl]
    · exact call_append habsolute hm snapshot args hp
    · apply Formatter.line_congr_of_readsClocks hnotes hkeeps
      · intro b hb
        obtain ⟨name, hp⟩ := extractor_mem hf hb
        exact readsClocks hp
      · exact notesFailures_append habsolute hm hf hfaults
      · exact hfaults
      · intro b hb args
        obtain ⟨name, hp⟩ := extractor_mem hf hb
        exact call_append habsolute hm snapshot args hp

theorem url_shows_path_plain :
    url ((PlainHost.snapshot Table.empty).withUrl "") [] = .ok .null ∧
      url ((PlainHost.snapshot Table.empty).withUrl "//host/a?b") [] = .ok (.text "//host/a?b") ∧
      ∃ path : String,
        url ((PlainHost.snapshot Table.empty).withUrl "HTTP://joe@host:80/a;b")
        [] = .ok (.text path) ∧
        url ((PlainHost.snapshot Table.empty).withUrl ("HTTP://joe@host:80/a;b" ++ "?key=c#d"))
          [] =
          .ok (.text path) ∧
        ∃ f, (Formatter.build (Registry.builtin PlainHost.host) (.ofFormat (.text "tiny"))).1 =
          .ok f ∧
          (f.line PlainHost.host
              ((PlainHost.snapshot Table.empty).withUrl ("HTTP://joe@host:80/a;b" ++ "?key=c#d"))
              []).1 =
            (f.line PlainHost.host
              ((PlainHost.snapshot Table.empty).withUrl "HTTP://joe@host:80/a;b") []).1 := by
  have hrelative : ¬ Url.IsAbsolute "//host/a?b".toList := by
    rintro ⟨parts, hparts, hscheme, -⟩
    refine hscheme ?_
    rw [(Url.split?_eq_some_iff.mp hparts).2.1]
    decide +kernel
  have habsolute : Url.IsAbsolute "HTTP://joe@host:80/a;b".toList :=
    ⟨⟨"http".toList, "joe@host:80".toList, "/a;b".toList⟩, by decide +kernel, by decide, by decide⟩
  have hmore : Url.StartsQuery "?key=c#d".toList := by decide
  have hkeeps : PlainHost.host.Keeps PlainHost.host.now := ⟨fun _ _ _ _ => rfl, fun _ _ => rfl⟩
  obtain ⟨f, hf⟩ : ∃ f, (Formatter.build (Registry.builtin PlainHost.host)
      (.ofFormat (.text "tiny"))).1 = .ok f :=
    ⟨_, Formatter.build_ok_iff.mpr ⟨"tiny", _, .ofFormat (by decide), by decide +kernel, rfl⟩⟩
  have htold : ((PlainHost.snapshot Table.empty).withUrl "HTTP://joe@host:80/a;b").Told :=
    ⟨fun _ => Snapshot.exists_literal_iff.mpr ⟨⟨_, rfl⟩, ⟨_, rfl⟩, _, rfl⟩, Value.hasText_text _,
      Value.hasText_null, Value.hasText_null, Value.hasText_text _⟩
  have hfaults :
      f.NotesFailures ((PlainHost.snapshot Table.empty).withUrl "HTTP://joe@host:80/a;b") := by
    obtain ⟨given, placeholder, -, -, rfl⟩ := Formatter.build_ok_iff.mp hf
    exact (Formatter.tells_of_builtin htold).notes
  obtain ⟨hnull, -⟩ := url_shows_path PlainHost.host (PlainHost.snapshot Table.empty) [] ""
  obtain ⟨-, hshown, -⟩ := url_shows_path PlainHost.host (PlainHost.snapshot Table.empty)
    [] "//host/a?b"
  obtain ⟨-, -, hpath⟩ := url_shows_path PlainHost.host (PlainHost.snapshot Table.empty) []
    "HTTP://joe@host:80/a;b"
  obtain ⟨path, hvalue, -, -, hsame⟩ := hpath habsolute
  obtain ⟨hmoreValue, -, hline⟩ := hsame "?key=c#d" hmore
  exact ⟨hnull.mpr rfl, hshown (by decide) hrelative, path, hvalue, hmoreValue, f, hf,
    hline PlainHost.takesNotes hkeeps _ f hf hfaults []⟩

end Builtin

end RequestLog
