import RequestLog.Proofs.Breaks.Tokens
import RequestLog.Proofs.PlainHost
import RequestLog.Proofs.Token.Telling
import RequestLog.Sink.Emitter

/-!
Lines without line breaks. Where neither the format nor the snapshot has a break, only the user of
the request can bring one into the line; a line that has none is written as one line.
-/
namespace RequestLog

variable {σ : Type}

theorem Preset.unbroken_expand {given : String} (h : Text.Unbroken given.toList) :
    Text.Unbroken (expand given).toList := by
  unfold expand ofName?
  split
  case h_7 => exact h
  all_goals
    rw [Option.getD_some]
    decide +kernel

theorem Layout.subset_raw {l : Layout} {literal : String} (h : .text literal ∈ l.segments) :
    literal.toList ⊆ l.raw := by
  simp only [segments, List.mem_cons, List.mem_flatMap, List.not_mem_nil, or_false,
    Segment.text.injEq, reduceCtorEq, false_or] at h
  intro c hc
  rw [raw, List.mem_append]
  rcases h with rfl | ⟨p, hp, rfl⟩
  · rw [String.toList_ofList] at hc
    exact .inl hc
  · rw [String.toList_ofList] at hc
    exact .inr (List.mem_flatMap.mpr ⟨p, hp, List.mem_append_right _ hc⟩)

theorem unbroken_of_mem_parseFormat {format literal : String} (h : Text.Unbroken format.toList)
    (hmem : .text literal ∈ parseFormat format) : Text.Unbroken literal.toList := by
  have hsub := Layout.subset_raw hmem
  rw [Layout.raw_read] at hsub
  exact h.subset hsub

namespace Formatter

variable {placeholder : String} {outcome : Except Fault Value} {text : Token → String}

theorem unbroken_pieceOf {piece : String} (hp : Text.Unbroken placeholder.toList)
    (hpiece : pieceOf placeholder outcome = .ok piece) (h : ∀ v, outcome = .ok v → v.Unbroken) :
    Text.Unbroken piece.toList := by
  unfold pieceOf at hpiece
  split at hpiece
  · cases hpiece
    exact hp
  · cases hpiece
    exact hp
  · next v _ => exact (h v rfl).toText (Value.written_eq_ok.mp hpiece)

/-- Segments of unbroken texts make a line that is broken only where the text of a token is. -/
theorem unbroken_join_segments {segments : List Segment}
    (h : ∀ literal, .text literal ∈ segments → Text.Unbroken literal.toList) :
    Text.Unbroken (String.join (segments.map (segmentText text))).toList ↔
      ∀ t ∈ Segment.tokens segments, Text.Unbroken (text t).toList := by
  rw [String.toList_join, Text.unbroken_flatMap, List.forall_mem_map]
  constructor
  · intro hall t ht
    exact hall (.token t) (Segment.mem_tokens.mp ht)
  · intro htokens segment hmem
    cases segment with
    | text literal => exact h literal hmem
    | token t => exact htokens t (Segment.mem_tokens.mpr hmem)

/-- Whether the lines of a formatter show the user of a request. -/
def ShowsUser (f : Formatter σ) : Prop := ∃ t ∈ f.tokens, t.name = "remote-user"

/-- The text of a known token is broken exactly if it shows a user with a line break. -/
theorem unbroken_pieceOf_builtin {host : Host σ} {snapshot : Snapshot σ} {name : String}
    {e : Extractor σ} {args : List Value} {s : σ} {piece : String}
    (hp : Text.Unbroken placeholder.toList) (hs : snapshot.Unbroken)
    (he : (Registry.builtin host).table.get? name = some e)
    (hpiece : pieceOf placeholder (e.call snapshot args s).1 = .ok piece) :
    Text.Unbroken piece.toList ↔ ¬ (name = "remote-user" ∧ snapshot.request.HidesBreak) := by
  rcases Builtin.cases_of_mem_extractors (Table.mem_of_get?_ofList he) with
    ⟨rfl, shown, rfl⟩ | ⟨hname, hquiet⟩
  · simp only [Extractor.ofFunction, Action.ofExcept_apply, true_and] at hpiece ⊢
    -- a hidden break reaches the text as it is, and nothing else in the user's text is a break
    constructor
    · intro h hbreak
      obtain ⟨user, huser, hbroken⟩ := BasicAuth.find_of_hidesBreak hbreak
      rw [Builtin.remoteUser, huser] at hpiece
      cases hpiece
      rw [String.toList_ofList] at h
      exact hbroken h
    · intro h
      exact unbroken_pieceOf hp hpiece fun v hv => BasicAuth.unbroken_find h hv
  · have h : Text.Unbroken piece.toList :=
      unbroken_pieceOf hp hpiece fun v hv => hquiet hs hv
    simp [h, hname]

/-- The line of an unbroken snapshot is broken exactly if it shows a user with a break. -/
theorem unbroken_of_registered {host : Host σ} {given : String}
    (hformat : Text.Unbroken given.toList) (hp : Text.Unbroken placeholder.toList)
    (hn : ∀ t ∈ Segment.tokens (parseFormat (Preset.expand given)),
      (Registry.builtin host).contains t.name = true)
    {snapshot : Snapshot σ} (hs : snapshot.Unbroken) {s : σ} {line : String}
    (h : ((ofFormat (Registry.builtin host).freeze given placeholder).line host snapshot s).1 =
      .ok line) :
    Text.Unbroken line.toList ↔
      ¬ ((ofFormat (Registry.builtin host).freeze given placeholder).ShowsUser ∧
        snapshot.request.HidesBreak) := by
  have hfrozen : ∀ t ∈ Segment.tokens (parseFormat (Preset.expand given)),
      (Registry.builtin host).freeze.contains t.name = true := hn
  obtain ⟨text, rfl, htext⟩ := line_of_registered hfrozen h
  have hiff : ∀ t ∈ Segment.tokens (parseFormat (Preset.expand given)),
      (Text.Unbroken (text t).toList ↔
        ¬ (t.name = "remote-user" ∧ snapshot.request.HidesBreak)) := by
    intro t ht
    obtain ⟨e, s', he, hpiece⟩ := htext t ht
    exact unbroken_pieceOf_builtin hp hs he hpiece
  rw [unbroken_join_segments fun _ => unbroken_of_mem_parseFormat (Preset.unbroken_expand hformat)]
  constructor
  · rintro hall ⟨⟨t, ht, hname⟩, hbreak⟩
    exact (hiff t ht).mp (hall t ht) ⟨hname, hbreak⟩
  · intro hnone t ht
    exact (hiff t ht).mpr fun h => hnone ⟨⟨t, ht, h.1⟩, h.2⟩

end Formatter

/-- Whether output is a text without line breaks and a line feed behind it, in octets of a
character set where it is octets. -/
def Output.IsLine (charset : Text.Charset) : Output → Prop
  | .text s => ∃ line, Text.Unbroken line ∧ s.toList = line ++ ['\n']
  | .octets os => ∃ line, Text.Unbroken line ∧ os = charset.encode (line ++ ['\n'])

namespace StreamEmitter

variable {e : StreamEmitter σ} {line : String} {out : Output}

/-- What is written for a line with the default separator is the line and a line feed. -/
theorem output_default (hsep : e.separator = StreamSettings.default.separator) (line : String) :
    e.output line = if e.binary then (e.coding.encode (line ++ "\n")).map .octets
      else .ok (.text (line ++ "\n")) := by
  have htext : withSeparator e.separator line = .ok (line ++ "\n") := by
    rw [hsep]
    rfl
  rw [output, htext]
  cases e.binary
  · rfl
  · show (e.coding.encode (line ++ "\n") >>= fun os => pure (Output.octets os)) = _
    cases e.coding.encode (line ++ "\n") <;> rfl

section Common

/- The coding of a stream of octets is one that is the same everywhere. -/
variable {charset : Text.Charset} {treatment : Text.Unencodable}
  (hcoding : e.binary = true → e.coding.charset = some charset ∧
    e.coding.treatment = some treatment)

include hcoding

theorem output_common (hsep : e.separator = StreamSettings.default.separator) (line : String) :
    e.output line = if e.binary then
        ((charset.encodeWith treatment (line ++ "\n").toList).mapError .unencodable).map .octets
      else .ok (.text (line ++ "\n")) := by
  rw [output_default hsep]
  split
  · next hbinary =>
    obtain ⟨hcharset, htreatment⟩ := hcoding hbinary
    rw [Coding.encode, hcharset, htreatment]
  · rfl

theorem isLine_of_output (hsep : e.separator = StreamSettings.default.separator)
    (hline : Text.Unbroken line.toList) (h : e.output line = .ok out) : out.IsLine charset := by
  rw [output_common hcoding hsep] at h
  split at h
  · obtain ⟨os, hos, rfl⟩ := map_eq_ok.mp h
    simp only [Text.Charset.encodeWith, String.toList_append, String.reduceToList,
      Text.Charset.replaceMissing?_lineFeed] at hos
    cases hshown : charset.replaceMissing? treatment line.toList with
    | none =>
      rw [hshown] at hos
      cases hos
    | some shown =>
      rw [hshown] at hos
      cases hos
      exact ⟨shown, Text.Charset.unbroken_replaceMissing hshown hline, rfl⟩
  · cases h
    exact ⟨line.toList, hline, String.toList_append⟩

/-- A stream of texts, and one of octets for which missing characters are replaced, gets every
line. -/
theorem exists_output (hsep : e.separator = StreamSettings.default.separator)
    (hreplaces : treatment.Replaces) (line : String) : ∃ out, e.output line = .ok out := by
  rw [output_common hcoding hsep]
  split
  · obtain ⟨shown, hshown⟩ := Text.Charset.exists_replaceMissing charset hreplaces
      (line ++ "\n").toList
    exact ⟨.octets (charset.encode shown), by rw [Text.Charset.encodeWith, hshown]; rfl⟩
  · exact ⟨_, rfl⟩

end Common

end StreamEmitter

namespace PlainHost

theorem unbroken_snapshot {headers : Headers} (h : headers.Unbroken) :
    (snapshot headers).Unbroken where
  method := Value.unbroken_text.mpr (by decide)
  url := Value.unbroken_text.mpr (by decide)
  referrer := trivial
  clientAddress := trivial
  httpVersion := Value.unbroken_text.mpr (by decide)
  requestHeaders := h
  status _ h := nomatch h
  responseHeaders _ _ h := nomatch h

theorem told_snapshot (headers : Headers) : (snapshot headers).Told where
  literal _ := ⟨_, rfl⟩
  method := Value.hasText_text _
  referrer := Value.hasText_null
  clientAddress := Value.hasText_null
  httpVersion := Value.hasText_text _

theorem unbroken_forgedHeaders : forgedHeaders.Unbroken := by
  intro name value h
  rw [Table.get?, forgedHeaders, Table.lookup_cons] at h
  split at h
  · cases h
    decide
  · cases h

theorem hidesBreak_forged : (snapshot forgedHeaders).request.HidesBreak := by
  refine ⟨"Basic YQpi", ['a', '\n', 'b'], ?_, by decide +kernel, by decide⟩
  have hname : Headers.lowerName "authorization" = "authorization" := by decide +kernel
  have hvalue : forgedHeaders.get? "authorization" = some "Basic YQpi" := rfl
  rw [snapshot, Request.header, Headers.valueOf, hname, hvalue]

end PlainHost

namespace Formatter

/-- A formatter is built of every format of known tokens that is not empty. Where neither format,
placeholder nor snapshot have line breaks, a line has one exactly if it shows a user with one; for
a line without breaks a stream is written one line with the default separator, as a text or in the
octets of a character set that is the same everywhere. A line is made of every snapshot that can be
told where the host takes notes, and it is written where no character is refused. -/
theorem line_unbroken_iff (host : Host σ) (given : String) (placeholder : Option String)
    (hg : given ≠ "") (hformat : Text.Unbroken given.toList)
    (hplaceholder : ∀ p, placeholder = some p → Text.Unbroken p.toList)
    (hn : ∀ t ∈ Segment.tokens (parseFormat (Preset.expand given)),
      (Registry.builtin host).contains t.name = true) :
    ∃ f, build (Registry.builtin host) ⟨.text given, placeholder.map .text, .null, []⟩ =
        (.ok f, (Registry.builtin host).freeze) ∧
      ∀ snapshot : Snapshot σ, snapshot.Unbroken → ∀ s,
        (host.TakesNotes → snapshot.Told → ∃ line, (f.line host snapshot s).1 = .ok line) ∧
        ∀ line, (f.line host snapshot s).1 = .ok line →
          (Text.Unbroken line.toList ↔ ¬ (f.ShowsUser ∧ snapshot.request.HidesBreak)) ∧
          (Text.Unbroken line.toList → ∀ e : StreamEmitter σ,
            e.separator = StreamSettings.default.separator → ∀ charset treatment,
            (e.binary = true →
              e.coding.charset = some charset ∧ e.coding.treatment = some treatment) →
            (∀ out, e.output line = .ok out → out.IsLine charset) ∧
            (treatment.Replaces → ∃ out, e.output line = .ok out)) := by
  have hp : Text.Unbroken (placeholder.getD defaultPlaceholder).toList := by
    cases placeholder with
    | none => decide
    | some p => exact hplaceholder p rfl
  refine ⟨_, build_of_registered placeholder hg hn, fun snapshot hs s => ⟨?_, ?_⟩⟩
  · exact fun hnotes htold => line_ok hnotes (tells_of_builtin htold) s
  · intro line hline
    refine ⟨unbroken_of_registered hformat hp hn hs hline, fun hunbroken e hsep => ?_⟩
    intro charset treatment hcoding
    exact ⟨fun out hout => StreamEmitter.isLine_of_output hcoding hsep hunbroken hout,
      fun hreplaces => StreamEmitter.exists_output hcoding hsep hreplaces line⟩

theorem line_unbroken_iff_plain :
    Text.Unbroken ":method :remote-user".toList ∧ PlainHost.forgedHeaders.Unbroken ∧
      (∀ t ∈ Segment.tokens (parseFormat (Preset.expand ":method :remote-user")),
        (Registry.builtin PlainHost.host).contains t.name = true) ∧
      ∃ f, build (Registry.builtin PlainHost.host)
          ⟨.text ":method :remote-user", none, .null, []⟩ =
          (.ok f, (Registry.builtin PlainHost.host).freeze) ∧
        ∀ s,
          (∃ line, (f.line PlainHost.host (PlainHost.snapshot PlainHost.forgedHeaders) s).1 =
            .ok line ∧ ¬ Text.Unbroken line.toList) ∧
          ∃ line, (f.line PlainHost.host (PlainHost.snapshot Table.empty) s).1 = .ok line ∧
            ∃ out, PlainHost.streamEmitter.output line = .ok out ∧ out.IsLine .utf8 := by
  have hn : ∀ t ∈ Segment.tokens (parseFormat (Preset.expand ":method :remote-user")),
      (Registry.builtin PlainHost.host).contains t.name = true := by decide +kernel
  obtain ⟨f, hf, hlines⟩ := line_unbroken_iff PlainHost.host ":method :remote-user" none
    (by decide) (by decide) (fun _ h => nomatch h) hn
  refine ⟨by decide, PlainHost.unbroken_forgedHeaders, hn, f, hf, fun s => ⟨?_, ?_⟩⟩
  · obtain ⟨hmade, hiff⟩ := hlines _
      (PlainHost.unbroken_snapshot PlainHost.unbroken_forgedHeaders) s
    obtain ⟨line, hline⟩ := hmade PlainHost.takesNotes (PlainHost.told_snapshot _)
    have hshows : f.ShowsUser := by
      cases (build_of_registered none (by decide) hn).symm.trans hf
      exact ⟨⟨"remote-user", [""], ":remote-user"⟩, by decide +kernel, rfl⟩
    exact ⟨line, hline, fun h => (hiff line hline).1.mp h ⟨hshows, PlainHost.hidesBreak_forged⟩⟩
  · have hempty : Headers.Unbroken Table.empty := fun name value h => by cases h
    obtain ⟨hmade, hiff⟩ := hlines _ (PlainHost.unbroken_snapshot hempty) s
    obtain ⟨line, hline⟩ := hmade PlainHost.takesNotes (PlainHost.told_snapshot _)
    have hhonest : ¬ (PlainHost.snapshot Table.empty).request.HidesBreak := by
      rintro ⟨header, user, hheader, -⟩
      cases hheader
    obtain ⟨hunbroken, hwritten⟩ := hiff line hline
    obtain ⟨hout, hmade⟩ := hwritten (hunbroken.mpr fun h => hhonest h.2)
      PlainHost.streamEmitter rfl .utf8 .escape fun _ => ⟨rfl, rfl⟩
    obtain ⟨out, h⟩ := hmade fun _ => rfl
    exact ⟨line, hline, out, h, hout out h⟩

end Formatter

end RequestLog
