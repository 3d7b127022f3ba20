import RequestLog.Proofs.Sink.Accounts
import RequestLog.Proofs.Text.Decoding
import RequestLog.Proofs.Text.Pieces

/-!
A log that is read back. What an emitter writes to a stream of octets, line by line, is read as a
whole as the text that it would have written to a stream of text, and the lines can be told apart
in it by their separator.
-/
namespace RequestLog

variable {σ τ : Type} {host : Host σ} {e : StreamEmitter σ} {trials : List Trial}
    {deeds : List Deed}
  {s t : σ} {sep : String}

namespace Text.Charset

variable {charset : Charset}

theorem has_of_limit (h : charset.limit? = none) (c : Char) : charset.has c = true := by
  rw [has, h]

theorem encode_flatMap {α : Type} (items : List α) (f : α → List Char) :
    items.flatMap (fun item => charset.encode (f item)) = charset.encode (items.flatMap f) :=
  List.flatMap_assoc.symm

end Text.Charset

namespace StreamEmitter

theorem Account.written (h : Account host e trials deeds s t) :
    deeds.filterMap Deed.written? = trials.filterMap Trial.kept? := by
  have hcalls : Deed.written? = fun deed => deed.call?.bind Deed.written? := by
    funext deed
    cases deed <;> rfl
  have htrial : ∀ trial : Trial, trial.calls.filterMap Deed.written? = trial.kept?.toList := by
    rintro ⟨out, _ | ⟨⟩, _ | _⟩ <;> rfl
  rw [hcalls, ← List.filterMap_filterMap, h.calls, List.filterMap_flatMap,
    List.filterMap_eq_flatMap_toList]
  simp only [htrial]

/-- If no write fails, everything that is tried is written. -/
theorem Account.written_of_quiet (h : Account host e trials deeds s t)
    (hquiet : ∀ out fault, .write out (.error fault) ∉ deeds) :
    deeds.filterMap Deed.written? = trials.map Trial.out := by
  have hkept : ∀ trial ∈ trials, trial.kept? = some trial.out := by
    intro trial ht
    have hcall : .write trial.out trial.written ∈ deeds.filterMap Deed.call? := by
      rw [h.calls]
      exact List.mem_flatMap.mpr ⟨trial, ht, List.mem_cons_self⟩
    obtain ⟨deed, hmem, hdeed⟩ := List.mem_filterMap.mp hcall
    have hwrite : .write trial.out trial.written ∈ deeds := by
      cases deed <;> cases hdeed
      exact hmem
    unfold Trial.kept?
    split
    · rfl
    · next fault hlost =>
      rw [hlost] at hwrite
      exact absurd hwrite (hquiet _ fault)
  rw [h.written, List.filterMap_congr hkept, ← List.filterMap_eq_map]
  rfl

/-- With something to write for every line, and no write failing, that is what is written. -/
theorem written_of_outputs (h : host.TakesNotes) {write : Output → Action σ Unit}
    (hw : e.target.write = .able write)
    (hsep : e.separator = .text sep ∨ e.separator = .null ∧ sep = "") {entries : List String}
    {out : String → Output} (hout : ∀ entry, e.asOutput (entry ++ sep) = .ok (out entry))
    (hquiet : ∀ out fault, .write out (.error fault) ∉ e.deedsOf host entries s) :
    (e.deedsOf host entries s).filterMap Deed.written? = entries.map out := by
  obtain ⟨-, trials, haccount, houts⟩ := exists_account h hw hsep entries s
  rw [haccount.written_of_quiet hquiet, houts]
  simp [hout, List.filterMap_map, Function.comp_def, Except.toOption]

/-- Whatever a stream gathers of its writes, it gathers of those that did not fail. -/
theorem gathered (h : host.TakesNotes) {write : Output → Action σ Unit}
    (hw : e.target.write = .able write)
    (hsep : e.separator = .text sep ∨ e.separator = .null ∧ sep = "") {entries : List String}
    {α : Type} {parts : Output → List α} {kept : σ → List α} (hk : e.Gathers host parts kept) :
    kept (e.emitAll host entries s).2 =
      kept s ++ ((e.deedsOf host entries s).filterMap Deed.written?).flatMap parts := by
  obtain ⟨-, trials, haccount, -⟩ := exists_account h hw hsep entries s
  rw [haccount.keeps parts kept hk, haccount.written]

theorem asOutput_of_text (h : e.binary = false) (text : String) :
    e.asOutput text = .ok (.text text) := by
  rw [asOutput, h]
  rfl

/-- A stream of octets is given the octets of a text, if the character set has all characters. -/
theorem asOutput_of_octets {charset : Text.Charset} (h : e.binary = true)
    (hset : e.coding.charset = some charset) (hlimit : charset.limit? = none) (text : String) :
    e.asOutput text = .ok (.octets (charset.encode text.toList)) := by
  have hencode : e.coding.encode text = .ok (charset.encode text.toList) :=
    Coding.encode_of_has hset fun c _ => Text.Charset.has_of_limit hlimit c
  rw [asOutput, h, hencode]
  rfl

/-- What has been written to a stream of octets in a Unicode character set is read, as a whole, as
the text that an emitter with the same separator passes to a stream of text for the same lines.
Cutting this text at a separator of one character that no line has gives back the lines, and an
empty piece after them. -/
theorem read_back (host : Host σ) (host' : Host τ) (h : host.TakesNotes) (h' : host'.TakesNotes)
    (label label' : String) (offer : SinkOffer σ) (offer' : SinkOffer τ)
    (settings settings' : StreamSettings) (e : StreamEmitter σ) (e' : StreamEmitter τ)
    (s₀ s₁ s : σ) (t₀ t₁ t : τ) (hbuild : build host label offer settings s₀ = (.ok e, s₁))
    (hbuild' : build host' label' offer' settings' t₀ = (.ok e', t₁)) (hoctets : e.binary = true)
    (htext : e'.binary = false)
    (charset : Text.Charset) (hcharset : e.coding.charset = some charset)
    (hset : charset ∈ [Text.Charset.utf8, .utf16le, .utf16be, .utf32be]) (sep : String)
    (hsep : settings.separator = .text sep) (hsep' : settings'.separator = .text sep)
    (entries : List String)
    (hquiet : ∀ out fault, .write out (.error fault) ∉ e.deedsOf host entries s)
    (hquiet' : ∀ out fault, .write out (.error fault) ∉ e'.deedsOf host' entries t) :
    let octets := ((e.deedsOf host entries s).filterMap Deed.written?).flatMap Output.octetsOf
    let text := ((e'.deedsOf host' entries t).filterMap Deed.written?).flatMap Output.charsOf
    charset.decode? octets = some text ∧
    (∀ kept : σ → List UInt8, e.Gathers host Output.octetsOf kept →
      kept (e.emitAll host entries s).2 = kept s ++ octets) ∧
    ∀ c, sep.toList = [c] → (∀ entry ∈ entries, c ∉ entry.toList) →
      Text.splitOn c text = entries.map String.toList ++ [[]] := by
  intro octets text
  obtain ⟨write, hwrite⟩ := able_of_build hbuild
  obtain ⟨write', hwrite'⟩ := able_of_build hbuild'
  rw [← separator_of_build hbuild] at hsep
  rw [← separator_of_build hbuild'] at hsep'
  have hlimit : charset.limit? = none := by
    cases charset <;> simp_all [Text.Charset.limit?]
  have hwritten := written_of_outputs h hwrite (.inl hsep)
    (fun entry => asOutput_of_octets hoctets hcharset hlimit (entry ++ sep)) hquiet
  have hwritten' := written_of_outputs h' hwrite' (.inl hsep')
    (fun entry => asOutput_of_text htext (entry ++ sep)) hquiet'
  have htext : text = entries.flatMap fun entry => entry.toList ++ sep.toList := by
    simp only [text, hwritten', List.flatMap_map, Output.charsOf, String.toList_append]
  refine ⟨?_, fun kept hk => gathered h hwrite (.inl hsep) hk, fun c hc hfree => ?_⟩
  · have hencode : octets = charset.encode text := by
      simp only [octets, htext, hwritten, List.flatMap_map, Output.octetsOf, String.toList_append]
      exact Text.Charset.encode_flatMap entries _
    rw [hencode]
    exact (Text.Charset.decode?_eq_some_iff hlimit).mpr rfl
  · have hpieces : ∀ p ∈ entries.map String.toList, c ∉ p := by
      intro p hp
      obtain ⟨entry, hentry, rfl⟩ := List.mem_map.mp hp
      exact hfree entry hentry
    rw [htext, hc, ← Text.splitOn_flatMap hpieces, List.flatMap_map]

theorem read_back_wide :
    PlainHost.host.TakesNotes ∧
    build PlainHost.host "StreamEmitter" (.stream PlainHost.octetStream) PlainHost.wideSettings
      [] =
      (.ok PlainHost.wideEmitter, []) ∧
    build PlainHost.host "StreamEmitter" (.stream PlainHost.stream) .default [] =
      (.ok PlainHost.streamEmitter, []) ∧
    (PlainHost.wideEmitter.deedsOf PlainHost.host ["😀", "a"] []).filterMap Deed.written? =
      [.octets [0x3d, 0xd8, 0, 0xde, 10, 0], .octets [0x61, 0, 10, 0]] ∧
    Text.Charset.decode? .utf16le [0x3d, 0xd8, 0, 0xde, 10, 0, 0x61, 0, 10, 0] =
      some ['😀', '\n', 'a', '\n'] ∧
    Text.splitOn '\n' ['😀', '\n', 'a', '\n'] = [['😀'], ['a'], []] := by
  have hbuild : build PlainHost.host "StreamEmitter" (.stream PlainHost.octetStream)
      PlainHost.wideSettings [] = (.ok PlainHost.wideEmitter, []) := rfl
  have hbuild' : build PlainHost.host "StreamEmitter" (.stream PlainHost.stream) .default [] =
      (.ok PlainHost.streamEmitter, []) := rfl
  have hdeeds : PlainHost.wideEmitter.deedsOf PlainHost.host ["😀", "a"] [] =
      [.write (.octets [0x3d, 0xd8, 0, 0xde, 10, 0]) (.ok ()), .flush (.ok ()),
        .write (.octets [0x61, 0, 10, 0]) (.ok ()), .flush (.ok ())] := by
    rfl
  have hdeeds' : PlainHost.streamEmitter.deedsOf PlainHost.host ["😀", "a"] [] =
      [.write (.text "😀\n") (.ok ()), .flush (.ok ()), .write (.text "a\n") (.ok ()),
        .flush (.ok ())] := by
    rfl
  have hread := read_back PlainHost.host PlainHost.host PlainHost.takesNotes PlainHost.takesNotes
    _ _ _ _ _ _ PlainHost.wideEmitter PlainHost.streamEmitter [] [] [] [] []
    [] hbuild hbuild' rfl rfl
    .utf16le rfl (by decide) "\n" rfl rfl ["😀", "a"]
  simp only [hdeeds, hdeeds'] at hread
  obtain ⟨hdecode, -, hsplit⟩ := hread (by simp) (by simp)
  have hchars : ("😀\n".toList ++ ("a\n".toList ++ [])) = ['😀', '\n', 'a', '\n'] := by
    decide +kernel
  refine ⟨PlainHost.takesNotes, hbuild, hbuild', by rw [hdeeds]; rfl, ?_, ?_⟩
  · exact hdecode.trans (congrArg some hchars)
  · refine (congrArg (Text.splitOn '\n') hchars).symm.trans ((hsplit '\n' rfl ?_).trans rfl)
    decide

end StreamEmitter

end RequestLog
