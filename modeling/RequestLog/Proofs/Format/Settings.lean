import RequestLog.Proofs.Format.Lines

/-!
Settings of formatters: which are sound, and what is built of them. A formatter is built exactly of
sound settings whose tokens are all registered, and so has an extractor for each token of its
lines.
-/
namespace RequestLog

variable {σ : Type}

/-- Settings that are all right but for the tokens of the format, which may not be registered:
nothing unknown is set, the format is a text that is not empty, the placeholder is a text, and
nothing is offered in the place of the registry. -/
structure FormatterSettings.Sound (settings : FormatterSettings) (given placeholder : String) :
    Prop where
  known : settings.unknown = []
  format : settings.format = .text given
  nonempty : given ≠ ""
  placeholder : settings.placeholder.getD (.text defaultPlaceholder) = .text placeholder
  registry : settings.registry = .null

theorem FormatterSettings.Sound.ofFormat {given : String} (hg : given ≠ "") :
    (FormatterSettings.ofFormat (.text given)).Sound given defaultPlaceholder :=
  ⟨rfl, rfl, hg, rfl, rfl⟩

namespace Formatter

variable {registry : Registry σ} {settings : FormatterSettings} {given placeholder : String}
  {f : Formatter σ}

theorem checkSettings_ok_iff : checkSettings settings = .ok (given, placeholder) ↔
    settings.unknown = [] ∧ settings.format = .text given ∧ given ≠ "" ∧
      settings.placeholder.getD (.text defaultPlaceholder) = .text placeholder := by
  constructor
  · intro h
    unfold checkSettings at h
    split at h
    · cases h
    next hunknown =>
    split at h
    · cases h
    next htruthy =>
    split at h
    · next format text hformat hplaceholder =>
      cases h
      refine ⟨by simpa using hunknown, hformat, ?_, hplaceholder⟩
      rintro rfl
      simp [hformat, Value.truthy] at htruthy
    · cases h
    · cases h
  · rintro ⟨hunknown, hformat, hnonempty, hplaceholder⟩
    simp [checkSettings, hunknown, hformat, hplaceholder, Value.truthy, hnonempty]

/-- What comes of sound settings is up to the first token that is not registered. -/
theorem build_of_sound (h : settings.Sound given placeholder) :
    build registry settings =
      match firstUnknown? registry (Segment.tokens (parseFormat (Preset.expand given))) with
      | none => (.ok (ofFormat registry.freeze given placeholder), registry.freeze)
      | some t =>
        (.error (.unknownToken (.text t.name) (some (.text (Preset.expand given)))),
            registry) := by
  have hcheck : checkSettings settings = .ok (given, placeholder) :=
    checkSettings_ok_iff.mpr ⟨h.known, h.format, h.nonempty, h.placeholder⟩
  cases hfirst : firstUnknown? registry (Segment.tokens (parseFormat (Preset.expand given))) with
  | none => simp only [build, hcheck, h.registry, hfirst]
  | some t => simp only [build, hcheck, h.registry, hfirst]

theorem firstUnknown?_eq_none_iff {tokens : List Token} :
    firstUnknown? registry tokens = none ↔ ∀ t ∈ tokens, registry.contains t.name = true := by
  simp [firstUnknown?, List.find?_eq_none]

/-- The first unknown token is the one with none but known tokens before it. -/
theorem firstUnknown?_eq_some_iff {tokens : List Token} {t : Token} :
    firstUnknown? registry tokens = some t ↔ registry.contains t.name = false ∧
      ∃ before after, tokens = before ++ t :: after ∧
        ∀ u ∈ before, registry.contains u.name = true := by
  simp [firstUnknown?, List.find?_eq_some_iff_append]

/-- A formatter is built exactly of sound settings whose tokens are all registered. -/
theorem build_ok_iff : (build registry settings).1 = .ok f ↔
    ∃ given placeholder, settings.Sound given placeholder ∧
      (∀ t ∈ Segment.tokens (parseFormat (Preset.expand given)),
        registry.contains t.name = true) ∧
      f = ofFormat registry.freeze given placeholder := by
  constructor
  · intro h
    have hbuild := h
    unfold build at h
    split at h
    · cases h
    · next given placeholder hcheck =>
      obtain ⟨hknown, hformat, hnonempty, hplaceholder⟩ := checkSettings_ok_iff.mp hcheck
      dsimp only at h
      split at h
      · next hregistry hnone =>
        cases h
        exact ⟨given, placeholder, ⟨hknown, hformat, hnonempty, hplaceholder, hregistry⟩,
          firstUnknown?_eq_none_iff.mp hnone, rfl⟩
      · cases h
      · cases h
  · rintro ⟨given, placeholder, hsound, hn, rfl⟩
    rw [build_of_sound hsound, firstUnknown?_eq_none_iff.mpr hn]

/-- A format that is not empty and whose tokens are all registered gives a formatter, and the
registry is frozen. -/
theorem build_of_registered {given : String} (placeholder : Option String) (hg : given ≠ "")
    (hn : ∀ t ∈ Segment.tokens (parseFormat (Preset.expand given)),
      registry.contains t.name = true) :
    build registry ⟨.text given, placeholder.map .text, .null, []⟩ =
      (.ok (ofFormat registry.freeze given (placeholder.getD defaultPlaceholder)),
        registry.freeze) := by
  have hsound : FormatterSettings.Sound ⟨.text given, placeholder.map .text, .null, []⟩ given
      (placeholder.getD defaultPlaceholder) := ⟨rfl, rfl, hg, by cases placeholder <;> rfl, rfl⟩
  rw [build_of_sound hsound, firstUnknown?_eq_none_iff.mpr hn]

/-- What a line shows for the tokens of a formatter. -/
structure Renders (f : Formatter σ) (entry : Snapshot σ × String) (text : Token → String) :
    Prop where
  line : entry.2 = String.join (f.segments.map (segmentText text))
  token : ∀ t ∈ f.tokens, ∃ e s, f.registry.table.get? t.name = some e ∧
    pieceOf f.placeholder (e.call entry.1 (t.args.map .text) s).1 = .ok (text t)

/-- The lines of a formatter that has been built show its tokens by their extractors. -/
theorem exists_renders {host : Host σ} (hbuild : (build registry settings).1 = .ok f)
    {snapshot : Snapshot σ} {line : String} {s : σ} (h : (f.line host snapshot s).1 = .ok line) :
    ∃ text, f.Renders (snapshot, line) text := by
  obtain ⟨given, placeholder, -, hn, rfl⟩ := build_ok_iff.mp hbuild
  have hfrozen : ∀ t ∈ Segment.tokens (parseFormat (Preset.expand given)),
      registry.freeze.contains t.name = true := hn
  obtain ⟨text, hline, htext⟩ := line_of_registered hfrozen h
  exact ⟨text, hline, htext⟩

end Formatter

end RequestLog
