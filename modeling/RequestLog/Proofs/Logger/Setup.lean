import RequestLog.Logger.Basic
import RequestLog.Proofs.Format.Settings
import RequestLog.Proofs.PlainHost
import RequestLog.Proofs.Registries
import RequestLog.Proofs.Sink.Building

/-!
Setting up a logger. A logger that cannot be built leaves the entries of its registry as they are.
Its registry is frozen by then exactly if all settings but the place for lines are sound, since the
place is looked at last.
-/
namespace RequestLog

variable {σ : Type}

namespace LoggerSettings

variable {settings : LoggerSettings σ} {offered : Value} {r : Registry σ}

/-- Settings that are all right but for the place for lines: nothing unknown is set, the predicate
can be called, and a formatter can be built on the registry. -/
structure Sound (settings : LoggerSettings σ) (offered : Value) (r : Registry σ) : Prop where
  known : settings.unknown = []
  skip : ∀ v, settings.skip = .value v → v = .null
  formats : ∃ given placeholder, (settings.formatterSettings offered).Sound given placeholder ∧
    ∀ t ∈ Segment.tokens (parseFormat (Preset.expand given)), r.contains t.name = true

theorem skipOf_ok_iff {offer : SkipOffer σ} :
    (∃ skip, skipOf offer = .ok skip) ↔ ∀ v, offer = .value v → v = .null := by
  cases offer with
  | skip p => simp [skipOf]
  | value v => cases v <;> simp [skipOf]

theorem check_ok_iff : (∃ skip, settings.check = .ok skip) ↔
    settings.unknown = [] ∧ settings.format.truthy = true ∧
      ∀ v, settings.skip = .value v → v = .null := by
  rw [← skipOf_ok_iff]
  unfold check
  by_cases hunknown : settings.unknown = []
  · cases hformat : settings.format.truthy <;> simp [hunknown]
  · simp [hunknown]

theorem check_plain {given : String} (hg : given ≠ "") (stream : SinkOffer σ) :
    (plain (.text given) stream).check = .ok none := by
  simp [check, plain, skipOf, Value.truthy, hg]

/-- A logger's own checks and those of its formatter pass exactly for sound settings. -/
theorem sound_iff : settings.Sound offered r ↔ (∃ skip, settings.check = .ok skip) ∧
    ∃ f, (Formatter.build r (settings.formatterSettings offered)).1 = .ok f := by
  constructor
  · rintro ⟨hknown, hskip, given, placeholder, hsound, hn⟩
    have htruthy : settings.format.truthy = true := by
      have hformat : settings.format = .text given := hsound.format
      simp [hformat, Value.truthy, hsound.nonempty]
    exact ⟨check_ok_iff.mpr ⟨hknown, htruthy, hskip⟩, _,
      Formatter.build_ok_iff.mpr ⟨given, placeholder, hsound, hn, rfl⟩⟩
  · rintro ⟨hcheck, f, hf⟩
    obtain ⟨hknown, -, hskip⟩ := check_ok_iff.mp hcheck
    obtain ⟨given, placeholder, hsound, hn, -⟩ := Formatter.build_ok_iff.mp hf
    exact ⟨hknown, hskip, given, placeholder, hsound, hn⟩

end LoggerSettings

namespace Logger

variable {settings : LoggerSettings σ} {offered : Value} {r r' : Registry σ} {s t : σ}
    {fault : Fault}

theorem build_of_unsound (host : Host σ) (s : σ) (h : ¬ settings.Sound offered r) :
    ∃ fault, build host settings offered (r, s) = (.error fault, (r, s)) := by
  cases hcheck : settings.check with
  | error fault => exact ⟨fault, by simp only [build, hcheck]; rfl⟩
  | ok skip =>
    rcases Formatter.build_cases r (settings.formatterSettings offered) with ⟨fault, hfail⟩ | ⟨f,
      hbuild⟩
    · have hformatter : buildFormatter settings offered (r, s) = (.error fault, (r, s)) := by
        simp only [buildFormatter, hfail]
      refine ⟨fault, ?_⟩
      rw [build, hcheck, Action.andThen_of_ok (Action.ofExcept_apply _ _),
        Action.andThen_of_error hformatter]
    · exact absurd (LoggerSettings.sound_iff.mpr ⟨⟨skip, hcheck⟩, f, congrArg Prod.fst hbuild⟩) h

/-- Sound settings freeze the registry, whatever becomes of the place for lines. -/
theorem build_of_sound (host : Host σ) (s : σ) (h : settings.Sound offered r) :
    (∃ fault, build host settings offered (r, s) = (.error fault, (r.freeze, s)) ∧
        settings.stream.Refused host s fault) ∨
      (∃ l, build host settings offered (r, s) = (.ok l, (r.freeze, s))) ∧
        ∀ fault, ¬ settings.stream.Refused host s fault := by
  obtain ⟨⟨skip, hcheck⟩, f, hf⟩ := LoggerSettings.sound_iff.mp h
  have hformatter : buildFormatter settings offered (r, s) = (.ok f, (r.freeze, s)) := by
    rcases Formatter.build_cases r (settings.formatterSettings offered) with ⟨fault, hfail⟩ | ⟨g,
      hbuild⟩
    · rw [hfail] at hf
      cases hf
    · rw [hbuild] at hf
      cases hf
      simp only [buildFormatter, hbuild]
  rw [build, hcheck, Action.andThen_of_ok (Action.ofExcept_apply _ _),
    Action.andThen_of_ok hformatter]
  rcases Emitter.ofOffer_cases host settings.stream s with ⟨fault, hfail, hrefused⟩ | ⟨⟨e, he⟩,
    hnone⟩
  · left
    have hplace : (Action.onHost (Emitter.ofOffer host settings.stream)) (r.freeze, s) =
        (.error fault, (r.freeze, s)) := by rw [Action.onHost_apply, hfail]
    exact ⟨fault, Action.andThen_of_error hplace, hrefused⟩
  · right
    have hplace : (Action.onHost (Emitter.ofOffer host settings.stream)) (r.freeze, s) =
        (.ok e, (r.freeze, s)) := by rw [Action.onHost_apply, he]
    exact ⟨⟨_, Action.andThen_of_ok hplace⟩, hnone⟩

/-- What a logger that is built is made of. -/
theorem exists_of_build {host : Host σ} {l : Logger σ}
    (h : (build host settings offered (r, s)).1 = .ok l) :
    ∃ given placeholder skip emitter,
      (settings.formatterSettings offered).Sound given placeholder ∧
      (∀ t ∈ Segment.tokens (parseFormat (Preset.expand given)), r.contains t.name = true) ∧
      settings.check = .ok skip ∧
      l = ⟨Formatter.ofFormat r.freeze given placeholder, emitter, optionsOf settings skip,
          skip⟩ := by
  have hbuild : build host settings offered (r, s) =
      (.ok l, (build host settings offered (r, s)).2) := Prod.ext h rfl
  obtain ⟨skip, u, hcheck, hrest⟩ := Action.andThen_ok_cases hbuild
  rw [Action.ofExcept_apply, Prod.mk.injEq] at hcheck
  obtain ⟨hcheck, rfl⟩ := hcheck
  obtain ⟨f, v, hformatter, hrest⟩ := Action.andThen_ok_cases hrest
  obtain ⟨emitter, w, -, hdone⟩ := Action.andThen_ok_cases hrest
  cases hdone
  have hf : (Formatter.build r (settings.formatterSettings offered)).1 = .ok f :=
    congrArg Prod.fst hformatter
  obtain ⟨given, placeholder, hsound, hn, rfl⟩ := Formatter.build_ok_iff.mp hf
  exact ⟨given, placeholder, skip, emitter, hsound, hn, hcheck, rfl⟩

/-- Building a logger keeps the entries of the registry and changes nothing else of the host. If it
fails and the settings are not sound, the registry is as it was. The one failure that freezes a
registry is that of a place for lines which is refused, all other settings being sound. -/
theorem registry_of_build (host : Host σ) (settings : LoggerSettings σ) (offered : Value)
    (r : Registry σ) (s : σ) :
    let outcome := build host settings offered (r, s)
    outcome.2.1.table = r.table ∧ outcome.2.2 = s ∧
      (∀ fault, outcome.1 = .error fault →
        (outcome.2.1 = r ↔ r.frozen = true ∨ ¬ settings.Sound offered r) ∧
        (settings.Sound offered r → settings.stream.Refused host s fault)) ∧
      (settings.Sound offered r → outcome.2.1.frozen = true ∧
        ((∃ fault, outcome.1 = .error fault) ↔
          ∃ fault, settings.stream.Refused host s fault)) := by
  intro outcome
  by_cases hsound : settings.Sound offered r
  · have hkept : r.freeze = r ↔ r.frozen = true ∨ ¬ settings.Sound offered r := by
      constructor
      · intro h
        exact .inl (congrArg Registry.frozen h).symm
      · rintro (h | h)
        · simp only [Registry.freeze, ← h]
        · exact absurd hsound h
    rcases build_of_sound host s hsound with ⟨fault, hfail, hrefused⟩ | ⟨⟨l, hl⟩, hnone⟩
    · have houtcome : outcome = (.error fault, (r.freeze, s)) := hfail
      rw [houtcome]
      refine ⟨rfl, rfl, fun g hg => ?_, fun _ => ⟨rfl, ?_⟩⟩
      · cases hg
        exact ⟨hkept, fun _ => hrefused⟩
      · exact ⟨fun _ => ⟨fault, hrefused⟩, fun _ => ⟨fault, rfl⟩⟩
    · have houtcome : outcome = (.ok l, (r.freeze, s)) := hl
      rw [houtcome]
      refine ⟨rfl, rfl, fun g hg => ?_, fun _ => ⟨rfl, ?_⟩⟩
      · cases hg
      · constructor
        · rintro ⟨g, hg⟩
          cases hg
        · rintro ⟨g, hg⟩
          exact absurd hg (hnone g)
  · obtain ⟨fault, hfail⟩ := build_of_unsound host s hsound
    have houtcome : outcome = (.error fault, (r, s)) := hfail
    rw [houtcome]
    refine ⟨rfl, rfl, fun g hg => ?_, fun h => absurd h hsound⟩
    exact ⟨⟨fun _ => .inr hsound, fun _ => rfl⟩, fun h => absurd h hsound⟩

/-- A logger is to be built of a format by name and a place that does not exist. -/
def misplaced : LoggerSettings (List String) :=
  .plain (.text "tiny") (.value (.text "nope"))

/-- The registry of the built-in tokens is frozen by a logger that is never built, and refuses what
is registered from then on. -/
theorem registry_of_build_misplaced :
    misplaced.Sound .null (Registry.builtin PlainHost.host) ∧
    (∃ fault, (build PlainHost.host misplaced .null (Registry.builtin PlainHost.host, [])).1 =
      .error fault) ∧
    (Registry.builtin PlainHost.host).frozen = false ∧
    (build PlainHost.host misplaced .null (Registry.builtin PlainHost.host, [])).2.1.frozen =
    true ∧
    ∀ offer, (build PlainHost.host misplaced .null (Registry.builtin PlainHost.host,
      [])).2.1.register (.text "request-id") offer =
      .error (.registryFrozen (.text "request-id")) := by
  have hsound : misplaced.Sound .null (Registry.builtin PlainHost.host) := by
    refine ⟨rfl, fun v hv => ?_, "tiny", _, .ofFormat (by decide), by decide +kernel⟩
    cases hv
    rfl
  have hnamed : misplaced.stream.orConsole.named PlainHost.host = .value (.text "nope") := rfl
  have hrefused : ∃ fault, misplaced.stream.Refused PlainHost.host [] fault := by
    refine ⟨_, .unwritable (fun e he => ?_) fun stream write hstream => ?_⟩
    · cases he
    · rw [hnamed] at hstream
      cases hstream
  obtain ⟨-, -, -, hfrozen⟩ :=
    registry_of_build PlainHost.host misplaced .null (Registry.builtin PlainHost.host) []
  obtain ⟨hfrozen, hfails⟩ := hfrozen hsound
  exact ⟨hsound, hfails.mpr hrefused, rfl, hfrozen, Registry.register_of_frozen hfrozen _⟩

end Logger

end RequestLog
