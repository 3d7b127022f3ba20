import RequestLog.Proofs.Format.Bindings
import RequestLog.Proofs.Format.Settings
import RequestLog.Proofs.PlainHost
import RequestLog.Proofs.Registries

/-!
Setting up a formatter. Building one either fails and leaves the registry as it is, or freezes the
registry, which has all tokens of the format then. Since a frozen registry stays as it is, the
extractors of a formatter are those of its registry ever after.
-/
namespace RequestLog

variable {σ : Type}

/-- Whether a registry has the tokens of a formatter, and each with the one extractor by which the
formatter computes it. -/
structure Registry.Serves (r : Registry σ) (f : Formatter σ) : Prop where
  contains : ∀ t ∈ f.tokens, r.contains t.name = true
  computes : ∀ t ∈ f.tokens, ∃ b ∈ f.bindings, (∀ c ∈ f.bindings, c.key = t.key → c = b) ∧
    b.key = t.key ∧ r.get t.name = .ok b.extractor ∧
    ∀ snapshot, r.resolve (.text t.name) snapshot (t.args.map .text) =
      b.extractor.call snapshot (b.args.map .text)

namespace Formatter

variable {r : Registry σ} {given placeholder : String}

/-- A registry serves the formatters that are built of tokens that it has. -/
theorem serves_ofFormat
    (hn : ∀ t ∈ Segment.tokens (parseFormat (Preset.expand given)), r.contains t.name = true) :
    r.Serves (ofFormat r given placeholder) where
  contains := hn
  computes t ht := by
    have hm : ∀ u ∈ Segment.tokens (parseFormat (Preset.expand given)), u.Mentioned :=
      fun _ => mentioned_of_mem_parseFormat
    obtain ⟨b, hb, hcomputes, honly⟩ := exists_binding hm hn ht
    have hget : r.get t.name = .ok b.extractor := by rw [Registry.get, hcomputes.extractor]
    refine ⟨b, hb, honly, hcomputes.key, hget, fun snapshot => ?_⟩
    have hargs : Registry.someArgs (t.args.map .text) = t.args.map .text := by
      simp [Registry.someArgs, (hm t ht).args]
    rw [Registry.resolve, Registry.find, hget, hargs, hcomputes.args]
    rfl

/-- Building a formatter fails and leaves the registry as it is, or freezes the registry, which has
all tokens of the format then. It succeeds exactly with sound settings whose tokens are all
registered; where only tokens are missing, the fault names the first one of them. Whatever becomes
of the registry afterwards, it has the tokens of the formatter with the extractors by which the
formatter computes them. -/
theorem build_atomic (r : Registry σ) (settings : FormatterSettings) :
    ((∃ fault, build r settings = (.error fault, r)) ∨
      ∃ f, build r settings = (.ok f, r.freeze) ∧ f.registry = r.freeze ∧
        ∀ t ∈ Segment.tokens (parseFormat f.format), r.freeze.contains t.name = true) ∧
    ((∃ f, (build r settings).1 = .ok f) ↔ ∃ given placeholder, settings.Sound given placeholder ∧
      ∀ t ∈ Segment.tokens (parseFormat (Preset.expand given)), r.contains t.name = true) ∧
    (∀ given placeholder, settings.Sound given placeholder → ∀ before t after,
      Segment.tokens (parseFormat (Preset.expand given)) = before ++ t :: after →
      (∀ u ∈ before, r.contains u.name = true) → r.contains t.name = false →
      (build r settings).1 =
        .error (.unknownToken (.text t.name) (some (.text (Preset.expand given))))) ∧
    ∀ f, (build r settings).1 = .ok f → ∀ rs name later, rs.get? name = some r →
      (∀ e ∈ later, ¬ Registries.Event.Rebinds name e) →
      ∃ now, (Registries.run (.build name settings :: later) rs).2.get? name = some now ∧
        now.Serves f := by
  refine ⟨?_, ?_, fun given placeholder hsound before t after htokens hbefore ht => ?_,
    fun f hf rs name later hr hlater => ?_⟩
  · rcases build_cases r settings with hfail | ⟨f, hbuild⟩
    · exact .inl hfail
    · obtain ⟨given, placeholder, -, hn, rfl⟩ := build_ok_iff.mp (congrArg Prod.fst hbuild)
      exact .inr ⟨_, hbuild, rfl, hn⟩
  · constructor
    · rintro ⟨f, hf⟩
      obtain ⟨given, placeholder, hsound, hn, -⟩ := build_ok_iff.mp hf
      exact ⟨given, placeholder, hsound, hn⟩
    · rintro ⟨given, placeholder, hsound, hn⟩
      exact ⟨_, build_ok_iff.mpr ⟨given, placeholder, hsound, hn, rfl⟩⟩
  · rw [build_of_sound hsound, firstUnknown?_eq_some_iff.mpr ⟨ht, before, after, htokens, hbefore⟩]
  · have hbuild : build r settings = (.ok f, r.freeze) := by
      rcases build_cases r settings with ⟨fault, hfail⟩ | ⟨g, hbuild⟩
      · rw [hfail] at hf
        cases hf
      · rw [hbuild] at hf ⊢
        cases hf
        rfl
    have hstep : (rs.step (.build name settings)).2 = rs.put name r.freeze := by
      simp only [Registries.step, Registries.registry_ok_iff.mpr hr, hbuild]
    have hheld : (rs.step (.build name settings)).2.get? name = some r.freeze := by
      rw [hstep, Table.get?_put, if_pos rfl]
    have hrun := Registries.get?_run_of_frozen hheld rfl hlater
    refine ⟨r.freeze, by rw [Registries.run, hrun], ?_⟩
    obtain ⟨given, placeholder, -, hn, rfl⟩ := build_ok_iff.mp hf
    exact serves_ofFormat hn

/-- A formatter is built on a registry, which refuses a registration and is copied afterwards. -/
def setupEvents : List (Registries.Event (List String)) :=
  [.build "log" (.ofFormat (.text "tiny")),
    .register "log" (.text "url") (.extractor ⟨"<late>", fun _ _ => Action.done .null⟩),
    .copy "log" "own"]

theorem build_atomic_builtin :
    (build (Registry.builtin PlainHost.host) (.ofFormat (.text ":method :bogus-token :nope"))).1 =
        .error (.unknownToken (.text "bogus-token") (some (.text ":method :bogus-token :nope"))) ∧
      ∃ f, (build (Registry.builtin PlainHost.host) (.ofFormat (.text "tiny"))).1 = .ok f ∧
        ∃ now, (Registries.run setupEvents
            ⟨[("log", Registry.builtin PlainHost.host)]⟩).2.get? "log" = some now ∧
          now.Serves f := by
  obtain ⟨-, -, hunknown, -⟩ := build_atomic (Registry.builtin PlainHost.host)
    (.ofFormat (.text ":method :bogus-token :nope"))
  obtain ⟨-, hbuilt, -, hserves⟩ := build_atomic (Registry.builtin PlainHost.host)
    (.ofFormat (.text "tiny"))
  obtain ⟨f, hf⟩ :=
    hbuilt.mpr ⟨"tiny", _, .ofFormat (by decide), by decide +kernel⟩
  refine ⟨hunknown _ _ (.ofFormat (by decide)) [⟨"method", [""], ":method"⟩]
    ⟨"bogus-token", [""], ":bogus-token"⟩ [⟨"nope", [""], ":nope"⟩] (by decide +kernel)
    (by decide +kernel) (by decide +kernel), f, hf, ?_⟩
  refine hserves f hf _ "log" _ rfl fun e he => ?_
  simp only [List.mem_cons, List.not_mem_nil, or_false] at he
  rcases he with rfl | rfl
  · exact id
  · simp [Registries.Event.Rebinds]

end Formatter

end RequestLog
