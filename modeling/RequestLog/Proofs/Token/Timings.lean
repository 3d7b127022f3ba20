import RequestLog.Proofs.Format.Lines
import RequestLog.Proofs.Number.Decimals
import RequestLog.Proofs.Number.Literals

/-!
The two tokens for times. Both are absent for the same requests and the same arguments, never fail,
and show as many decimal places as are asked for.
-/
namespace RequestLog.Builtin

variable {σ : Type} {snapshot : Snapshot σ} {args : List String} {places : Nat}

/-- The number of decimal places that arguments ask for: three if the first one is missing or
empty, else what it denotes as a literal, which is at most twenty. -/
inductive Asks : List String → Nat → Prop where
  | default {args : List String} (unsaid : args.headD "" = "") : Asks args 3
  | given {args : List String} {places : Nat} (said : args.headD "" ≠ "")
      (literal : Number.IsLiteral (args.headD "").toList places) (few : places ≤ 20) :
      Asks args places

/-- Whether an outcome shows a number with a number of decimal places: with its sign, as the
decimal that is nearest to it, if it is finite. -/
def Shows (places : Nat) (x : Float) (outcome : Except Fault Value) : Prop :=
  ∃ text, outcome = .ok (.text text) ∧ ∀ b, Number.read x = .finite b →
    ∃ cs, text.toList = b.sign ++ cs ∧
      Number.IsDecimal places (Number.roundDiv (b.num * 10 ^ places) b.den) cs

/-- The places that texts ask for, if they ask for a number in the range. -/
def asked? (args : List String) : Option Nat :=
  if args.headD "" = "" then some 3
  else
    match Number.parseInt (args.headD "").toList with
    | .ok n => if 0 ≤ n ∧ n ≤ 20 then some n.toNat else none
    | .error _ => none

theorem asked?_eq_some_iff : asked? args = some places ↔ Asks args places := by
  unfold asked?
  constructor
  · intro h
    split at h
    · next hunsaid =>
      cases h
      exact .default hunsaid
    · next hsaid =>
      split at h
      · next n hn =>
        split at h
        · next hrange =>
          cases h
          refine .given hsaid ?_ (by omega)
          rw [Int.toNat_of_nonneg hrange.1]
          exact Number.parseInt_eq_ok_iff.mp hn
        · cases h
      · cases h
  · rintro (hunsaid | ⟨hsaid, hliteral, hfew⟩)
    · exact if_pos hunsaid
    · rw [if_neg hsaid, Number.parseInt_eq_ok_iff.mpr hliteral]
      simp [hfew]

theorem asked?_eq_none_iff : asked? args = none ↔ ∀ places, ¬ Asks args places := by
  simp [← asked?_eq_some_iff, Option.eq_none_iff_forall_ne_some]

/-- Texts are no reason for a fault. -/
theorem placesOf_texts (args : List String) : placesOf (args.map .text) = .ok (asked? args) := by
  have hfirst : Extractor.firstArg (args.map .text) (.int defaultPlaces) =
      (Value.text (args.headD "")).orElse (.int defaultPlaces) := by
    cases args <;> rfl
  unfold placesOf asked?
  rw [hfirst, Value.orElse]
  by_cases hunsaid : args.headD "" = ""
  · rw [hunsaid]
    rfl
  · rw [if_pos ((Value.truthy_text _).mpr hunsaid), if_neg hunsaid, Value.toWhole]
    cases Number.parseInt (args.headD "").toList with
    | ok n => rfl
    | error f => rfl

theorem lapse_texts (stop : Float → Float) (snapshot : Snapshot σ) (args : List String) :
    lapse stop snapshot (args.map .text) = .ok (match snapshot.startAt, snapshot.endAt,
    asked? args with
      | some start, some last, some places =>
        .text (Number.fixedText places (milliseconds start (stop last)))
      | _, _, _ => .null) := by
  rw [lapse, placesOf_texts]
  cases snapshot.startAt <;> cases snapshot.endAt <;> cases asked? args <;> rfl

/-- A timing token is absent exactly if the request has not started, has not ended, or the
arguments ask for no number of places. -/
theorem lapse_eq_null_iff (stop : Float → Float) :
    lapse stop snapshot (args.map .text) = .ok .null ↔
    snapshot.startAt = none ∨ snapshot.endAt = none ∨ ∀ places, ¬ Asks args places := by
  rw [lapse_texts, ← asked?_eq_none_iff]
  cases snapshot.startAt <;> cases snapshot.endAt <;> cases asked? args <;> simp

theorem lapse_of_no_end (stop : Float → Float) (h : snapshot.endAt = none) :
    lapse stop snapshot (args.map .text) = .ok .null :=
  (lapse_eq_null_iff stop).mpr (.inr (.inl h))

/-- Else it shows the milliseconds with the places that are asked for. -/
theorem shows_lapse (stop : Float → Float) {start last : Float}
    (hstart : snapshot.startAt = some start)
    (hlast : snapshot.endAt = some last) (h : Asks args places) :
    Shows places (milliseconds start (stop last)) (lapse stop snapshot (args.map .text)) := by
  refine ⟨_, by rw [lapse_texts, hstart, hlast, asked?_eq_some_iff.mpr h], fun b hb => ?_⟩
  obtain ⟨cs, htext, hdecimal⟩ := Number.fixedText_of_finite hb places
  exact ⟨cs, by rw [htext, String.toList_ofList], hdecimal⟩

section Known

variable {host : Host σ}

/-- The tokens for times. -/
def timings : List String := ["response-time", "total-time"]

/-- Without an end, a token for a time is absent. -/
theorem timing_of_no_end {name : String} {e : Extractor σ} (h : (name, e) ∈ extractors host)
    (ht : name ∈ timings) (hend : snapshot.endAt = none) (args : List String) (s : σ) :
    (e.call snapshot (args.map .text) s).1 = .ok .null := by
  have hget := Registry.get?_builtin h
  rcases List.mem_cons.mp ht with rfl | ht
  · have hknown : ("response-time", .ofFunction "<extractor response-time>" responseTime) ∈
        extractors host := by simp [extractors]
    obtain rfl := Option.some.inj (hget.symm.trans (Registry.get?_builtin hknown))
    rw [Extractor.outcome_ofFunction]
    exact lapse_of_no_end _ hend
  · obtain rfl := List.mem_singleton.mp ht
    have hknown : ("total-time", ofClocks host "<extractor total-time>" totalTime) ∈
        extractors host := by simp [extractors]
    obtain rfl := Option.some.inj (hget.symm.trans (Registry.get?_builtin hknown))
    simp only [ofClocks, Action.ofExcept_apply, Action.andThen_of_ok (Action.look_apply _ _)]
    exact lapse_of_no_end _ hend

end Known

end RequestLog.Builtin
