import RequestLog.Message
import RequestLog.Proofs.Actions
import RequestLog.Proofs.Number.Numerals

/-!
What refuses its text, and what never does. A whole number refuses it from a number of digits on,
and an object of the host as it likes. The faults of the log's own making are worded in texts and
small numbers, so that they have a literal also where they are about a value that has none.
-/
namespace RequestLog

theorem Number.digitCount_le_iff {n width : Nat} (hw : 0 < width) :
    digitCount n ≤ width ↔ n < 10 ^ width :=
  Nat.length_toDigits_le_iff (by decide) hw

namespace Value

variable {v : Value} {n : Int}

theorem numeral_eq_ok {shown : String} : numeral n = .ok shown ↔
    Number.digitCount n.natAbs ≤ Number.maxDigits ∧ Number.intText n = shown := by
  unfold numeral
  split
  · next h => exact ⟨fun hok => (nomatch hok), fun hok => absurd hok.1 (Nat.not_le.mpr h)⟩
  · next h => simp [Nat.not_lt.mp h]

theorem numeral_of_lt (h : n.natAbs < 10 ^ Number.maxDigits) :
    numeral n = .ok (Number.intText n) := by
  rw [← Number.digitCount_le_iff (by decide)] at h
  exact numeral_eq_ok.mpr ⟨h, rfl⟩

/-- A value that does not refuse its text in a line. -/
def HasText (v : Value) : Prop :=
  ∃ text, v.toText = .ok text

theorem written_eq_ok {text : String} : v.written = .ok text ↔ v.toText = .ok text :=
  mapError_eq_ok

theorem exists_written_iff : (∃ text, v.written = .ok text) ↔ v.HasText := by
  simp only [written_eq_ok, HasText]

theorem hasText_text (s : String) : (text s).HasText := ⟨s, rfl⟩

theorem hasText_octets (os : List UInt8) : (octets os).HasText := ⟨_, rfl⟩

theorem hasText_null : null.HasText := ⟨"None", rfl⟩

theorem HasText.orElse {w : Value} (hv : v.HasText) (hw : w.HasText) : (v.orElse w).HasText := by
  unfold Value.orElse
  split <;> assumption

theorem HasText.orNull (h : v.HasText) : v.orNull.HasText :=
  h.orElse hasText_null

end Value

/-- An argument of a message that does not refuse its literal. -/
def Argument.HasLiteral (a : Argument) : Prop :=
  ∃ shown, a.literal = .ok shown

theorem Argument.hasLiteral_text (s : String) : (Argument.value (.text s)).HasLiteral :=
  ⟨_, rfl⟩

namespace Fault

/-- Whether a fault is of the log's own making: it does not carry arguments of the host's, nor
numbers of any size. -/
def IsOwn : Fault → Prop
  | host .. | unencodable _ | fileRefused .. => False
  | _ => True

theorem literals_of_isOwn {f : Fault} {arguments : List Value} (h : f.IsOwn)
    (hw : f.wording = .ok arguments) : ∃ shown, Value.literals arguments = .ok shown := by
  cases f with
  | host | unencodable | fileRefused => exact h.elim
  | formatEmpty | formatNotText | placeholderNotText | skipNotCallable | noteHandlerNotCallable
    | registryFrozen | streamNotWritable =>
    obtain ⟨s, -, rfl⟩ := map_eq_ok.mp hw
    exact ⟨_, rfl⟩
  | unknownToken name format =>
    cases format with
    | none =>
      obtain ⟨s, -, rfl⟩ := map_eq_ok.mp hw
      exact ⟨_, rfl⟩
    | some format =>
      obtain ⟨s, -, hw⟩ := bind_eq_ok.mp hw
      obtain ⟨t, -, hw⟩ := bind_eq_ok.mp hw
      cases hw
      exact ⟨_, rfl⟩
  | extractorNotCallable name v =>
    obtain ⟨s, -, hw⟩ := bind_eq_ok.mp hw
    obtain ⟨t, -, hw⟩ := bind_eq_ok.mp hw
    cases hw
    exact ⟨_, rfl⟩
  | unreadableFormat v | textAddedTo v =>
    cases v <;> cases hw <;> exact ⟨_, rfl⟩
  | _ =>
    cases hw
    exact ⟨_, rfl⟩

theorem hasLiteral_of_isOwn {f : Fault} (h : f.IsOwn) : (Argument.fault f).HasLiteral := by
  obtain ⟨texts, htexts⟩ : ∃ texts, Value.literals f.arguments = .ok texts := by
    unfold arguments
    split
    · next arguments hw => exact literals_of_isOwn h hw
    · exact ⟨_, rfl⟩
  exact ⟨_, map_eq_ok.mpr ⟨texts, htexts, rfl⟩⟩

end Fault

end RequestLog
