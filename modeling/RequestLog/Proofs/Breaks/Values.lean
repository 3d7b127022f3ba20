import RequestLog.Proofs.Breaks.Text
import RequestLog.Proofs.Refusals
import RequestLog.Time.DateText
import RequestLog.Value

/-!
Values without line breaks. Numbers and dates have none, and what stands in a list is quoted: only
a text, octets and what an object tells can have one.
-/
namespace RequestLog

open Text

namespace Number

variable {cs : List Char}

theorem unbroken_intDigits (n : Int) : Unbroken (intDigits n) := by
  have hsign : ¬ IsBreak '-' := by decide
  unfold intDigits
  split <;> simp [unbroken_digits, hsign]

theorem unbroken_intText (n : Int) : Unbroken (intText n).toList := by
  simp [intText, unbroken_intDigits]

theorem unbroken_padLeft (width : Nat) (h : Unbroken cs) : Unbroken (padLeft width '0' cs) := by
  have hzero : ¬ IsBreak '0' := by decide
  simp [padLeft, unbroken_replicate _ hzero, h]

theorem unbroken_padded (width n : Nat) : Unbroken (padded width n) :=
  unbroken_padLeft width (unbroken_digits n)

theorem unbroken_sign (b : Binary) : Unbroken b.sign := by
  unfold Binary.sign
  split <;> decide

theorem unbroken_placePoint (keepPoint : Bool) (places : Nat) (h : Unbroken cs) :
    Unbroken (placePoint keepPoint places cs) := by
  have hpoint : ¬ IsBreak '.' := by decide
  have hpadded := unbroken_padLeft (places + 1) h
  have hwhole (n : Nat) := hpadded.subset (List.take_subset n _)
  have hpart (n : Nat) := hpadded.subset (List.drop_subset n _)
  unfold placePoint
  simp only
  split
  · exact hwhole _
  · simp [hwhole, hpart, hpoint]

theorem unbroken_exponentPart (exponent : Int) : Unbroken (exponentPart exponent) := by
  have hmarks : ¬ IsBreak 'e' ∧ ¬ IsBreak '-' ∧ ¬ IsBreak '+' := by decide
  unfold exponentPart
  split <;> simp [hmarks, unbroken_padded]

theorem unbroken_scientific (keepPoint : Bool) (h : Unbroken cs) (exponent : Int) :
    Unbroken (scientific keepPoint cs exponent) := by
  have hpoint : ¬ IsBreak '.' := by decide
  unfold scientific
  rw [unbroken_append]
  refine ⟨?_, unbroken_exponentPart exponent⟩
  split
  · simp
  · split <;> simp_all
  · simp_all

theorem unbroken_positional {tail : List Char} (ht : Unbroken tail) (h : Unbroken cs)
    (exponent : Int) : Unbroken (positional tail cs exponent) := by
  have hmarks : ¬ IsBreak '0' ∧ ¬ IsBreak '.' := by decide
  have htake (n : Nat) := h.subset (List.take_subset n _)
  have hdrop (n : Nat) := h.subset (List.drop_subset n _)
  unfold positional
  simp only
  split
  · simp [hmarks, unbroken_replicate _ hmarks.1, h]
  · split
    · simp [unbroken_replicate _ hmarks.1, h, ht]
    · simp [hmarks, htake, hdrop]

theorem unbroken_finiteLiteral (b : Binary) : Unbroken (finiteLiteral b) := by
  have htail : Unbroken ['.', '0'] := by decide
  have hdigits := unbroken_digits (shortest b).digits
  unfold finiteLiteral
  rw [unbroken_append]
  refine ⟨unbroken_sign b, ?_⟩
  split
  · decide
  · simp only
    split
    · exact unbroken_positional htail hdigits _
    · exact unbroken_scientific false hdigits _

theorem unbroken_floatLiteral (x : Float) : Unbroken (floatLiteral x).toList := by
  unfold floatLiteral
  split
  · decide
  · decide
  · decide
  · rw [String.toList_ofList]
    exact unbroken_finiteLiteral _

theorem unbroken_fixedText (places : Nat) (x : Float) : Unbroken (fixedText places x).toList := by
  unfold fixedText
  split
  · decide
  · decide
  · decide
  · rw [String.toList_ofList, unbroken_append]
    exact ⟨unbroken_sign _, unbroken_placePoint false places (unbroken_digits _)⟩

end Number

namespace Value

/-- Whether the text by which a value is shown in a line, if it has one, has no line breaks. -/
def Unbroken : Value → Prop
  | text s => Text.Unbroken s.toList
  | octets os => ∀ o ∈ os, o.toNat ≠ 10 ∧ o.toNat ≠ 13
  | list items => ∀ shown, (list items).literal = .ok shown → Text.Unbroken shown.toList
  | object o => ∀ shown, o.display = .ok shown → Text.Unbroken shown.toList
  | _ => True

variable {v w : Value} {shown : String}

@[simp] theorem unbroken_text {s : String} : (text s).Unbroken ↔ Text.Unbroken s.toList := Iff.rfl

theorem Unbroken.toText (h : v.Unbroken) (ht : v.toText = .ok shown) :
    Text.Unbroken shown.toList := by
  cases v with
  | text s =>
    cases ht
    exact h
  | octets os =>
    cases ht
    rw [String.toList_ofList]
    exact Utf8.unbroken_decodeReplacing h
  | null =>
    cases ht
    decide
  | bool b =>
    cases ht
    cases b <;> decide
  | int n =>
    rw [← (numeral_eq_ok.mp ht).2]
    exact Number.unbroken_intText n
  | float x =>
    cases ht
    exact Number.unbroken_floatLiteral x
  | list items => exact h _ ht
  | object o => exact h _ ht

theorem Unbroken.orElse (hv : v.Unbroken) (hw : w.Unbroken) : (v.orElse w).Unbroken := by
  unfold Value.orElse
  split <;> assumption

theorem Unbroken.orNull (h : v.Unbroken) : v.orNull.Unbroken :=
  h.orElse trivial

end Value

namespace Time

theorem unbroken_getD {names : List String} (h : ∀ s ∈ names, Unbroken s.toList) (n : Nat) :
    Unbroken (names.getD n "").toList := by
  rw [List.getD_eq_getElem?_getD]
  cases hn : names[n]? with
  | none => exact unbroken_nil
  | some s => exact h s (List.mem_of_getElem? hn)

theorem unbroken_monthName (month : Nat) : Unbroken (monthName month) :=
  unbroken_getD (by decide) _

theorem unbroken_weekdayName (day : Nat) : Unbroken (weekdayName day) :=
  unbroken_getD (by decide) _

theorem unbroken_clockText (t : Moment) : Unbroken t.clockText := by
  have hcolon : ¬ IsBreak ':' := by decide
  simp [Moment.clockText, Number.unbroken_padded, hcolon]

theorem unbroken_offsetText (t : Moment) : Unbroken t.offsetText := by
  have hsigns : ¬ IsBreak '+' ∧ ¬ IsBreak '-' := by decide
  unfold Moment.offsetText
  simp only
  split <;> split <;> simp [Number.unbroken_padded, hsigns]

/-- A date has no line breaks in any form. -/
theorem unbroken_write (form : DateForm) (t : Moment) : Unbroken (form.write t).toList := by
  have hmarks : ¬ IsBreak '/' ∧ ¬ IsBreak ':' ∧ ¬ IsBreak ' ' ∧ ¬ IsBreak '-' ∧ ¬ IsBreak ',' ∧
      ¬ IsBreak '.' ∧ ¬ IsBreak 'T' ∧ ¬ IsBreak 'Z' ∧ ¬ IsBreak 'G' ∧ ¬ IsBreak 'M' := by decide
  cases form with
  | clf =>
    simp [DateForm.write, Moment.clf, unbroken_offsetText, Number.unbroken_padded,
      unbroken_monthName, unbroken_clockText, hmarks]
  | iso =>
    simp [DateForm.write, Moment.iso, Number.unbroken_padded, unbroken_digits, unbroken_clockText,
      hmarks]
  | web =>
    simp [DateForm.write, Moment.web, Number.unbroken_padded, unbroken_monthName,
      unbroken_weekdayName, unbroken_clockText, hmarks]

theorem unbroken_dateText {form : DateForm} {time : Value} {date : String}
    (h : dateText form time = .ok date) : Unbroken date.toList := by
  rw [dateText, bind_eq_ok] at h
  obtain ⟨micros, -, h⟩ := h
  obtain ⟨t, -, h⟩ := bind_eq_ok.mp h
  cases h
  exact unbroken_write form t

end Time

end RequestLog
