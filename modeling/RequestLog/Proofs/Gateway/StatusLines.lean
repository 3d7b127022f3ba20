import RequestLog.Gateway.Environ
import RequestLog.Proofs.Refusals

/-!
Status lines, as an application gives them to a server: three decimal digits, a space and a reason.
The code of a status line is what a record holds of it.
-/
namespace RequestLog

namespace Text

variable {c : Char} {d : Nat}

theorem asciiDigit_range (h : asciiDigit? c = some d) : 48 ≤ c.toNat ∧ c.toNat ≤ 57 := by
  unfold asciiDigit? at h
  split at h
  · next hrange => simpa [Nat.ble_eq] using hrange
  · cases h

/-- No decimal digit of any script is white space. -/
theorem not_isBlank_of_digit (h : decimalDigit? c = some d) : isBlank c = false := by
  rw [isBlank, Bool.eq_false_iff, ne_eq, inRanges_iff]
  rintro ⟨r, hr, hlow, hhigh⟩
  unfold decimalDigit? at h
  split at h
  · have hapart : ∀ r ∈ blankRanges, r.2 < 48 ∨ 57 < r.1 := by decide
    have hdigit := asciiDigit_range h
    have hrange := hapart r hr
    omega
  · have hapart : ∀ z ∈ digitZeros, ∀ r ∈ blankRanges, r.2 < z ∨ z + 9 < r.1 := by decide
    obtain ⟨z, hz, -⟩ := Option.map_eq_some_iff.mp h
    have hdigit := List.find?_some hz
    simp only [Nat.ble_eq, Bool.and_eq_true] at hdigit
    have hrange := hapart z (List.mem_of_find?_eq_some hz) r hr
    omega

theorem le_nine_of_digit (h : decimalDigit? c = some d) : d ≤ 9 := by
  unfold decimalDigit? at h
  split at h
  · have hrange := asciiDigit_range h
    unfold asciiDigit? at h
    split at h
    · cases h
      omega
    · cases h
  · obtain ⟨z, hz, rfl⟩ := Option.map_eq_some_iff.mp h
    have hdigit := List.find?_some hz
    simp only [Nat.ble_eq, Bool.and_eq_true] at hdigit
    omega

theorem ne_of_digit {e : Char} (h : decimalDigit? c = some d) (he : decimalDigit? e = none) :
    c ≠ e := by
  rintro rfl
  cases he.symm.trans h

end Text

/-- Whether a status is a text of three digits that make up a code other than 0, a space and a
reason. -/
inductive IsStatusLine : Value → Nat → Prop where
  | intro {text : String} {a b c : Char} {x y z : Nat} {reason : List Char}
      (chars : text.toList = a :: b :: c :: ' ' :: reason) (first : Text.decimalDigit? a = some x)
      (second : Text.decimalDigit? b = some y) (third : Text.decimalDigit? c = some z)
      (positive : 0 < 100 * x + 10 * y + z) : IsStatusLine (.text text) (100 * x + 10 * y + z)

namespace IsStatusLine

variable {status : Value} {code : Nat}

theorem pos (h : IsStatusLine status code) : 0 < code := by
  cases h with
  | intro chars first second third positive => exact positive

theorem lt_thousand (h : IsStatusLine status code) : code < 1000 := by
  cases h with
  | intro chars first second third positive =>
    have hx := Text.le_nine_of_digit first
    have hy := Text.le_nine_of_digit second
    have hz := Text.le_nine_of_digit third
    omega

/-- What is kept of a status line is its code. -/
theorem parseStatus_eq (h : IsStatusLine status code) : parseStatus status = .int code := by
  obtain @⟨text, a, b, c, x, y, z, reason, chars, first, second, third, -⟩ := h
  have ha := Text.not_isBlank_of_digit first
  have hb := Text.not_isBlank_of_digit second
  have hc := Text.not_isBlank_of_digit third
  have hfield : Text.firstField? Text.isBlank text.toList = some [a, b, c] := by
    have hspace : Text.isBlank ' ' = true := by decide
    simp [Text.firstField?, chars, ha, hb, hc, hspace]
  have hmargin : Number.isMargin a = false := by simp [Number.isMargin, ha]
  have hminus : a ≠ '-' := Text.ne_of_digit first (by decide)
  have hplus : a ≠ '+' := Text.ne_of_digit first (by decide)
  have hsign : Number.readSign [a, b, c] = (false, [a, b, c]) := by
    unfold Number.readSign
    split
    · next heq => exact absurd (List.cons_eq_cons.mp heq).1 hminus
    · next heq => exact absurd (List.cons_eq_cons.mp heq).1 hplus
    · rfl
  have hdigits : Number.readDigits Text.decimalDigit? true [a, b, c] = some ([x, y, z], []) := by
    simp [Number.readDigits, first, second, third]
  have hvalue : Number.ofDigits [x, y, z] = 100 * x + 10 * y + z := by
    simp only [Number.ofDigits, List.foldl_cons, List.foldl_nil]
    omega
  have hparse : Number.parseInt [a, b, c] = .ok (100 * x + 10 * y + z : Nat) := by
    simp [Number.parseInt, Number.parseWith, hmargin, hsign, hdigits, hvalue, Number.maxDigits]
  rw [parseStatus, fieldNumber, hfield, Option.map_some, hparse]

end IsStatusLine

end RequestLog
