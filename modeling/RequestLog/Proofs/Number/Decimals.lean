import RequestLog.Number.Binary
import RequestLog.Proofs.Number.Numerals

/-!
Numbers with a fixed number of decimal places. The text of a finite number has digits before the
point and as many behind it as are asked for, and no point where none are.
-/
namespace RequestLog.Number

variable {places : Nat} {cs : List Char} {b : Binary} {x : Float}

/-- A decimal numeral with a number of places, and the whole number that its digits denote. -/
structure IsDecimal (places value : Nat) (cs : List Char) : Prop where
  parts : ∃ whole part : List Char, whole ≠ [] ∧ part.length = places ∧
    (∀ c ∈ whole ++ part, c.isDigit = true) ∧ Nat.ofDigitChars 10 (whole ++ part) 0 = value ∧
    cs = if places = 0 then whole else whole ++ '.' :: part

theorem isDecimal_placePoint (places n : Nat) :
    IsDecimal places n (placePoint false places (digits 10 n)) := by
  have hlength : places + 1 ≤ (padded (places + 1) n).length := le_length_padded _ n
  refine ⟨(padded (places + 1) n).take ((padded (places + 1) n).length - places),
    (padded (places + 1) n).drop ((padded (places + 1) n).length - places), ?_, ?_, ?_, ?_, ?_⟩
  · rw [← List.length_pos_iff, List.length_take]
    omega
  · rw [List.length_drop]
    omega
  · rw [List.take_append_drop]
    exact fun c => isDigit_of_mem_padded
  · rw [List.take_append_drop, ofDigitChars_padded]
  · simp [placePoint, padded]

/-- A finite number is written with its sign as the decimal that is nearest to it. -/
theorem fixedText_of_finite (h : read x = .finite b) (places : Nat) :
    ∃ cs, fixedText places x = String.ofList (b.sign ++ cs) ∧
      IsDecimal places (roundDiv (b.num * 10 ^ places) b.den) cs := by
  refine ⟨fixedPlaces false places b, ?_, isDecimal_placePoint places _⟩
  simp [fixedText, h]

end RequestLog.Number
