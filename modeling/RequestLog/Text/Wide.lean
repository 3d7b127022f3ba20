/-!
Wide texts: sequences of code points. A code point is the number of a character, or one of the
numbers that are kept for halves of characters and that no character has.
-/
namespace RequestLog.Text

/-- The number of a character, or a number kept for a half of one. -/
abbrev CodePoint := Fin 0x110000

theorem toNat_lt_codePoints (c : Char) : c.toNat < 0x110000 := by
  have valid : c.toNat.isValidChar := c.valid
  rw [Nat.isValidChar] at valid
  omega

/-- The code point of a character. -/
def CodePoint.ofChar (c : Char) : CodePoint :=
  ⟨c.toNat, toNat_lt_codePoints c⟩

/-- A text in which halves of characters may stand alone. -/
abbrev Wide := List CodePoint

def Wide.ofChars (cs : List Char) : Wide :=
  cs.map CodePoint.ofChar

def Wide.ofString (s : String) : Wide :=
  Wide.ofChars s.toList

end RequestLog.Text
