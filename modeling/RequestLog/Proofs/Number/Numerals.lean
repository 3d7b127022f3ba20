import Mathlib.Data.String.Basic
import Mathlib.Tactic.NormNum
import RequestLog.Number.Decimal

/-!
Decimal numerals, read back and compared. A padded numeral denotes its number and has the width
that it was padded to, so that numerals of one width stand in the order of their numbers.
-/
namespace RequestLog.Number

variable {as bs xs ys cs : List Char} {c mark : Char} {width m n : Nat}

/-- The number that a text of decimal digits denotes. -/
def numeral? (cs : List Char) : Option Nat :=
  if cs.isEmpty || ! cs.all Char.isDigit then none else some (Nat.ofDigitChars 10 cs 0)

theorem isDigit_of_mem_digits (h : c ∈ digits 10 n) : c.isDigit = true :=
  Nat.isDigit_of_mem_toDigits (by decide) (by decide) h

theorem isDigit_of_mem_padded (h : c ∈ padded width n) : c.isDigit = true := by
  rcases List.mem_append.mp h with h | h
  · rw [List.eq_of_mem_replicate h]
    decide
  · exact isDigit_of_mem_digits h

theorem digits_ne_nil (n : Nat) : digits 10 n ≠ [] := Nat.toDigits_ne_nil

theorem numeral?_digits (n : Nat) : numeral? (digits 10 n) = some n := by
  have hall : (digits 10 n).all Char.isDigit = true :=
    List.all_eq_true.mpr fun c => isDigit_of_mem_digits
  have hvalue : Nat.ofDigitChars 10 (digits 10 n) 0 = n := Nat.ofDigitChars_ten_toDigits
  simp [numeral?, hall, digits_ne_nil, hvalue]

theorem ofDigitChars_padded (width n : Nat) : Nat.ofDigitChars 10 (padded width n) 0 = n := by
  simp [padded, padLeft, Nat.ofDigitChars_append, digits]

theorem padded_ne_nil (width n : Nat) : padded width n ≠ [] :=
  fun h => digits_ne_nil n (List.append_eq_nil_iff.mp h).2

theorem numeral?_padded (width n : Nat) : numeral? (padded width n) = some n := by
  have hall : (padded width n).all Char.isDigit = true :=
    List.all_eq_true.mpr fun c => isDigit_of_mem_padded
  simp [numeral?, hall, padded_ne_nil, ofDigitChars_padded]

theorem padded_inj : padded width m = padded width n ↔ m = n := by
  constructor
  · intro h
    rw [← ofDigitChars_padded width m, h, ofDigitChars_padded]
  · rintro rfl
    rfl

theorem digits_inj : digits 10 m = digits 10 n ↔ m = n := by
  constructor
  · intro h
    exact Option.some.inj ((numeral?_digits m).symm.trans (h ▸ numeral?_digits n))
  · rintro rfl
    rfl

theorem length_padded (hw : 0 < width) (h : n < 10 ^ width) : (padded width n).length = width := by
  have hlength := (Nat.length_toDigits_le_iff (b := 10) (by decide) hw).mpr h
  simp only [padded, padLeft, List.length_append, List.length_replicate, digits]
  omega

theorem le_length_padded (width n : Nat) : width ≤ (padded width n).length := by
  simp only [padded, padLeft, List.length_append, List.length_replicate]
  omega

theorem padded_eq_digits (h : width ≤ digitCount n) : padded width n = digits 10 n := by
  have hzero : width - (digits 10 n).length = 0 := by
    unfold digitCount at h
    omega
  simp [padded, padLeft, hzero]

section Order

/-- Texts whose first parts have the same length stand in the order of these, and then in that of
what follows. -/
theorem append_lt_append_iff (h : as.length = bs.length) :
    as ++ xs < bs ++ ys ↔ as < bs ∨ as = bs ∧ xs < ys := by
  induction as generalizing bs with
  | nil =>
    obtain rfl : bs = [] := List.eq_nil_of_length_eq_zero h.symm
    simp
  | cons a as ih =>
    obtain ⟨b, bs, rfl⟩ := List.exists_cons_of_length_eq_add_one h.symm
    simp only [List.cons_append, List.cons_lt_cons_iff, List.cons.injEq, ih (Nat.succ.inj h)]
    tauto

/-- The same holds of first parts of any length that end with a mark which comes before their
characters. -/
theorem append_mark_lt_iff (ha : ∀ c ∈ as, mark < c) (hb : ∀ c ∈ bs, mark < c) :
    as ++ mark :: xs < bs ++ mark :: ys ↔ as < bs ∨ as = bs ∧ xs < ys := by
  induction as generalizing bs with
  | nil =>
    cases bs with
    | nil => simp
    | cons b bs => simp [List.cons_lt_cons_iff, hb b List.mem_cons_self]
  | cons a as ih =>
    cases bs with
    | nil =>
      have hmark : mark < a := ha a List.mem_cons_self
      simp [List.cons_lt_cons_iff, hmark.le, hmark.ne']
    | cons b bs =>
      have hrest := ih (fun c hc => ha c (List.mem_cons_of_mem _ hc))
        (fun c hc => hb c (List.mem_cons_of_mem _ hc))
      simp only [List.cons_append, List.cons_lt_cons_iff, List.cons.injEq, hrest]
      tauto

theorem ofDigitChars_cons (c : Char) (cs : List Char) :
    Nat.ofDigitChars 10 (c :: cs) 0 = 10 ^ cs.length * (c.toNat - 48) + Nat.ofDigitChars 10 cs
    0 := by
  rw [Nat.ofDigitChars_cons, Nat.ofDigitChars_eq_ofDigitChars_zero]
  simp

theorem digit_range (h : c.isDigit = true) : 48 ≤ c.toNat ∧ c.toNat ≤ 57 := by
  simpa [Char.isDigit, UInt32.le_iff_toNat_le] using h

theorem ofDigitChars_lt (h : ∀ c ∈ cs, c.isDigit = true) :
    Nat.ofDigitChars 10 cs 0 < 10 ^ cs.length := by
  induction cs with
  | nil => simp
  | cons c cs ih =>
    obtain ⟨hc, hcs⟩ := List.forall_mem_cons.mp h
    have hrange := digit_range hc
    have hrest := ih hcs
    have hfirst : 10 ^ cs.length * (c.toNat - 48) ≤ 10 ^ cs.length * 9 :=
      Nat.mul_le_mul_left _ (by omega)
    rw [ofDigitChars_cons, List.length_cons, Nat.pow_succ]
    omega

/-- A digit more in front outweighs whatever digits follow. -/
theorem weighted_lt {k d e u v : Nat} (h : d < e) (hu : u < k) : k * d + u < k * e + v := by
  have hmore := Nat.mul_le_mul_left k (Nat.succ_le_of_lt h)
  rw [Nat.mul_succ] at hmore
  omega

/-- Numerals of the same length stand in the order of their numbers. -/
theorem lt_iff_ofDigitChars_lt (ha : ∀ c ∈ as, c.isDigit = true) (hb : ∀ c ∈ bs, c.isDigit = true)
    (h : as.length = bs.length) :
    as < bs ↔ Nat.ofDigitChars 10 as 0 < Nat.ofDigitChars 10 bs 0 := by
  induction as generalizing bs with
  | nil =>
    obtain rfl : bs = [] := List.eq_nil_of_length_eq_zero h.symm
    simp
  | cons a as ih =>
    obtain ⟨b, bs, rfl⟩ := List.exists_cons_of_length_eq_add_one h.symm
    obtain ⟨ha₀, has⟩ := List.forall_mem_cons.mp ha
    obtain ⟨hb₀, hbs⟩ := List.forall_mem_cons.mp hb
    have hlength : as.length = bs.length := Nat.succ.inj h
    have hlt := ofDigitChars_lt has
    have hlt' := ofDigitChars_lt hbs
    rw [hlength] at hlt
    rw [List.cons_lt_cons_iff, ih has hbs hlength, ofDigitChars_cons, ofDigitChars_cons, hlength]
    have ha₁ := digit_range ha₀
    have hb₁ := digit_range hb₀
    rcases lt_trichotomy a b with hab | rfl | hab
    · have hcode : a.toNat < b.toNat := hab
      simpa [hab] using weighted_lt (show a.toNat - 48 < b.toNat - 48 by omega) hlt
    · simp
    · have hcode : b.toNat < a.toNat := hab
      have hvalue := weighted_lt (v := Nat.ofDigitChars 10 as 0)
        (show b.toNat - 48 < a.toNat - 48 by omega) hlt'
      simp [hab.not_gt, hab.ne', hvalue.le]

theorem padded_lt_padded_iff (hw : 0 < width) (hm : m < 10 ^ width) (hn : n < 10 ^ width) :
    padded width m < padded width n ↔ m < n := by
  rw [lt_iff_ofDigitChars_lt (fun _ => isDigit_of_mem_padded) (fun _ => isDigit_of_mem_padded),
    ofDigitChars_padded, ofDigitChars_padded]
  rw [length_padded hw hm, length_padded hw hn]

theorem padded_append_lt_iff (hw : 0 < width) (hm : m < 10 ^ width) (hn : n < 10 ^ width) :
    padded width m ++ xs < padded width n ++ ys ↔ m < n ∨ m = n ∧ xs < ys := by
  have hlength : (padded width m).length = (padded width n).length := by
    rw [length_padded hw hm, length_padded hw hn]
  rw [append_lt_append_iff hlength, padded_lt_padded_iff hw hm hn, padded_inj]

end Order

end RequestLog.Number
