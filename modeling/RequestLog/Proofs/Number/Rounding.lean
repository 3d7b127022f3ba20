import Mathlib.Algebra.Order.Field.Power
import Mathlib.Data.Rat.Cast.Order
import Mathlib.Tactic.FieldSimp
import Mathlib.Tactic.Linarith
import Mathlib.Tactic.Ring
import RequestLog.Number.Binary

/-!
Rounding of quotients, and the exact value of a double-precision number. Rounding depends on the
quotient alone and keeps the order of quotients.
-/
namespace RequestLog.Number

variable {a b c d n r s : Nat}

/-- A quotient is rounded up from the middle between two whole numbers if the lower one is odd. -/
theorem roundDiv_eq (a b : Nat) :
    roundDiv a b =
      if b < 2 * (a % b) ∨ b = 2 * (a % b) ∧ a / b % 2 = 1 then a / b + 1 else a / b := by
  simp only [roundDiv]
  split_ifs <;> omega

theorem div_le_roundDiv (a b : Nat) : a / b ≤ roundDiv a b := by
  rw [roundDiv_eq]
  split <;> omega

theorem roundDiv_le (a b : Nat) : roundDiv a b ≤ a / b + 1 := by
  rw [roundDiv_eq]
  split <;> omega

theorem roundDiv_mul (hd : 0 < d) (n : Nat) : roundDiv (n * d) d = n := by
  rw [roundDiv_eq, Nat.mul_mod_left, Nat.mul_div_cancel n hd, if_neg (by omega)]

/-- A fraction that is no smaller than one from the middle of its unit on is there as well. -/
theorem half_of_cross_le (hb : 0 < b) (hd : 0 < d) (h : r * d ≤ s * b) :
    (b < 2 * r → d < 2 * s) ∧ (b ≤ 2 * r → d ≤ 2 * s) := by
  constructor
  · intro hr
    by_contra hs
    have := Nat.mul_lt_mul_of_pos_right hr hd
    have := Nat.mul_le_mul_right b (not_lt.mp hs)
    linarith
  · intro hr
    by_contra hs
    have := Nat.mul_le_mul_right d hr
    have := Nat.mul_lt_mul_of_pos_right (not_le.mp hs) hb
    linarith

theorem div_le_div_of_cross (hb : 0 < b) (hd : 0 < d) (h : a * d ≤ c * b) : a / b ≤ c / d := by
  rw [Nat.le_div_iff_mul_le hd]
  apply Nat.le_of_mul_le_mul_right _ hb
  calc a / b * d * b = a / b * b * d := by ring
    _ ≤ a * d := Nat.mul_le_mul_right d (Nat.div_mul_le_self a b)
    _ ≤ c * b := h

/-- Quotients of the same whole part are in the order of what is left over. -/
theorem mod_cross_le (h : a * d ≤ c * b) (heq : a / b = c / d) : a % b * d ≤ c % d * b := by
  have hsplit : a * d = a / b * (b * d) + a % b * d := by
    nth_rewrite 1 [← Nat.div_add_mod a b]
    ring
  have hsplit' : c * b = a / b * (b * d) + c % d * b := by
    nth_rewrite 1 [← Nat.div_add_mod c d]
    rw [heq]
    ring
  omega

/-- A larger quotient is not rounded to a smaller number. -/
theorem roundDiv_mono (hb : 0 < b) (hd : 0 < d) (h : a * d ≤ c * b) :
    roundDiv a b ≤ roundDiv c d := by
  rcases (div_le_div_of_cross hb hd h).lt_or_eq with hlt | heq
  · exact (roundDiv_le a b).trans (Nat.le_trans hlt (div_le_roundDiv c d))
  · obtain ⟨hmore, hhalf⟩ := half_of_cross_le hb hd (mod_cross_le h heq)
    rw [roundDiv_eq, roundDiv_eq, heq]
    split_ifs <;> omega

theorem roundDiv_scale (hb : 0 < b) (hd : 0 < d) (a : Nat) : roundDiv (a * d)
    (b * d) = roundDiv a b := by
  have hbd : 0 < b * d := Nat.mul_pos hb hd
  have hcross : a * d * b = a * (b * d) := by ring
  exact Nat.le_antisymm (roundDiv_mono hbd hb hcross.le) (roundDiv_mono hb hbd hcross.ge)

theorem roundDiv_le_of_le (hd : 0 < d) (h : a ≤ n * d) : roundDiv a d ≤ n := by
  rw [← roundDiv_mul hd n]
  exact roundDiv_mono hd hd (Nat.mul_le_mul_right d h)

theorem le_roundDiv_of_le (hd : 0 < d) (h : n * d ≤ a) : n ≤ roundDiv a d := by
  rw [← roundDiv_mul hd n]
  exact roundDiv_mono hd hd (Nat.mul_le_mul_right d h)

/-- A rounded quotient is at most half a unit away from the quotient. -/
theorem roundDiv_near (hd : 0 < d) (n : Nat) :
    2 * n ≤ 2 * (roundDiv n d * d) + d ∧ 2 * (roundDiv n d * d) ≤ 2 * n + d := by
  have hn := Nat.div_add_mod n d
  have hrest := Nat.mod_lt n hd
  have hmul := Nat.mul_comm d (n / d)
  rw [roundDiv_eq]
  split_ifs
  · rw [Nat.add_mul]
    omega
  · omega

namespace Binary

/-- The number that a sign, a mantissa and an exponent stand for. -/
def toRat (b : Binary) : ℚ :=
  (if b.negative then -1 else 1) * (b.mantissa * 2 ^ b.exponent)

theorem den_pos (b : Binary) : 0 < b.den := Nat.pow_pos (by decide)

theorem num_div_den (b : Binary) : (b.num : ℚ) / b.den = b.mantissa * 2 ^ b.exponent := by
  obtain ⟨k, hk | hk⟩ := Int.eq_nat_or_neg b.exponent
  · simp [num, den, hk]
  · simp [num, den, hk, div_eq_mul_inv]

theorem natAbs_truncate_le (b : Binary) : b.truncate.natAbs ≤ b.num := by
  have hdiv : b.truncate.natAbs = b.num / b.den := by
    unfold truncate
    split
    · exact Int.natAbs_neg _
    · rfl
  rw [hdiv]
  exact Nat.div_le_self _ _

end Binary

theorem parts_of_readBits {bits : Nat} {b : Binary} (h : readBits bits = .finite b) :
    b.mantissa < 2 ^ 53 ∧ b.exponent ≤ 971 := by
  have hfraction : bits % 2 ^ 52 < 2 ^ 52 := Nat.mod_lt _ (by decide)
  have hexponent : bits / 2 ^ 52 % 2 ^ 11 < 2 ^ 11 := Nat.mod_lt _ (by decide)
  simp only [readBits, Nat.pow_eq] at h
  split at h
  · split at h <;> cases h
  · split at h <;> cases h <;> simp only [Int.ofNat_eq_natCast] <;> omega

/-- The whole part of a finite double-precision number has no more than 1024 binary digits. -/
theorem natAbs_truncate_lt {x : Float} {b : Binary} (h : read x = .finite b) :
    ∃ size ≤ 1024, b.truncate.natAbs < 2 ^ size := by
  obtain ⟨hmantissa, hexponent⟩ := parts_of_readBits h
  refine ⟨53 + b.exponent.toNat, by omega, ?_⟩
  calc b.truncate.natAbs
      ≤ b.mantissa * 2 ^ b.exponent.toNat := b.natAbs_truncate_le
    _ < 2 ^ 53 * 2 ^ b.exponent.toNat :=
      Nat.mul_lt_mul_of_pos_right hmantissa (Nat.pow_pos (by decide))
    _ = 2 ^ (53 + b.exponent.toNat) := (Nat.pow_add 2 53 _).symm

end RequestLog.Number
