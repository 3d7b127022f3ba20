import RequestLog.Proofs.Number.Rounding
import RequestLog.Proofs.Time.Moments

/-!
Times and their instants. The microseconds of a time are rounded from its exact seconds in a way
that keeps the order of times, whole numbers and fractions being mixed.
-/
namespace RequestLog.Time

open RequestLog.Number (Binary roundDiv)

variable {m n k e f num num' : Nat}

section Bits

theorem roundBits_eq (n : Nat) : roundBits n =
    roundDiv n (2 ^ (Nat.log2 n + 1 - significantBits)) * 2 ^ (Nat.log2 n + 1 - significantBits) :=
  rfl

/-- A number of no more bits than are significant is left as it is. -/
theorem roundBits_of_lt (h : n < 2 ^ significantBits) : roundBits n = n := by
  have hbits : Nat.log2 n + 1 - significantBits = 0 := by
    rcases Nat.eq_zero_or_pos n with rfl | hn
    · decide
    · have := (Nat.log2_lt hn.ne').mpr h
      omega
  rw [roundBits_eq, hbits, pow_zero, Nat.mul_one]
  simpa using Number.roundDiv_mul Nat.one_pos n

theorem log2_mul_pow (hn : n ≠ 0) (k : Nat) : Nat.log2 (n * 2 ^ k) = Nat.log2 n + k := by
  induction k with
  | zero => simp
  | succ k ih =>
    have hne : n * 2 ^ k ≠ 0 := by positivity
    rw [pow_succ, ← Nat.mul_assoc, Nat.mul_comm _ 2, Nat.log2_two_mul hne, ih, Nat.add_assoc]

/-- The rounding of a number does not depend on where its point is. -/
theorem roundBits_mul_pow (n k : Nat) : roundBits (n * 2 ^ k) = roundBits n * 2 ^ k := by
  rcases eq_or_ne n 0 with rfl | hn
  · simp [roundBits_of_lt]
  have hbits := log2_mul_pow hn k
  by_cases hlarge : significantBits ≤ Nat.log2 n + 1
  · have hunit : Nat.log2 n + k + 1 - significantBits = Nat.log2 n + 1 - significantBits + k := by
      omega
    rw [roundBits_eq, roundBits_eq, hbits, hunit, pow_add,
      Number.roundDiv_scale (by positivity) (by positivity), Nat.mul_assoc]
  · -- a short number stays a multiple of the unit when zeros are put behind it
    have hsmall : n < 2 ^ significantBits := (Nat.log2_lt hn).mp (by omega)
    obtain ⟨i, hi⟩ : ∃ i, k = i + (Nat.log2 n + k + 1 - significantBits) :=
      ⟨k - (Nat.log2 n + k + 1 - significantBits), by omega⟩
    rw [roundBits_of_lt hsmall, roundBits_eq, hbits]
    generalize Nat.log2 n + k + 1 - significantBits = j at hi
    rw [hi, pow_add, ← Nat.mul_assoc, Number.roundDiv_mul (by positivity)]

theorem roundBits_le_pow (n : Nat) : roundBits n ≤ 2 ^ (Nat.log2 n + 1) := by
  obtain ⟨i, hi⟩ : ∃ i, Nat.log2 n + 1 = i + (Nat.log2 n + 1 - significantBits) :=
    ⟨Nat.log2 n + 1 - (Nat.log2 n + 1 - significantBits), by omega⟩
  have hlt : n < 2 ^ (Nat.log2 n + 1) := Nat.lt_log2_self
  rw [roundBits_eq]
  generalize Nat.log2 n + 1 - significantBits = j at hi
  rw [hi, pow_add] at hlt ⊢
  exact Nat.mul_le_mul_right _ (Number.roundDiv_le_of_le (by positivity) hlt.le)

theorem pow_le_roundBits (hn : n ≠ 0) : 2 ^ Nat.log2 n ≤ roundBits n := by
  obtain ⟨i, hi⟩ : ∃ i, Nat.log2 n = i + (Nat.log2 n + 1 - significantBits) :=
    ⟨Nat.log2 n - (Nat.log2 n + 1 - significantBits), by unfold significantBits; omega⟩
  have hle : 2 ^ Nat.log2 n ≤ n := Nat.log2_self_le hn
  rw [roundBits_eq]
  generalize Nat.log2 n + 1 - significantBits = j at hi
  rw [hi, pow_add] at hle ⊢
  exact Nat.mul_le_mul_right _ (Number.le_roundDiv_of_le (by positivity) hle)

theorem roundBits_mono (h : m ≤ n) : roundBits m ≤ roundBits n := by
  rcases eq_or_ne m 0 with rfl | hm
  · simp [roundBits_of_lt]
  have hn : n ≠ 0 := by omega
  have hlog : Nat.log2 m ≤ Nat.log2 n := by
    rw [Nat.le_log2 hn]
    exact (Nat.log2_self_le hm).trans h
  rcases hlog.lt_or_eq with hlt | heq
  · calc roundBits m ≤ 2 ^ (Nat.log2 m + 1) := roundBits_le_pow m
      _ ≤ 2 ^ Nat.log2 n := Nat.pow_le_pow_right (by decide) hlt
      _ ≤ roundBits n := pow_le_roundBits hn
  · rw [roundBits_eq, roundBits_eq, heq]
    exact Nat.mul_le_mul_right _
      (Number.roundDiv_mono (by positivity) (by positivity) (Nat.mul_le_mul_right _ h))

/-- Few bits in front of the point leave enough of them behind it. -/
theorem roundBits_near (h : n < 2 ^ (20 + e)) :
    2 ^ 34 * n ≤ 2 ^ 34 * roundBits n + 2 ^ e ∧ 2 ^ 34 * roundBits n ≤ 2 ^ 34 * n + 2 ^ e := by
  by_cases hshort : e ≤ 33
  · have hsmall : n < 2 ^ significantBits :=
      h.trans_le (Nat.pow_le_pow_right (by decide) (by unfold significantBits; omega))
    rw [roundBits_of_lt hsmall]
    exact ⟨Nat.le_add_right _ _, Nat.le_add_right _ _⟩
  · have hbits : Nat.log2 n + 1 - significantBits ≤ e - 33 := by
      rcases eq_or_ne n 0 with rfl | hn
      · simp [significantBits]
      · have := (Nat.log2_lt hn).mpr h
        unfold significantBits
        omega
    have hunit := Nat.pow_le_pow_right (show 0 < 2 by decide) hbits
    have hscale : 2 ^ e = 2 ^ 33 * 2 ^ (e - 33) := by
      rw [← pow_add]
      congr 1
      omega
    obtain ⟨hle, hge⟩ := Number.roundDiv_near
      (show 0 < 2 ^ (Nat.log2 n + 1 - significantBits) by positivity) n
    rw [← roundBits_eq] at hle hge
    rw [hscale]
    omega

end Bits

section Fractions

theorem roundBits_million : roundBits 1000000 = 1000000 := roundBits_of_lt (by decide)

/-- What is left over of whole seconds has no more than a million microseconds. -/
theorem fraction_le (num e : Nat) :
    roundDiv (roundBits (num % 2 ^ e * 1000000)) (2 ^ e) ≤ 1000000 := by
  have hrest : num % 2 ^ e < 2 ^ e := Nat.mod_lt _ (by positivity)
  apply Number.roundDiv_le_of_le (by positivity)
  calc roundBits (num % 2 ^ e * 1000000) ≤ roundBits (1000000 * 2 ^ e) :=
        roundBits_mono (by omega)
    _ = 1000000 * 2 ^ e := by rw [roundBits_mul_pow, roundBits_million]

/-- More seconds have no fewer microseconds. -/
theorem microsOfFraction_mono (h : num * 2 ^ f ≤ num' * 2 ^ e) :
    microsOfFraction num (2 ^ e) ≤ microsOfFraction num' (2 ^ f) := by
  have he : 0 < 2 ^ e := by positivity
  have hf : 0 < 2 ^ f := by positivity
  have hwhole := Number.div_le_div_of_cross he hf h
  unfold microsOfFraction
  rcases hwhole.lt_or_eq with hlt | heq
  · have := fraction_le num e
    omega
  · have hrests := Number.mod_cross_le h heq
    have hrounded : roundBits (num % 2 ^ e * 1000000) * 2 ^ f ≤
        roundBits (num' % 2 ^ f * 1000000) * 2 ^ e := by
      rw [← roundBits_mul_pow, ← roundBits_mul_pow]
      apply roundBits_mono
      linarith
    have := Number.roundDiv_mono he hf hrounded
    omega

/-- What is left over of whole seconds is rounded by half a microsecond, but for the rounding of a
product before it. -/
theorem fraction_near (num e : Nat) :
    2 ^ 34 * (roundDiv (roundBits (num % 2 ^ e * 1000000)) (2 ^ e) * 2 ^ e) ≤
        2 ^ 34 * (num % 2 ^ e * 1000000) + (2 ^ 33 + 1) * 2 ^ e ∧
      2 ^ 34 * (num % 2 ^ e * 1000000) ≤
        2 ^ 34 * (roundDiv (roundBits (num % 2 ^ e * 1000000)) (2 ^ e) * 2 ^ e) +
          (2 ^ 33 + 1) * 2 ^ e := by
  have hden : 0 < 2 ^ e := by positivity
  have hrest : num % 2 ^ e * 1000000 < 2 ^ (20 + e) := by
    have := Nat.mod_lt num hden
    rw [pow_add]
    omega
  have hproduct := roundBits_near hrest
  have hquotient := Number.roundDiv_near hden (roundBits (num % 2 ^ e * 1000000))
  omega

/-- The microseconds of a fraction of seconds are a whole number nearest to it, but for the
rounding of a product. -/
theorem microsOfFraction_near (num e : Nat) :
    |(microsOfFraction num (2 ^ e) : ℚ) - num / (2 ^ e : Nat) * 1000000| ≤ 1 / 2 + 1 / 2 ^ 34 := by
  have hden : (0 : ℚ) < (2 ^ e : Nat) := by positivity
  have hsplit : (num : ℚ) = (num / 2 ^ e : Nat) * (2 ^ e : Nat) + (num % 2 ^ e : Nat) := by
    exact_mod_cast (Nat.div_add_mod' num (2 ^ e)).symm
  have hnear := fraction_near num e
  unfold microsOfFraction
  generalize roundDiv (roundBits (num % 2 ^ e * 1000000)) (2 ^ e) = rounded at hnear ⊢
  have hdistance : ((num / 2 ^ e * 1000000 + rounded : Nat) : ℚ) - num / (2 ^ e : Nat) * 1000000 =
      (rounded * (2 ^ e : Nat) - (num % 2 ^ e : Nat) * 1000000) / (2 ^ e : Nat) := by
    rw [hsplit]
    push_cast
    field_simp
    ring
  have hbelow : (2 ^ 34 * (rounded * (2 ^ e : Nat)) : ℚ) ≤
      2 ^ 34 * ((num % 2 ^ e : Nat) * 1000000) + (2 ^ 33 + 1) * (2 ^ e : Nat) := by
    exact_mod_cast hnear.1
  have habove : (2 ^ 34 * ((num % 2 ^ e : Nat) * 1000000) : ℚ) ≤
      2 ^ 34 * (rounded * (2 ^ e : Nat)) + (2 ^ 33 + 1) * (2 ^ e : Nat) := by
    exact_mod_cast hnear.2
  rw [hdistance, abs_le, le_div_iff₀ hden, div_le_iff₀ hden]
  constructor
  · linarith
  · linarith

end Fractions

section Seconds

variable {b c : Binary} {time other : Value} {micros micros' : Int} {q q' : ℚ}

/-- The exact seconds of a time: a whole number, or what a double-precision number stands for. -/
def seconds? : Value → Option ℚ
  | .float x =>
    match Number.read x with
    | .finite b => some b.toRat
    | _ => none
  | v => v.whole?.map fun n => (n : ℚ)

theorem microsOf_eq (b : Binary) : microsOf b =
    if b.negative then -(microsOfFraction b.num b.den : Int) else microsOfFraction b.num b.den :=
  rfl

theorem toRat_eq (b : Binary) : b.toRat =
    if b.negative then -((b.num : ℚ) / b.den) else (b.num : ℚ) / b.den := by
  rw [Binary.toRat, b.num_div_den]
  split <;> simp

theorem num_div_den_nonneg (b : Binary) : (0 : ℚ) ≤ b.num / b.den :=
  div_nonneg (Nat.cast_nonneg _) (Nat.cast_nonneg _)

theorem microsOfFraction_le (h : (b.num : ℚ) / b.den ≤ c.num / c.den) :
    microsOfFraction b.num b.den ≤ microsOfFraction c.num c.den := by
  have hb : (0 : ℚ) < b.den := by exact_mod_cast b.den_pos
  have hc : (0 : ℚ) < c.den := by exact_mod_cast c.den_pos
  rw [div_le_div_iff₀ hb hc] at h
  exact microsOfFraction_mono (by exact_mod_cast h)

theorem microsOfFraction_of_nonpos (h : (b.num : ℚ) / b.den ≤ 0) :
    microsOfFraction b.num b.den = 0 := by
  have hden : (0 : ℚ) < b.den := by exact_mod_cast b.den_pos
  have hnum : b.num = 0 := by
    rw [div_le_iff₀ hden, zero_mul] at h
    exact Nat.le_zero.mp (by exact_mod_cast h)
  simp [microsOfFraction, hnum, roundBits_of_lt, Number.roundDiv]

/-- Later times have no fewer microseconds. -/
theorem microsOf_mono (h : b.toRat ≤ c.toRat) : microsOf b ≤ microsOf c := by
  have hb := num_div_den_nonneg b
  have hc := num_div_den_nonneg c
  rw [toRat_eq, toRat_eq] at h
  rw [microsOf_eq, microsOf_eq]
  split_ifs at h ⊢ with hneg hneg'
  · exact neg_le_neg (by exact_mod_cast microsOfFraction_le (neg_le_neg_iff.mp h))
  · omega
  · -- a number that is not negative is at most one that is not positive if both are zero
    have hzero : microsOfFraction b.num b.den = 0 := microsOfFraction_of_nonpos (by linarith)
    have hzero' : microsOfFraction c.num c.den = 0 := microsOfFraction_of_nonpos (by linarith)
    simp [hzero, hzero']
  · exact_mod_cast microsOfFraction_le h

/-- A whole number as a mantissa. -/
def wholeBinary (n : Int) : Binary := ⟨decide (n < 0), n.natAbs, 0⟩

theorem toRat_wholeBinary (n : Int) : (wholeBinary n).toRat = n := by
  have hmagnitude : ((n.natAbs : Int) : ℚ) = ((|n| : Int) : ℚ) := by rw [Int.natCast_natAbs]
  rw [Int.cast_natCast] at hmagnitude
  simp only [Binary.toRat, wholeBinary, decide_eq_true_eq, zpow_zero, mul_one, hmagnitude]
  split
  · next h => simp [abs_of_neg h]
  · next h => simp [abs_of_nonneg (not_lt.mp h)]

theorem microsOf_wholeBinary (n : Int) : microsOf (wholeBinary n) = n * microsPerSecond := by
  have hnum : (wholeBinary n).num = n.natAbs := Nat.mul_one _
  have hden : (wholeBinary n).den = 1 := rfl
  have hwhole (m : Nat) : microsOfFraction m 1 = m * 1000000 := by
    simp [microsOfFraction, Nat.mod_one, roundBits_of_lt, Number.roundDiv]
  rw [microsOf_eq, hnum, hden, hwhole]
  simp only [wholeBinary, decide_eq_true_eq, microsPerSecond]
  split <;> omega

/-- The microseconds of a time are those of its exact seconds. -/
theorem exists_binary (h : microsOfValue time = .ok micros) :
    ∃ b : Binary, seconds? time = some b.toRat ∧ micros = microsOf b := by
  cases time with
  | float x =>
    simp only [microsOfValue, microsOfFloat] at h
    split at h
    · cases h
    · cases h
    · next b hread =>
      split at h
      · cases h
        exact ⟨b, by simp [seconds?, hread], rfl⟩
      · cases h
  | _ =>
    simp only [microsOfValue] at h
    split at h
    · next n hn =>
      split at h
      · cases h
        exact ⟨wholeBinary n, by simp [seconds?, hn, toRat_wholeBinary],
          (microsOf_wholeBinary n).symm⟩
      · cases h
    · cases h

theorem microsOf_near (b : Binary) : |(microsOf b : ℚ) - b.toRat * 1000000| ≤ 1 / 2 +
    1 / 2 ^ 34 := by
  have hnear : |(microsOfFraction b.num b.den : ℚ) - b.num / b.den * 1000000| ≤ 1 / 2 +
    1 / 2 ^ 34 :=
    microsOfFraction_near b.num _
  rw [microsOf_eq, toRat_eq]
  split
  · rw [abs_sub_comm] at hnear
    convert hnear using 2
    push_cast
    ring
  · simpa using hnear

/-- The microseconds of a time are a whole number nearest to its exact seconds, but for the
rounding of a product. -/
theorem micros_near (h : microsOfValue time = .ok micros) :
    ∃ q, seconds? time = some q ∧ |(micros : ℚ) - q * 1000000| ≤ 1 / 2 + 1 / 2 ^ 34 := by
  obtain ⟨b, hb, rfl⟩ := exists_binary h
  exact ⟨b.toRat, hb, microsOf_near b⟩

/-- A time that is not later has no more microseconds. -/
theorem micros_mono (h : microsOfValue time = .ok micros) (h' : microsOfValue other = .ok micros')
    (hq : seconds? time = some q) (hq' : seconds? other = some q') (hle : q ≤ q') :
    micros ≤ micros' := by
  obtain ⟨b, hb, rfl⟩ := exists_binary h
  obtain ⟨c, hc, rfl⟩ := exists_binary h'
  rw [hb, Option.some.injEq] at hq
  rw [hc, Option.some.injEq] at hq'
  subst hq hq'
  exact microsOf_mono hle

end Seconds

end RequestLog.Time
