import RequestLog.Proofs.Text.Decoding

/-!
Reading octets with replacement characters. No character and no invalid part runs over an ASCII
octet, so what is read is what is read on both sides of it, with its character in between; and an
ASCII character comes from its own octet alone.
-/
namespace RequestLog.Text.Utf8

variable {n low high : Nat} {l : Lead} {c : Char} {o : UInt8} {os : List UInt8}

/-- The octets that may follow a first one are no ASCII octets. -/
theorem ascii_lt_of_lead? (h : lead? n = some l) : 0x80 ≤ l.low := by
  unfold lead? at h
  repeat' split at h
  all_goals cases h
  all_goals simp

theorem following_append (ho : o.toNat < 0x80) (hlow : 0x80 ≤ low) (count bits : Nat)
    (os rest : List UInt8) :
    following count low high bits (os ++ o :: rest) =
      ((following count low high bits os).1, (following count low high bits os).2 ++ o ::
        rest) := by
  induction count generalizing low high bits os with
  | zero => simp [following]
  | succ count ih =>
    cases os with
    | nil =>
      have hout : ¬ (low ≤ o.toNat ∧ o.toNat ≤ high) := by omega
      simp [following, hout]
    | cons first os =>
      rw [List.cons_append, following, following]
      split
      · exact ih (Nat.le_refl _) _ os
      · rfl

theorem part_append (ho : o.toNat < 0x80) (first : UInt8) (os rest : List UInt8) :
    part first (os ++ o :: rest) = ((part first os).1, (part first os).2 ++ o :: rest) := by
  unfold part
  split
  · rfl
  · next l hl => simp only [following_append ho (ascii_lt_of_lead? hl)]

/-- The parts of octets are those before an ASCII octet, its character, and those behind it. -/
theorem parts_append (ho : o.toNat < 0x80) (os rest : List UInt8) :
    parts (os ++ o :: rest) = parts os ++ some (Char.ofNat o.toNat) :: parts rest := by
  induction os using parts.induct with
  | case1 =>
    have hpart : part o rest = (some (Char.ofNat o.toNat), rest) := by
      rw [part, lead?_of_ascii ho]
      rfl
    rw [List.nil_append, parts, parts, hpart]
    rfl
  | case2 first os ih =>
    rw [List.cons_append, parts, parts, part_append ho, ih]
    rfl

theorem decodeReplacing_append (ho : o.toNat < 0x80) (os rest : List UInt8) :
    decodeReplacing (os ++ o :: rest) =
      decodeReplacing os ++ Char.ofNat o.toNat :: decodeReplacing rest := by
  simp [decodeReplacing, parts_append ho]

theorem mem_of_mem_parts (hc : c.toNat < 0x80) (h : some c ∈ parts os) : octet c.toNat ∈ os := by
  induction os using parts.induct with
  | case1 =>
    rw [parts] at h
    cases h
  | case2 first os ih =>
    rw [parts] at h
    rcases List.mem_cons.mp h with hfirst | hrest
    · have hwhole := eq_encodeChar_of_part (Prod.ext hfirst.symm rfl)
      rw [encodeChar, if_pos hc] at hwhole
      rw [hwhole]
      exact List.mem_cons_self
    · exact List.mem_cons_of_mem _ ((part_suffix first os).subset (ih hrest))

/-- An ASCII character is read from its own octet alone. -/
theorem mem_of_mem_decodeReplacing (hc : c.toNat < 0x80) (h : c ∈ decodeReplacing os) :
    octet c.toNat ∈ os := by
  obtain ⟨found, hfound, rfl⟩ := List.mem_map.mp h
  cases found with
  | none => exact absurd hc (by decide)
  | some c => exact mem_of_mem_parts hc hfound

theorem decodeReplacing_eq_nil_iff : decodeReplacing os = [] ↔ os = [] := by
  cases os with
  | nil => simp [decodeReplacing, parts]
  | cons first os => simp [decodeReplacing, parts]

end RequestLog.Text.Utf8
