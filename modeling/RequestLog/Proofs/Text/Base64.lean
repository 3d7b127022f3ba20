import RequestLog.Proofs.Text.Decoding
import RequestLog.Text.Base64
import RequestLog.Text.Blank

/-!
Base64 in both directions: what is written for octets is read as these octets, whatever their
number is, and there is no white space in it.
-/
namespace RequestLog.Text.Base64

section Letters

variable {n : Nat}

/-- A letter of the alphabet is read as its number; it is neither padding nor white space. -/
theorem letter_reads (h : n < 64) :
    sextet? (letter n) = some n ∧ letter n ≠ '=' ∧ isBlank (letter n) = false := by
  have hall : ∀ n < 64,
      sextet? (letter n) = some n ∧ letter n ≠ '=' ∧ isBlank (letter n) = false := by decide
  exact hall n h

end Letters

section Groups

variable {i j k l : Nat}

/-- A full group gives three octets. -/
theorem groups?_full (hi : i < 64) (hj : j < 64) (hk : k < 64) (hl : l < 64) (rest : List Char) :
    groups? (letter i :: letter j :: letter k :: letter l :: rest) =
      (groups? rest).map fun os => firstOctet i j :: secondOctet j k :: thirdOctet k l :: os := by
  obtain ⟨hi, hipad, -⟩ := letter_reads hi
  obtain ⟨hj, -, -⟩ := letter_reads hj
  obtain ⟨hk, hkpad, -⟩ := letter_reads hk
  obtain ⟨hl, hlpad, -⟩ := letter_reads hl
  rw [groups?]
  simp only [hi, hj, hk, hl, hipad, hkpad, hlpad, if_false]
  cases groups? rest <;> rfl

theorem groups?_two (hi : i < 64) (hj : j < 64) (hk : k < 64) :
    groups? [letter i, letter j, letter k, '='] = some [firstOctet i j, secondOctet j k] := by
  obtain ⟨hi, hipad, -⟩ := letter_reads hi
  obtain ⟨hj, -, -⟩ := letter_reads hj
  obtain ⟨hk, hkpad, -⟩ := letter_reads hk
  rw [groups?]
  simp only [hi, hj, hk, hipad, hkpad, if_false, if_true]
  rfl

theorem groups?_one (hi : i < 64) (hj : j < 64) :
    groups? [letter i, letter j, '=', '='] = some [firstOctet i j] := by
  obtain ⟨hi, hipad, -⟩ := letter_reads hi
  obtain ⟨hj, -, -⟩ := letter_reads hj
  rw [groups?]
  simp only [hi, hj, hipad, if_false, if_true, true_and]
  rfl

end Groups

section Octets

/-! An octet is put together from the numbers that it was cut into, whatever its neighbours
were. -/

theorem firstOctet_cut (a : UInt8) (low : Nat) (h : low < 16) :
    firstOctet (a.toNat / 4) (a.toNat % 4 * 16 + low) = a := by
  have hsum : a.toNat / 4 * 4 + (a.toNat % 4 * 16 + low) / 16 = a.toNat := by omega
  rw [firstOctet, hsum, Utf8.octet_toNat]

theorem secondOctet_cut (b : UInt8) (high low : Nat) (h : low < 4) :
    secondOctet (high * 16 + b.toNat / 16) (b.toNat % 16 * 4 + low) = b := by
  have hb := b.toNat_lt
  have hsum : (high * 16 + b.toNat / 16) % 16 * 16 + (b.toNat % 16 * 4 + low) / 4 =
    b.toNat := by omega
  rw [secondOctet, hsum, Utf8.octet_toNat]

theorem thirdOctet_cut (c : UInt8) (high : Nat) :
    thirdOctet (high * 4 + c.toNat / 64) (c.toNat % 64) = c := by
  have hc := c.toNat_lt
  have hsum : (high * 4 + c.toNat / 64) % 4 * 64 + c.toNat % 64 = c.toNat := by omega
  rw [thirdOctet, hsum, Utf8.octet_toNat]

end Octets

theorem groups?_encode (os : List UInt8) : groups? (encode os) = some os := by
  induction os using encode.induct with
  | case1 => rfl
  | case2 a =>
    have ha := a.toNat_lt
    rw [encode, groups?_one (by omega) (by omega)]
    exact congrArg (fun o => some [o]) (firstOctet_cut a 0 (by omega))
  | case3 a b =>
    have ha := a.toNat_lt
    have hb := b.toNat_lt
    rw [encode, groups?_two (by omega) (by omega) (by omega), firstOctet_cut a _ (by omega)]
    exact congrArg (fun o => some [a, o]) (secondOctet_cut b _ 0 (by omega))
  | case4 a b c rest ih =>
    have ha := a.toNat_lt
    have hb := b.toNat_lt
    have hc := c.toNat_lt
    rw [encode, groups?_full (by omega) (by omega) (by omega) (by omega), ih,
      firstOctet_cut a _ (by omega), secondOctet_cut b _ _ (by omega), thirdOctet_cut c]
    rfl

/-- There is no padding in front of what is written. -/
theorem head?_encode_ne (os : List UInt8) : (encode os).head? ≠ some '=' := by
  have hletter : ∀ {n}, n < 64 → some (letter n) ≠ some '=' :=
    fun h heq => (letter_reads h).2.1 (Option.some.inj heq)
  induction os using encode.induct with
  | case1 => simp [encode]
  | case2 a => exact hletter (Nat.div_lt_of_lt_mul a.toNat_lt)
  | case3 a b => exact hletter (Nat.div_lt_of_lt_mul a.toNat_lt)
  | case4 a b c rest ih => exact hletter (Nat.div_lt_of_lt_mul a.toNat_lt)

/-- What is written for octets is read as these octets. -/
theorem decode?_encode (os : List UInt8) : decode? (encode os) = some os := by
  rw [decode?, if_neg (head?_encode_ne os), groups?_encode]

example : encode [0x61, 0x3A, 0xC3, 0xBC] = "YTrDvA==".toList := by decide

theorem not_isBlank_of_mem_encode (os : List UInt8) : ∀ c ∈ encode os, isBlank c = false := by
  have hletter : ∀ {n}, n < 64 → isBlank (letter n) = false := fun h => (letter_reads h).2.2
  have hpad : isBlank '=' = false := by decide
  induction os using encode.induct with
  | case1 => simp [encode]
  | case2 a =>
    have ha := a.toNat_lt
    simp only [encode, List.forall_mem_cons]
    exact ⟨hletter (by omega), hletter (by omega), hpad, hpad, by simp⟩
  | case3 a b =>
    have ha := a.toNat_lt
    have hb := b.toNat_lt
    simp only [encode, List.forall_mem_cons]
    exact ⟨hletter (by omega), hletter (by omega), hletter (by omega), hpad, by simp⟩
  | case4 a b c rest ih =>
    have ha := a.toNat_lt
    have hb := b.toNat_lt
    have hc := c.toNat_lt
    simp only [encode, List.forall_mem_cons]
    exact ⟨hletter (by omega), hletter (by omega), hletter (by omega), hletter (by omega), ih⟩

end RequestLog.Text.Base64
