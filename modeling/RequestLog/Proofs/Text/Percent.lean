import Mathlib.Data.List.Basic
import RequestLog.Text.Percent

/-!
What percent-encoding keeps. A text of characters up to U+00FF is read back from its encoded form,
which is ASCII and has a percent sign only in front of two hexadecimal digits.
-/
namespace RequestLog.Text.Percent

/-- Encoded forms: characters that stand for themselves, and percent signs with two upper-case
hexadecimal digits. -/
inductive Encoded (safe : List Char) : List Char → Prop
  | nil : Encoded safe []
  | plain {c cs} (hc : (isUnreserved c || safe.contains c) = true) (hcs : Encoded safe cs) :
      Encoded safe (c :: cs)
  | escaped {x y cs} (hx : x < 16) (hy : y < 16) (hcs : Encoded safe cs) :
      Encoded safe ('%' :: hexDigit x :: hexDigit y :: cs)

variable {safe more cs ds : List Char} {c : Char}

theorem Encoded.append (h : Encoded safe cs) (hd : Encoded safe ds) : Encoded safe (cs ++ ds) := by
  induction h with
  | nil => exact hd
  | plain hc _ ih => exact .plain hc ih
  | escaped hx hy _ ih => exact .escaped hx hy ih

theorem Encoded.mono (hs : safe ⊆ more) (h : Encoded safe cs) : Encoded more cs := by
  induction h with
  | nil => exact .nil
  | plain hc _ ih =>
    refine .plain ?_ ih
    rw [Bool.or_eq_true, List.contains_iff_mem] at hc ⊢
    exact hc.imp_right fun hm => hs hm
  | escaped hx hy _ ih => exact .escaped hx hy ih

theorem hexValue?_hexDigit {n : Nat} (h : n < 16) : hexValue? (hexDigit n) = some n := by
  have hall : ∀ i : Fin 16, hexValue? (hexDigit i) = some i.val := by decide
  exact hall ⟨n, h⟩

theorem isAlphanum_hexDigit {n : Nat} (h : n < 16) : (hexDigit n).isAlphanum = true := by
  have hall : ∀ i : Fin 16, (hexDigit i).isAlphanum = true := by decide
  exact hall ⟨n, h⟩

/-- What holds of the characters that stand for themselves, of the percent sign and of letters and
digits holds of all characters of an encoded form. -/
theorem Encoded.forall_mem {p : Char → Prop}
    (hplain : ∀ c, (isUnreserved c || safe.contains c) = true → p c)
    (hsign : p '%') (h : Encoded safe cs) : ∀ c ∈ cs, p c := by
  have hdigit {n : Nat} (hn : n < 16) : p (hexDigit n) :=
    hplain _ (by rw [isUnreserved, isAlphanum_hexDigit hn]; rfl)
  induction h with
  | nil => exact fun c hc => nomatch hc
  | plain hc _ ih => exact List.forall_mem_cons.mpr ⟨hplain _ hc, ih⟩
  | escaped hx hy _ ih =>
    simp only [List.forall_mem_cons]
    exact ⟨hsign, hdigit hx, hdigit hy, ih⟩

theorem toNat_lt_of_isAlphanum (h : c.isAlphanum = true) : c.toNat < 128 := by
  have below {high : UInt32} (h : c.val ≤ high) (hhigh : high.toNat < 128) : c.toNat < 128 :=
    Nat.lt_of_le_of_lt (UInt32.le_iff_toNat_le.mp h) hhigh
  rcases Bool.or_eq_true_iff.mp h with hletter | hdigit
  · rcases Bool.or_eq_true_iff.mp hletter with hupper | hlower
    · exact below (of_decide_eq_true hupper).2 (by decide)
    · exact below (of_decide_eq_true (Bool.and_eq_true_iff.mp hlower).2) (by decide)
  · exact below (of_decide_eq_true (Bool.and_eq_true_iff.mp hdigit).2) (by decide)

/-- An encoded form is ASCII if the characters are that it leaves. -/
theorem Encoded.ascii (hs : ∀ c ∈ safe, c.toNat < 128) (h : Encoded safe cs) :
    ∀ c ∈ cs, c.toNat < 128 := by
  refine h.forall_mem (fun c hc => ?_) (by decide)
  simp only [isUnreserved, Bool.or_eq_true, beq_iff_eq, List.contains_iff_mem] at hc
  rcases hc with ((((hc | rfl) | rfl) | rfl) | rfl) | hc
  · exact toNat_lt_of_isAlphanum hc
  · decide
  · decide
  · decide
  · decide
  · exact hs c hc

theorem encode_cons (safe : List Char) (c : Char) (cs : List Char) :
    encode safe (c :: cs) = encodeChar safe c ++ encode safe cs := rfl

theorem encode_of_safe (h : c ∈ safe) (cs : List Char) : encode safe (c :: cs) = c :: encode safe
    cs := by
  rw [encode_cons, encodeChar, if_pos]
  · rfl
  · rw [List.contains_iff_mem.mpr h, Bool.or_true]

theorem head?_encode (h : c ∈ safe) (hc : cs.head? = some c) :
    (encode safe cs).head? = some c := by
  obtain ⟨rest, rfl⟩ := List.head?_eq_some_iff.mp hc
  rw [encode_of_safe h, List.head?_cons]

theorem encoded_encode (h : ∀ c ∈ cs, c.toNat < 256) : Encoded safe (encode safe cs) := by
  induction cs with
  | nil => exact .nil
  | cons c cs ih =>
    obtain ⟨hc, hcs⟩ := List.forall_mem_cons.mp h
    refine .append ?_ (ih hcs)
    unfold encodeChar
    split
    · next hplain => exact .plain hplain .nil
    · exact .escaped (by omega) (by omega) .nil

theorem decode_cons_of_ne (h : c ≠ '%') (rest : List Char) :
    decode (c :: rest) = c :: decode rest := by
  rw [decode]
  rintro a b more rfl
  exact absurd rfl h

/-- The encoded form of a character is read as this character, whatever follows it. -/
theorem decode_encodeChar (hs : '%' ∉ safe) (hc : c.toNat < 256) (rest : List Char) :
    decode (encodeChar safe c ++ rest) = c :: decode rest := by
  unfold encodeChar
  split
  · next hplain =>
    refine decode_cons_of_ne ?_ rest
    rintro rfl
    rw [Bool.or_eq_true, List.contains_iff_mem] at hplain
    exact hplain.elim (by decide) hs
  · have hnumber : 16 * (c.toNat / 16) + c.toNat % 16 = c.toNat := Nat.div_add_mod ..
    rw [List.cons_append, List.cons_append, List.cons_append, List.nil_append, decode,
      hexValue?_hexDigit (by omega), hexValue?_hexDigit (by omega)]
    dsimp only
    rw [hnumber, Char.ofNat_toNat]

theorem decode_encode_append (hs : '%' ∉ safe) (h : ∀ c ∈ cs, c.toNat < 256) (rest : List Char) :
    decode (encode safe cs ++ rest) = cs ++ decode rest := by
  induction cs with
  | nil => rfl
  | cons c cs ih =>
    obtain ⟨hc, hcs⟩ := List.forall_mem_cons.mp h
    rw [encode_cons, List.append_assoc, decode_encodeChar hs hc, ih hcs, List.cons_append]

theorem decode_encode (hs : '%' ∉ safe) (h : ∀ c ∈ cs, c.toNat < 256) :
    decode (encode safe cs) = cs := by
  have happend := decode_encode_append hs h []
  rwa [List.append_nil, decode, List.append_nil] at happend

end RequestLog.Text.Percent
