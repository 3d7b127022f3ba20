import RequestLog.Text.Charset

/-!
Texts without line breaks. Quoted texts have none, numerals have none, and octets that are no
breaks are read as a text without breaks, also where they are invalid.
-/
namespace RequestLog.Text

/-- Whether a character is a carriage return or a line feed. -/
def IsBreak (c : Char) : Prop := c = '\n' ∨ c = '\r'

instance : DecidablePred IsBreak := fun c => inferInstanceAs (Decidable (c = '\n' ∨ c = '\r'))

/-- Whether no character of a text is a line break. -/
def Unbroken (cs : List Char) : Prop := ∀ c ∈ cs, ¬ IsBreak c

-- Named, for the instance that is found may ask every character there is.
instance (cs : List Char) : Decidable (Unbroken cs) :=
  List.decidableBAll _ cs

variable {c : Char} {cs ds : List Char}

theorem Unbroken.subset (h : Unbroken cs) (hsub : ds ⊆ cs) : Unbroken ds :=
  fun c hc => h c (hsub hc)

@[simp] theorem unbroken_nil : Unbroken [] :=
  fun _ hc => absurd hc List.not_mem_nil

@[simp] theorem unbroken_cons : Unbroken (c :: cs) ↔ ¬ IsBreak c ∧ Unbroken cs := by
  simp [Unbroken]

@[simp] theorem unbroken_append : Unbroken (cs ++ ds) ↔ Unbroken cs ∧ Unbroken ds := by
  exact List.forall_mem_append

theorem unbroken_flatMap {α : Type} {f : α → List Char} {items : List α} :
    Unbroken (items.flatMap f) ↔ ∀ a ∈ items, Unbroken (f a) := by
  constructor
  · intro h a ha
    exact h.subset fun c hc => List.mem_flatMap.mpr ⟨a, ha, hc⟩
  · intro h c hc
    obtain ⟨a, ha, hc⟩ := List.mem_flatMap.mp hc
    exact h a ha c hc

theorem unbroken_replicate (n : Nat) (h : ¬ IsBreak c) : Unbroken (List.replicate n c) := by
  intro d hd
  rwa [List.eq_of_mem_replicate hd]

theorem not_isBreak_of_toNat (h₁ : c.toNat ≠ 10) (h₂ : c.toNat ≠ 13) : ¬ IsBreak c := by
  rintro (rfl | rfl)
  · exact h₁ rfl
  · exact h₂ rfl

/-- A number that is no character stands for the character 0. -/
theorem toNat_ofNat (n : Nat) :
    (Char.ofNat n).toNat = if n.isValidChar then n else 0 := by
  by_cases h : n.isValidChar
  · rw [if_pos h, Char.ofNat, dif_pos h]
    rfl
  · rw [if_neg h, Char.ofNat, dif_neg h]
    rfl

theorem not_isBreak_ofNat {n : Nat} (h₁ : n ≠ 10) (h₂ : n ≠ 13) : ¬ IsBreak (Char.ofNat n) := by
  apply not_isBreak_of_toNat <;> rw [toNat_ofNat] <;> split <;> omega

section Numerals

theorem unbroken_digits (n : Nat) : Unbroken (Number.digits 10 n) := by
  intro c hc
  have hdigit : c.isDigit = true := Nat.isDigit_of_mem_toDigits (by decide) (by decide) hc
  rintro (rfl | rfl)
  · exact absurd hdigit (by decide)
  · exact absurd hdigit (by decide)

theorem unbroken_hex (width n : Nat) : Unbroken (hex width n) := by
  induction width generalizing n with
  | zero => simp [hex]
  | succ width ih =>
    have hdigit : ¬ IsBreak (hexDigit (n % 16)) := by
      unfold hexDigit
      split <;> apply not_isBreak_ofNat <;> omega
    simp [hex, ih, hdigit]

end Numerals

theorem unbroken_numericEscape (c : Char) : Unbroken (numericEscape c) := by
  have hb : ¬ IsBreak backslash := by decide
  have hx : ¬ IsBreak 'x' ∧ ¬ IsBreak 'u' ∧ ¬ IsBreak 'U' := by decide
  unfold numericEscape
  split
  · simp [hb, hx, unbroken_hex]
  · split <;> simp [hb, hx, unbroken_hex]

end RequestLog.Text

namespace RequestLog.Text.Utf8

variable {count low high bits n : Nat} {os rest : List UInt8} {first : UInt8} {c : Char}

theorem following_suffix (count low high bits : Nat) (os : List UInt8) :
    (following count low high bits os).2 <:+ os := by
  induction count generalizing low high bits os with
  | zero => exact List.suffix_refl os
  | succ count ih =>
    cases os with
    | nil => exact List.suffix_refl []
    | cons o rest =>
      rw [following]
      split
      · exact (ih ..).trans (List.suffix_cons o rest)
      · exact List.suffix_refl _

/-- The first octet that has to follow lies in its range, and its low bits come behind the
earlier. -/
theorem following_succ (h : (following (count + 1) low high bits os).1 = some n) :
    ∃ o rest, low ≤ o ∧ o ≤ high ∧
      (following count 0x80 0xBF (bits * 64 + o % 64) rest).1 = some n := by
  cases os with
  | nil => simp [following] at h
  | cons o rest =>
    rw [following] at h
    split at h
    · next ho => exact ⟨o.toNat, rest, ho.1, ho.2, h⟩
    · cases h

theorem le_of_following (h : (following count low high bits os).1 = some n) : bits ≤ n := by
  induction count generalizing low high bits os with
  | zero =>
    simp only [following, Option.some.injEq] at h
    omega
  | succ count ih =>
    obtain ⟨o, rest, -, -, h⟩ := following_succ h
    have hle := ih h
    omega

theorem le_of_following_succ (h : (following (count + 1) low high bits os).1 = some n) :
    bits * 64 ≤ n := by
  obtain ⟨o, rest, -, -, h⟩ := following_succ h
  have hle := le_of_following h
  omega

/-- A character that more than one octet denotes lies beyond ASCII: the ranges leave no long form
of a smaller number. -/
theorem number_of_lead {l : Lead} (hl : lead? first.toNat = some l)
    (h : (following l.following l.low l.high l.bits rest).1 = some n) :
    n = first.toNat ∨ 128 ≤ n := by
  unfold lead? at hl
  repeat' split at hl
  all_goals cases hl
  · -- an octet of ASCII is its own number
    simp only [following, Option.some.injEq] at h
    exact .inl h.symm
  · -- of the first octets with one to follow, the least gives the bits 2
    have hle := le_of_following_succ h
    simp only at hle
    omega
  -- the others have more to follow; where they give no bits, the range of the next octet does
  all_goals
    obtain ⟨o, rest', hlow, hhigh, h⟩ := following_succ h
    have hle := le_of_following_succ h
    simp only at hlow hhigh hle
    omega

theorem char_of_part (h : (part first rest).1 = some c) :
    ∃ n, c = Char.ofNat n ∧ (n = first.toNat ∨ 128 ≤ n) := by
  unfold part at h
  split at h
  · cases h
  · next l hl =>
    obtain ⟨n, hn, rfl⟩ := Option.map_eq_some_iff.mp h
    exact ⟨n, rfl, number_of_lead hl hn⟩

theorem part_suffix (first : UInt8) (rest : List UInt8) : (part first rest).2 <:+ rest := by
  unfold part
  split
  · exact List.suffix_refl rest
  · exact following_suffix ..

/-- Octets that are no breaks are read as a text without breaks. -/
theorem unbroken_decodeReplacing (h : ∀ o ∈ os, o.toNat ≠ 10 ∧ o.toNat ≠ 13) :
    Unbroken (decodeReplacing os) := by
  unfold decodeReplacing
  induction os using parts.induct with
  | case1 => simp [parts]
  | case2 first rest ih =>
    have hrest := ih fun o ho => h o (List.mem_cons_of_mem _ ((part_suffix first rest).subset ho))
    have hfirst := h first List.mem_cons_self
    have hc : ¬ IsBreak ((part first rest).1.getD replacement) := by
      cases hp : (part first rest).1 with
      | none => decide
      | some c =>
        obtain ⟨n, rfl, hn⟩ := char_of_part hp
        apply not_isBreak_ofNat <;> omega
    rw [parts, List.map_cons, unbroken_cons]
    exact ⟨hc, hrest⟩

end RequestLog.Text.Utf8

namespace RequestLog.Text

/-- Whether a treatment replaces every character that a character set does not have. -/
def Unencodable.Replaces (treatment : Unencodable) : Prop :=
  ∀ c, (Charset.substitute? treatment c).isSome = true

end RequestLog.Text

namespace RequestLog.Text.Charset

variable {charset : Charset} {treatment : Unencodable} {cs shown : List Char}

theorem unbroken_substitute {c : Char} (h : substitute? treatment c = some shown) :
    Unbroken shown := by
  cases treatment with
  | strict => cases h
  | halves => cases h
  | ignore => cases h; simp
  | replace => cases h; decide
  | escape => cases h; exact unbroken_numericEscape c
  | reference =>
    cases h
    have hmarks : ¬ IsBreak '&' ∧ ¬ IsBreak '#' ∧ ¬ IsBreak ';' := by decide
    simp [hmarks, unbroken_digits]

/-- What is written for characters that the set does not have brings no break with it. -/
theorem unbroken_replaceMissing (h : replaceMissing? charset treatment cs = some shown)
    (hcs : Unbroken cs) : Unbroken shown := by
  induction cs generalizing shown with
  | nil => cases h; exact hcs
  | cons c rest ih =>
    obtain ⟨hc, hrest⟩ := unbroken_cons.mp hcs
    rw [replaceMissing?] at h
    split at h
    · obtain ⟨more, hmore, rfl⟩ := Option.map_eq_some_iff.mp h
      exact unbroken_cons.mpr ⟨hc, ih hmore hrest⟩
    · split at h
      · cases h
      · next hsub =>
        obtain ⟨more, hmore, rfl⟩ := Option.map_eq_some_iff.mp h
        exact unbroken_append.mpr ⟨unbroken_substitute hsub, ih hmore hrest⟩

theorem exists_replaceMissing (charset : Charset) (h : treatment.Replaces) (cs : List Char) :
    ∃ shown, replaceMissing? charset treatment cs = some shown := by
  induction cs with
  | nil => exact ⟨[], rfl⟩
  | cons c rest ih =>
    obtain ⟨more, hmore⟩ := ih
    obtain ⟨substitute, hsub⟩ := Option.isSome_iff_exists.mp (h c)
    rw [replaceMissing?, hmore, hsub]
    split
    · exact ⟨_, rfl⟩
    · exact ⟨_, rfl⟩

theorem has_lineFeed (charset : Charset) : charset.has '\n' = true := by
  cases charset <;> rfl

/-- A line feed at the end of a text is written in every character set. -/
theorem replaceMissing?_lineFeed (charset : Charset) (treatment : Unencodable) (cs : List Char) :
    replaceMissing? charset treatment (cs ++ ['\n']) =
      (replaceMissing? charset treatment cs).map (· ++ ['\n']) := by
  induction cs with
  | nil => simp [replaceMissing?, has_lineFeed]
  | cons c rest ih =>
    simp only [List.cons_append, replaceMissing?, ih]
    split
    · cases replaceMissing? charset treatment rest <;> rfl
    · split
      · rfl
      · cases replaceMissing? charset treatment rest <;> simp

end RequestLog.Text.Charset
