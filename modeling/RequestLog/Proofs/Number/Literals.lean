import RequestLog.Proofs.Gateway.StatusLines

/-!
Whole numbers written in a text. A text denotes a whole number exactly if it is a literal of one:
decimal digits of any scripts with single underscores between some of them, a sign in front at
most, and white space around.
-/
namespace RequestLog.Number

open RequestLog.Text (decimalDigit? isBlank)

variable {cs body after : List Char} {ds : List Nat} {n : Int}

/-- Digits, with what they count and single underscores between some of them. -/
inductive IsDigits : List Char → List Nat → Prop where
  | one {c : Char} {d : Nat} (digit : decimalDigit? c = some d) : IsDigits [c] [d]
  | next {c : Char} {d : Nat} {cs : List Char} {ds : List Nat} (digit : decimalDigit? c = some d)
      (rest : IsDigits cs ds) : IsDigits (c :: cs) (d :: ds)
  | parted {c : Char} {d : Nat} {cs : List Char} {ds : List Nat} (digit : decimalDigit? c = some d)
      (rest : IsDigits cs ds) : IsDigits (c :: '_' :: cs) (d :: ds)

/-- The signs that may stand in front of digits, as whether they make the number negative. -/
inductive IsSign : List Char → Bool → Prop where
  | none : IsSign [] false
  | plus : IsSign ['+'] false
  | minus : IsSign ['-'] true

/-- Whether a text is a literal of a whole number. -/
inductive IsLiteral : List Char → Int → Prop where
  | intro {before sign body after : List Char} {negative : Bool} {ds : List Nat}
      (margins : ∀ c ∈ before ++ after, isMargin c = true) (signed : IsSign sign negative)
      (digits : IsDigits body ds) (short : ds.length ≤ maxDigits) :
      IsLiteral (before ++ sign ++ body ++ after)
        (if negative then -Int.ofNat (ofDigits ds) else Int.ofNat (ofDigits ds))

/-- Whether a text does not go on with a digit or an underscore. -/
def Stops (cs : List Char) : Prop :=
  ∀ c ∈ cs.head?, decimalDigit? c = none ∧ c ≠ '_'

section Digits

theorem IsDigits.head (h : IsDigits body ds) :
    ∃ c d rest, body = c :: rest ∧ decimalDigit? c = some d := by
  cases h with
  | one digit => exact ⟨_, _, _, rfl, digit⟩
  | next digit rest => exact ⟨_, _, _, rfl, digit⟩
  | parted digit rest => exact ⟨_, _, _, rfl, digit⟩

theorem readDigits_of_stops (h : Stops after) :
    readDigits decimalDigit? false after = some ([], after) := by
  cases after with
  | nil => rfl
  | cons c rest =>
    obtain ⟨hdigit, hmark⟩ := h c rfl
    simp [readDigits, hdigit, hmark]

/-- Digits are read up to where they stop. -/
theorem readDigits_of_isDigits (h : IsDigits body ds) (hs : Stops after) (needed : Bool) :
    readDigits decimalDigit? needed (body ++ after) = some (ds, after) := by
  induction h generalizing needed with
  | one digit => simp [readDigits, digit, readDigits_of_stops hs]
  | next digit rest ih => simp [readDigits, digit, ih]
  | parted digit rest ih =>
    have hmark : decimalDigit? '_' = none := by decide
    simp [readDigits, digit, hmark, ih]

/-- What is read are digits, behind an underscore perhaps where a digit need not stand first; there
it may also be nothing. -/
theorem isDigits_of_readDigits {needed : Bool}
    (h : readDigits decimalDigit? needed cs = some (ds, after)) :
    (∃ body, IsDigits body ds ∧
      (cs = body ++ after ∨ needed = false ∧ cs = '_' :: body ++ after)) ∨
      needed = false ∧ ds = [] ∧ cs = after := by
  induction cs generalizing needed ds with
  | nil =>
    cases needed with
    | true => cases h
    | false =>
      cases h
      exact .inr ⟨rfl, rfl, rfl⟩
  | cons c rest ih =>
    rw [readDigits] at h
    split at h
    · next d digit =>
      obtain ⟨⟨ds', after'⟩, hrest, heq⟩ := Option.map_eq_some_iff.mp h
      cases heq
      left
      rcases ih hrest with ⟨body, hbody, rfl | ⟨-, rfl⟩⟩ | ⟨-, rfl, rfl⟩
      · exact ⟨c :: body, .next digit hbody, .inl rfl⟩
      · exact ⟨c :: '_' :: body, .parted digit hbody, .inl rfl⟩
      · exact ⟨[c], .one digit, .inl rfl⟩
    · cases needed with
      | true => cases h
      | false =>
        simp only [Bool.false_eq_true, if_false] at h
        split at h
        · next hmark =>
          subst hmark
          rcases ih h with ⟨body, hbody, rfl | ⟨habsurd, -⟩⟩ | ⟨habsurd, -⟩
          · exact .inl ⟨body, hbody, .inr ⟨rfl, rfl⟩⟩
          · cases habsurd
          · cases habsurd
        · cases h
          exact .inr ⟨rfl, rfl, rfl⟩

end Digits

section Literals

theorem stops_of_margins (h : ∀ c ∈ after, isMargin c = true) : Stops after := by
  intro c hc
  have hmargin := h c (List.mem_of_mem_head? hc)
  have hblank : isBlank c = true := by
    rw [isMargin, Bool.and_eq_true] at hmargin
    exact hmargin.1
  constructor
  · cases hdigit : decimalDigit? c with
    | none => rfl
    | some d =>
      rw [Text.not_isBlank_of_digit hdigit] at hblank
      cases hblank
  · rintro rfl
    exact absurd hblank (by decide)

/-- Behind white space, a literal begins with its sign or its first digit. -/
theorem dropWhile_margins {before rest : List Char} (hb : ∀ c ∈ before, isMargin c = true)
    (hr : ∀ c ∈ rest.head?, isMargin c = false) : (before ++ rest).dropWhile isMargin = rest := by
  induction before with
  | nil =>
    cases rest with
    | nil => rfl
    | cons c rest => simp [hr c rfl]
  | cons c before ih =>
    obtain ⟨hc, hbefore⟩ := List.forall_mem_cons.mp hb
    simp [hc, ih hbefore]

theorem not_isMargin_of_digit {c : Char} {d : Nat} (h : decimalDigit? c = some d) :
    isMargin c = false := by
  simp [isMargin, Text.not_isBlank_of_digit h]

theorem readSign_append {sign rest : List Char} {negative : Bool} (hsign : IsSign sign negative)
    (hdigits : ∃ c d more, rest = c :: more ∧ decimalDigit? c = some d) :
    readSign (sign ++ rest) = (negative, rest) := by
  obtain ⟨c, d, more, rfl, digit⟩ := hdigits
  have hplus : c ≠ '+' := Text.ne_of_digit digit (by decide)
  have hminus : c ≠ '-' := Text.ne_of_digit digit (by decide)
  cases hsign with
  | none => simp [readSign, hplus, hminus]
  | plus => rfl
  | minus => rfl

theorem isSign_of_readSign (cs : List Char) :
    ∃ sign, IsSign sign (readSign cs).1 ∧ cs = sign ++ (readSign cs).2 := by
  unfold readSign
  split
  · exact ⟨['-'], .minus, rfl⟩
  · exact ⟨['+'], .plus, rfl⟩
  · exact ⟨[], .none, rfl⟩

theorem head_append_of_isDigits {sign : List Char} {negative : Bool} (hsign : IsSign sign negative)
    (hbody : IsDigits body ds) : ∀ c ∈ (sign ++ body ++ after).head?, isMargin c = false := by
  obtain ⟨c, d, rest, rfl, digit⟩ := hbody.head
  cases hsign with
  | none => simpa using not_isMargin_of_digit digit
  | plus =>
    have hplus : isMargin '+' = false := by decide
    simp [hplus]
  | minus =>
    have hminus : isMargin '-' = false := by decide
    simp [hminus]

theorem parseInt_of_parts {before sign : List Char} {negative : Bool}
    (margins : ∀ c ∈ before ++ after, isMargin c = true) (signed : IsSign sign negative)
    (digits : IsDigits body ds) (short : ds.length ≤ maxDigits) :
    parseInt (before ++ sign ++ body ++ after) =
      .ok (if negative then -Int.ofNat (ofDigits ds) else Int.ofNat (ofDigits ds)) := by
  obtain ⟨hbefore, hafter⟩ := List.forall_mem_append.mp margins
  have hdrop : (before ++ (sign ++ body ++ after)).dropWhile isMargin = sign ++
      (body ++ after) := by
    rw [dropWhile_margins hbefore (head_append_of_isDigits signed digits), List.append_assoc]
  have hhead : ∃ c d more, body ++ after = c :: more ∧ decimalDigit? c = some d := by
    obtain ⟨c, d, rest, rfl, digit⟩ := digits.head
    exact ⟨c, d, rest ++ after, rfl, digit⟩
  have hread := readDigits_of_isDigits digits (stops_of_margins hafter) true
  have hall : after.all isMargin = true := List.all_eq_true.mpr hafter
  rw [List.append_assoc before sign body, List.append_assoc before (sign ++ body) after]
  simp only [parseInt, parseWith, hdrop, readSign_append signed hhead, hread, hall,
    Nat.not_lt.mpr short, if_true, if_false]

/-- A text is read as a whole number exactly if it is a literal of the number. -/
theorem parseInt_eq_ok_iff : parseInt cs = .ok n ↔ IsLiteral cs n := by
  constructor
  · intro h
    obtain ⟨sign, hsign, hcs⟩ := isSign_of_readSign (cs.dropWhile isMargin)
    unfold parseInt parseWith at h
    simp only at h
    split at h
    · cases h
    · next ds after hread =>
      split at h
      · cases h
      · next hshort =>
        split at h
        · next hafter =>
          cases h
          obtain ⟨body, hbody, hrest | ⟨habsurd, -⟩⟩ | ⟨habsurd, -⟩ := isDigits_of_readDigits hread
          · have hwhole : cs = cs.takeWhile isMargin ++ sign ++ body ++ after := by
              rw [List.append_assoc, ← hrest, List.append_assoc, ← hcs,
                List.takeWhile_append_dropWhile]
            have hmargins : ∀ c ∈ cs.takeWhile isMargin ++ after, isMargin c = true := by
              intro c hc
              rcases List.mem_append.mp hc with hc | hc
              · exact List.all_eq_true.mp List.all_takeWhile c hc
              · exact List.all_eq_true.mp hafter c hc
            have hliteral : IsLiteral (cs.takeWhile isMargin ++ sign ++ body ++ after) _ :=
              .intro hmargins hsign hbody (Nat.le_of_not_lt hshort)
            rwa [← hwhole] at hliteral
          · cases habsurd
          · cases habsurd
        · cases h
  · rintro ⟨margins, signed, digits, short⟩
    exact parseInt_of_parts margins signed digits short

end Literals

end RequestLog.Number
