import Mathlib.Data.Bool.AllAny
import RequestLog.Proofs.Text.Percent
import RequestLog.Proofs.Url.Parts

/-!
URLs that are put together of a scheme, a plain authority and a path that starts with a slash. They
are taken apart into just these, so what is shown of them is the path.
-/
namespace RequestLog.Url

open RequestLog.Text (takeWhile_append_of_stop dropWhile_append_of_stop)

variable {cs scheme authority path : List Char} {c : Char}

/-- Whether a character may stand in a host or in the number behind it: a letter, a digit, a dot, a
hyphen or a colon. -/
def isHostChar (c : Char) : Bool :=
  c.isAlphanum || c == '.' || c == '-' || c == ':'

theorem isHostChar_cases (h : isHostChar c = true) :
    c.isAlphanum = true ∨ c ∈ ['.', '-', ':'] := by
  simpa [isHostChar, or_assoc] using h

theorem ne_of_isHostChar {d : Char} (hd : isHostChar d = false) (h : isHostChar c = true) :
    c ≠ d := by
  rintro rfl
  rw [h] at hd
  cases hd

theorem toNat_lt_of_isHostChar (h : isHostChar c = true) : c.toNat < 128 := by
  rcases isHostChar_cases h with h | h
  · exact Text.Percent.toNat_lt_of_isAlphanum h
  · have hall : ∀ c ∈ ['.', '-', ':'], c.toNat < 128 := List.all_iff_forall_prop.mp (by decide)
    exact hall c h

theorem not_isHazard_of_isHostChar (h : isHostChar c = true) : isHazard c = false := by
  have hlow := toNat_lt_of_isHostChar h
  have hall : ∀ n ∈ hazards, 128 ≤ n := by decide
  rw [isHazard, Bool.eq_false_iff, Ne, List.contains_iff_mem]
  exact fun hm => absurd (hall _ hm) (by omega)

theorem not_isLeadingJunk_of_isAlpha (h : c.isAlpha = true) : isLeadingJunk c = false := by
  have hall : ∀ n < 33, (Char.ofNat n).isAlpha = false := by decide
  rw [isLeadingJunk, Bool.eq_false_iff, Ne, Nat.ble_eq]
  intro hlow
  have hc := hall c.toNat (Nat.lt_succ_of_le hlow)
  rw [Char.ofNat_toNat, h] at hc
  cases hc

/-- A character of a kind that none of the dropped ones is of stays. -/
theorem not_isDropped_of {p : Char → Bool} (hp : p '\t' = false ∧ p '\r' = false ∧ p '\n' = false)
    (h : p c = true) : isDropped c = false := by
  obtain ⟨htab, hreturn, hfeed⟩ := hp
  simp only [isDropped, Bool.or_eq_false_iff, beq_eq_false_iff_ne]
  refine ⟨⟨?_, ?_⟩, ?_⟩ <;> rintro rfl
  · exact Bool.false_ne_true (htab.symm.trans h)
  · exact Bool.false_ne_true (hreturn.symm.trans h)
  · exact Bool.false_ne_true (hfeed.symm.trans h)

theorem clean_eq_self (hfirst : ∀ c ∈ cs.head?, isLeadingJunk c = false)
    (h : ∀ c ∈ cs, isDropped c = false) : clean cs = cs := by
  have hdrop : cs.dropWhile isLeadingJunk = cs := by
    cases cs with
    | nil => rfl
    | cons c rest => rw [List.dropWhile_cons_of_neg (by simp [hfirst c rfl])]
  rw [clean, hdrop, List.filter_eq_self]
  exact fun c hc => by rw [h c hc]; rfl

/-- Hosts, with or without a number behind them. -/
structure IsHost (cs : List Char) : Prop where
  nonempty : cs ≠ []
  chars : ∀ c ∈ cs, isHostChar c = true

/-- Texts that start with a slash and have no character that ends a path or is dropped. -/
structure IsPath (cs : List Char) : Prop where
  rooted : cs.head? = some '/'
  clear : ∀ c ∈ cs, c ∉ notInPath

/-- A host with a number behind it is a host. -/
theorem IsHost.append_digits (h : IsHost cs) {digits : List Char}
    (hd : ∀ c ∈ digits, c.isDigit = true) :
    IsHost (cs ++ ':' :: digits) where
  nonempty := List.append_ne_nil_of_left_ne_nil h.nonempty _
  chars c hc := by
    rw [List.mem_append, List.mem_cons] at hc
    rcases hc with hc | rfl | hc
    · exact h.chars c hc
    · decide
    · simp [isHostChar, Char.isAlphanum, hd c hc]

theorem IsHost.fits (h : IsHost authority) :
    (bracketsFit authority && ! authority.any isHazard) = true := by
  have hopen : authority.contains '[' = false := by
    rw [Bool.eq_false_iff, Ne, List.contains_iff_mem]
    exact fun hm => ne_of_isHostChar (by decide) (h.chars _ hm) rfl
  have hclose : authority.contains ']' = false := by
    rw [Bool.eq_false_iff, Ne, List.contains_iff_mem]
    exact fun hm => ne_of_isHostChar (by decide) (h.chars _ hm) rfl
  have hazards : authority.any isHazard = false :=
    List.any_eq_false.mpr fun c hc => by rw [not_isHazard_of_isHostChar (h.chars c hc)]; decide
  rw [bracketsFit, hopen, hclose, hazards]
  rfl

theorem IsHost.not_endsAuthority (h : IsHost authority) (hc : c ∈ authority) :
    (! endsAuthority c) = true := by
  have hhost := h.chars c hc
  simp [endsAuthority, ne_of_isHostChar (d := '/') (by decide) hhost,
    ne_of_isHostChar (d := '?') (by decide) hhost, ne_of_isHostChar (d := '#') (by decide) hhost]

theorem IsPath.not_isDropped (h : IsPath path) (hc : c ∈ path) : isDropped c = false := by
  have hclear := h.clear c hc
  simp_all [notInPath, isDropped]

theorem IsPath.pathOf_eq (h : IsPath path) : pathOf path = path := by
  rw [pathOf, List.takeWhile_eq_self_iff]
  intro c hc
  have hclear := h.clear c hc
  simp_all [notInPath]

theorem splitAuthority_of_isHost (h : IsHost authority) (hp : IsPath path) :
    splitAuthority ('/' :: '/' :: (authority ++ path)) = (authority, path) := by
  obtain ⟨rest, rfl⟩ := List.head?_eq_some_iff.mp hp.rooted
  have htake : authority.takeWhile (! endsAuthority ·) = authority :=
    List.takeWhile_eq_self_iff.mpr fun c hc => h.not_endsAuthority hc
  have hdrop : authority.dropWhile (! endsAuthority ·) = [] :=
    List.dropWhile_eq_nil_iff.mpr fun c hc => h.not_endsAuthority hc
  rw [splitAuthority, takeWhile_append_of_stop _ (by decide),
    dropWhile_append_of_stop _ (by decide), htake, hdrop, List.nil_append]

/-- A scheme, an authority behind two slashes, and a path. -/
def assembled (scheme authority path : List Char) : List Char :=
  scheme ++ ':' :: '/' :: '/' :: (authority ++ path)

section Assembled

variable {first : Char} (hs : (first.isAlpha && (first :: scheme).all isSchemeChar) = true)
  (h : IsHost authority) (hp : IsPath path)

include hs h hp

theorem clean_assembled :
    clean (assembled (first :: scheme) authority path) = assembled (first :: scheme) authority
    path := by
  rw [Bool.and_eq_true, List.all_eq_true] at hs
  refine clean_eq_self (fun c hc => ?_) fun c hc => ?_
  · obtain rfl : first = c := by simpa [assembled] using hc
    exact not_isLeadingJunk_of_isAlpha hs.1
  · have hmarks : ∀ c ∈ [':', '/', '/'], isDropped c = false :=
      List.all_iff_forall_prop.mp (by decide)
    have hshape : assembled (first :: scheme) authority path =
        (first :: scheme) ++ ([':', '/', '/'] ++ (authority ++ path)) := rfl
    rw [hshape, List.mem_append, List.mem_append, List.mem_append] at hc
    rcases hc with hc | hc | hc | hc
    · exact not_isDropped_of (by decide) (hs.2 c hc)
    · exact hmarks c hc
    · exact not_isDropped_of (by decide) (h.chars c hc)
    · exact hp.not_isDropped hc

/-- A URL that is put together so is taken apart again. -/
theorem split?_assembled (hcolon : ':' ∉ first :: scheme) :
    split? (assembled (first :: scheme) authority path) =
      some ⟨(first :: scheme).map Char.toLower, authority, path⟩ := by
  rw [split?_eq_some_iff, clean_assembled hs h hp, assembled, splitScheme_of_scheme hcolon hs,
    splitAuthority_of_isHost h hp, hp.pathOf_eq]
  exact ⟨h.fits, rfl, rfl, rfl⟩

theorem isAbsolute_assembled (hcolon : ':' ∉ first :: scheme) :
    IsAbsolute (assembled (first :: scheme) authority path) :=
  ⟨_, split?_assembled hs h hp hcolon, List.cons_ne_nil _ _, h.nonempty⟩

theorem shown_assembled (hcolon : ':' ∉ first :: scheme) :
    shown (assembled (first :: scheme) authority path) = path := by
  rw [shown_of_split? (split?_assembled hs h hp hcolon) (List.cons_ne_nil _ _) h.nonempty, if_neg]
  rintro rfl
  cases hp.rooted

end Assembled

end RequestLog.Url
