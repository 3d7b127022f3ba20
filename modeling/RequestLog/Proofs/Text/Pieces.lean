import Mathlib.Data.List.DropRight
import RequestLog.Text.Blank

/-!
Pieces of texts. Cutting a text at a separator and joining pieces by one are those of lists, so
cutting undoes joining; what is cut or stripped has no characters but those of the text. Stripping
a text gives the one part of it that has white space around it and none at its ends, and leaves
alone what is joined of stripped pieces.
-/
namespace RequestLog.Text

variable {sep c : Char} {cs piece : List Char} {pieces : List (List Char)}

theorem splitOn_eq (sep : Char) (cs : List Char) : splitOn sep cs = cs.splitOn sep := by
  induction cs with
  | nil => simp [splitOn]
  | cons c rest ih =>
    rw [splitOn, List.splitOn_cons_eq_if_modifyHead, ih]
    obtain ⟨p, ps, hp⟩ := List.exists_cons_of_ne_nil (List.splitOn_ne_nil sep rest)
    by_cases h : c = sep
    · simp [h]
    · simp [h, hp]

theorem joinWith_eq (sep : List Char) (pieces : List (List Char)) :
    joinWith sep pieces = sep.intercalate pieces := by
  induction pieces with
  | nil => rfl
  | cons p rest ih =>
    cases rest with
    | nil => simp [joinWith]
    | cons q rest => rw [joinWith, ih, List.intercalate_cons_cons]; simp

theorem joinWith_cons_cons (sep : Char) (p q : List Char) (rest : List (List Char)) :
    joinWith [sep] (p :: q :: rest) = p ++ sep :: joinWith [sep] (q :: rest) := by
  simp [joinWith]

theorem mem_joinWith (h : c ∈ joinWith [sep] pieces) : c = sep ∨ ∃ p ∈ pieces, c ∈ p := by
  induction pieces with
  | nil => cases h
  | cons p rest ih =>
    cases rest with
    | nil => exact .inr ⟨p, List.mem_cons_self, h⟩
    | cons q rest =>
      rw [joinWith_cons_cons, List.mem_append, List.mem_cons] at h
      rcases h with h | h | h
      · exact .inr ⟨p, List.mem_cons_self, h⟩
      · exact .inl h
      · exact (ih h).imp_right fun ⟨r, hr, hc⟩ => ⟨r, List.mem_cons_of_mem _ hr, hc⟩

theorem splitOn_joinWith (h : ∀ p ∈ pieces, sep ∉ p) (hn : pieces ≠ []) :
    splitOn sep (joinWith [sep] pieces) = pieces := by
  rw [splitOn_eq, joinWith_eq, List.splitOn_intercalate sep h hn]

theorem joinWith_append_nil (sep : List Char) (pieces : List (List Char)) :
    joinWith sep (pieces ++ [[]]) = pieces.flatMap (· ++ sep) := by
  induction pieces with
  | nil => rfl
  | cons p rest ih =>
    have hmore : rest ++ [[]] = [] → False := by simp
    rw [List.cons_append, joinWith.eq_3 sep p _ hmore, ih, List.flatMap_cons]

/-- Pieces each of which ends in the separator are followed by an empty piece. -/
theorem splitOn_flatMap (h : ∀ p ∈ pieces, sep ∉ p) :
    splitOn sep (pieces.flatMap (· ++ [sep])) = pieces ++ [[]] := by
  have hlast : ∀ p ∈ pieces ++ [[]], sep ∉ p := by
    intro p hp
    rcases List.mem_append.mp hp with hp | hp
    · exact h p hp
    · rw [List.mem_singleton.mp hp]
      exact List.not_mem_nil
  rw [← joinWith_append_nil, splitOn_joinWith hlast (by simp)]

theorem splitOn_ne_nil (sep : Char) (cs : List Char) : splitOn sep cs ≠ [] := by
  rw [splitOn_eq]
  exact List.splitOn_ne_nil sep cs

/-- A piece has no characters but those of the text, and the separator is none of them. -/
theorem mem_of_mem_splitOn (hp : piece ∈ splitOn sep cs) (hc : c ∈ piece) : c ∈ cs ∧ c ≠ sep := by
  induction cs generalizing piece with
  | nil =>
    simp only [splitOn, List.mem_singleton] at hp
    subst hp
    cases hc
  | cons d rest ih =>
    obtain ⟨p, ps, hps⟩ := List.exists_cons_of_ne_nil (splitOn_ne_nil sep rest)
    rw [splitOn] at hp
    split at hp
    · rcases List.mem_cons.mp hp with rfl | hp
      · cases hc
      · exact ⟨List.mem_cons_of_mem _ (ih hp hc).1, (ih hp hc).2⟩
    · next hd =>
      simp only [hps] at hp ih
      rcases List.mem_cons.mp hp with rfl | hp
      · rcases List.mem_cons.mp hc with rfl | hc
        · exact ⟨List.mem_cons_self, hd⟩
        · have hi := ih List.mem_cons_self hc
          exact ⟨List.mem_cons_of_mem _ hi.1, hi.2⟩
      · have hi := ih (List.mem_cons_of_mem _ hp) hc
        exact ⟨List.mem_cons_of_mem _ hi.1, hi.2⟩

theorem mem_of_mem_dropEndWhile {p : Char → Bool} (h : c ∈ dropEndWhile p cs) : c ∈ cs := by
  rw [dropEndWhile, List.mem_reverse] at h
  exact List.mem_reverse.mp ((List.dropWhile_sublist p).subset h)

theorem mem_of_mem_strip (h : c ∈ strip cs) : c ∈ cs :=
  (List.dropWhile_sublist isBlank).subset (mem_of_mem_dropEndWhile h)

/-- A text and its core: white space alone stands around the core, and none at the ends of it. -/
structure HasCore (cs core : List Char) : Prop where
  around : ∃ before after, cs = before ++ core ++ after ∧ (∀ c ∈ before, isBlank c = true) ∧
    ∀ c ∈ after, isBlank c = true
  first : ∀ c ∈ core.head?, isBlank c = false
  last : ∀ c ∈ core.getLast?, isBlank c = false

theorem strip_eq (cs : List Char) : strip cs = (cs.dropWhile isBlank).rdropWhile isBlank := rfl

theorem hasCore_strip (cs : List Char) : HasCore cs (strip cs) where
  around := by
    refine ⟨cs.takeWhile isBlank, (cs.dropWhile isBlank).rtakeWhile isBlank, ?_, ?_, ?_⟩
    · rw [List.append_assoc, strip_eq, List.rdropWhile_append_rtakeWhile,
        List.takeWhile_append_dropWhile]
    · exact fun c hc => List.mem_takeWhile_imp hc
    · exact fun c hc => List.mem_rtakeWhile_imp hc
  first c hc := by
    obtain ⟨rest, hrest⟩ := List.head?_eq_some_iff.mp hc
    obtain ⟨after, hafter⟩ := List.rdropWhile_prefix isBlank (cs.dropWhile isBlank)
    have hdrop : (cs.dropWhile isBlank).head? = some c := by
      rw [← hafter, ← strip_eq, hrest]
      rfl
    have := List.head?_dropWhile_not isBlank cs
    simpa [hdrop] using this
  last c hc := by
    have hne : strip cs ≠ [] := by
      intro h
      rw [h] at hc
      cases hc
    have hlast := List.rdropWhile_last_not isBlank (cs.dropWhile isBlank) hne
    rw [List.getLast?_eq_some_getLast hne] at hc
    cases hc
    exact Bool.eq_false_iff.mpr hlast

/-- A text has one core. -/
theorem HasCore.eq_strip {cs core : List Char} (h : HasCore cs core) : core = strip cs := by
  obtain ⟨before, after, rfl, hbefore, hafter⟩ := h.around
  have hcut : (core ++ after).rdropWhile isBlank = core := by
    rw [List.rdropWhile, List.reverse_append, List.dropWhile_append_of_pos (by simpa using hafter)]
    apply (List.rdropWhile_eq_self_iff ..).mpr
    intro hne
    rw [h.last _ (List.getLast?_eq_some_getLast hne)]
    exact Bool.false_ne_true
  rw [strip_eq, List.append_assoc, List.dropWhile_append_of_pos hbefore]
  cases core with
  | nil => rw [List.nil_append, List.dropWhile_eq_nil_iff.mpr hafter, List.rdropWhile_nil]
  | cons c rest =>
    have hc : ¬ isBlank c = true := by simp [h.first c rfl]
    rw [List.cons_append, List.dropWhile_cons_of_neg hc]
    exact hcut.symm

theorem hasCore_iff {cs core : List Char} : HasCore cs core ↔ core = strip cs :=
  ⟨HasCore.eq_strip, fun h => h ▸ hasCore_strip cs⟩

section Cores

variable {more : List Char}

/-- A text without white space at its ends is its own core. -/
theorem hasCore_self (hfirst : ∀ c ∈ cs.head?, isBlank c = false)
    (hlast : ∀ c ∈ cs.getLast?, isBlank c = false) : HasCore cs cs :=
  ⟨⟨[], [], by simp⟩, hfirst, hlast⟩

theorem HasCore.core_self {core : List Char} (h : HasCore cs core) : HasCore core core :=
  hasCore_self h.first h.last

/-- Two texts without white space at their ends make another one with a character between them that
is no white space. -/
theorem HasCore.append_cons (hcs : HasCore cs cs) (hsep : isBlank sep = false)
    (hmore : HasCore more more) : HasCore (cs ++ sep :: more) (cs ++ sep :: more) := by
  refine hasCore_self ?_ ?_
  · cases cs with
    | nil => simpa using hsep
    | cons d rest => exact hcs.first
  · intro c hc
    cases hm : more.getLast? with
    | none =>
      obtain rfl : sep = c := by simpa [List.getLast?_append, List.getLast?_cons, hm] using hc
      exact hsep
    | some d =>
      obtain rfl : d = c := by simpa [List.getLast?_append, List.getLast?_cons, hm] using hc
      exact hmore.last d hm

theorem hasCore_joinWith (hsep : isBlank sep = false) (h : ∀ p ∈ pieces, HasCore p p) :
    HasCore (joinWith [sep] pieces) (joinWith [sep] pieces) := by
  induction pieces with
  | nil => exact hasCore_self (by simp [joinWith]) (by simp [joinWith])
  | cons p rest ih =>
    obtain ⟨hp, hrest⟩ := List.forall_mem_cons.mp h
    cases rest with
    | nil => exact hp
    | cons q rest =>
      rw [joinWith_cons_cons]
      exact hp.append_cons hsep (ih hrest)

end Cores

section Runs

variable (p : Char → Bool) {rest : List Char}

/-- What is taken off a text ends where the text is followed by a character that is not taken. -/
theorem takeWhile_append_of_stop (h : p c = false) :
    (cs ++ c :: rest).takeWhile p = cs.takeWhile p := by
  induction cs with
  | nil => simp [h]
  | cons d ds ih => simp only [List.cons_append, List.takeWhile_cons, ih]

theorem dropWhile_append_of_stop (h : p c = false) :
    (cs ++ c :: rest).dropWhile p = cs.dropWhile p ++ c :: rest := by
  induction cs with
  | nil => simp [h]
  | cons d ds ih =>
    simp only [List.cons_append, List.dropWhile_cons, ih]
    split <;> rfl

end Runs

/-- What stands before the first place of a character, and behind it, is told by the text. -/
theorem append_cons_inj {a b x y : List Char} (ha : c ∉ a) (hb : c ∉ b)
    (h : a ++ c :: x = b ++ c :: y) : a = b ∧ x = y := by
  have before : ∀ {a x : List Char}, c ∉ a → (a ++ c :: x).takeWhile (· != c) = a := by
    intro a x ha
    rw [List.takeWhile_append_of_pos, List.takeWhile_cons_of_neg, List.append_nil]
    · simp
    · intro d hd
      rw [bne_iff_ne]
      rintro rfl
      exact ha hd
  have hab : a = b := by rw [← before ha, h, before hb]
  subst hab
  exact ⟨rfl, (List.cons_inj_right c).mp (List.append_cancel_left h)⟩

end RequestLog.Text
