import RequestLog.Proofs.Text.Pieces
import RequestLog.Url.Split

/-!
Parts of URLs, and what a query or a fragment behind a URL changes of them. A text that starts with
a question mark or a hash sign ends the authority and the path in front of it, and nothing of it is
read as either, so an absolute URL keeps its parts whatever query or fragment follows it.
-/
namespace RequestLog.Url

open RequestLog.Text (takeWhile_append_of_stop dropWhile_append_of_stop)

variable {cs more rest : List Char} {parts : Parts} {c : Char}

/-- Whether a text is one that a query or a fragment starts with. -/
def StartsQuery (cs : List Char) : Prop :=
  cs.head? = some '?' ∨ cs.head? = some '#'

instance : Decidable (StartsQuery cs) :=
  inferInstanceAs (Decidable (_ ∨ _))

/-- Whether a URL can be split, and has a scheme and an authority. -/
def IsAbsolute (cs : List Char) : Prop :=
  ∃ parts, split? cs = some parts ∧ parts.scheme ≠ [] ∧ parts.authority ≠ []

theorem StartsQuery.cases (h : StartsQuery cs) :
    ∃ c rest, cs = c :: rest ∧ (c = '?' ∨ c = '#') := by
  cases cs with
  | nil => rcases h with h | h <;> cases h
  | cons c rest => exact ⟨c, rest, rfl, h.imp Option.some.inj Option.some.inj⟩

theorem clean_subset (cs : List Char) : clean cs ⊆ cs := fun _ hc =>
  (List.dropWhile_sublist isLeadingJunk).subset (List.mem_filter.mp hc).1

theorem clean_append (h : StartsQuery more) : clean (cs ++ more) = clean cs ++ clean more := by
  obtain ⟨c, rest, rfl, hc⟩ := h.cases
  have hjunk : isLeadingJunk c = false := by rcases hc with rfl | rfl <;> decide
  simp [clean, dropWhile_append_of_stop isLeadingJunk hjunk, hjunk]

theorem StartsQuery.clean (h : StartsQuery more) : StartsQuery (clean more) := by
  obtain ⟨c, rest, rfl, rfl | rfl⟩ := h.cases <;> simp [Url.clean, StartsQuery, isLeadingJunk,
    isDropped]

theorem not_isDropped_of_mem_clean (h : c ∈ clean cs) : isDropped c = false := by
  simpa using (List.mem_filter.mp h).2

theorem splitScheme_subset (cs : List Char) : (splitScheme cs).2 ⊆ cs := by
  unfold splitScheme
  simp only
  split
  · next rest _ _ hrest _ =>
    split
    · intro c hc
      apply List.drop_subset (cs.takeWhile (· != ':')).length cs
      rw [hrest]
      exact List.mem_cons_of_mem _ hc
    · exact List.Subset.refl cs
  · exact List.Subset.refl cs

/-- A URL with a scheme is that scheme, a colon, and what follows. -/
theorem splitScheme_cases (h : (splitScheme cs).1 ≠ []) : ∃ first scheme rest,
    cs = first :: scheme ++ ':' :: rest ∧ ':' ∉ first :: scheme ∧
      (first.isAlpha && (first :: scheme).all isSchemeChar) = true := by
  obtain ⟨tail, hcs⟩ : cs.takeWhile (· != ':') <+: cs := List.takeWhile_prefix _
  have htail : cs.drop (cs.takeWhile (· != ':')).length = tail :=
    (congrArg (List.drop _) hcs).symm.trans List.drop_left
  unfold splitScheme at h
  dsimp only at h
  rw [htail] at h
  split at h
  · next rest first scheme htake =>
    split at h
    · next hs =>
      refine ⟨first, scheme, rest, by rw [← htake, hcs], ?_, htake ▸ hs⟩
      rw [← htake]
      exact fun hm => by simpa using List.mem_takeWhile_imp hm
    · exact absurd rfl h
  · exact absurd rfl h

/-- What follows a scheme and its colon does not matter to the scheme. -/
theorem splitScheme_of_scheme {first : Char} {scheme : List Char} (hcolon : ':' ∉ first :: scheme)
    (hs : (first.isAlpha && (first :: scheme).all isSchemeChar) = true) (rest : List Char) :
    splitScheme (first :: scheme ++ ':' :: rest) = ((first :: scheme).map Char.toLower, rest) := by
  have htake : (first :: scheme ++ ':' :: rest).takeWhile (· != ':') = first :: scheme := by
    rw [takeWhile_append_of_stop _ (by decide), List.takeWhile_eq_self_iff]
    intro c hc
    rw [bne_iff_ne]
    rintro rfl
    exact hcolon hc
  simp only [splitScheme, htake, List.drop_left, hs, if_true]

theorem splitScheme_append (h : (splitScheme cs).1 ≠ []) (more : List Char) :
    splitScheme (cs ++ more) = ((splitScheme cs).1, (splitScheme cs).2 ++ more) := by
  obtain ⟨first, scheme, rest, rfl, hcolon, hs⟩ := splitScheme_cases h
  have hshape : first :: scheme ++ ':' :: rest ++ more = first :: scheme ++ ':' ::
    (rest ++ more) :=
    List.append_assoc ..
  rw [hshape, splitScheme_of_scheme hcolon hs, splitScheme_of_scheme hcolon hs]

theorem splitAuthority_subset (cs : List Char) : (splitAuthority cs).2 ⊆ cs := by
  unfold splitAuthority
  split
  · next rest =>
    intro c hc
    have hrest : c ∈ rest := (List.dropWhile_sublist _).subset hc
    exact List.mem_cons_of_mem _ (List.mem_cons_of_mem _ hrest)
  · exact List.Subset.refl _

theorem splitAuthority_append (h : (splitAuthority cs).1 ≠ []) (hm : StartsQuery more) :
    splitAuthority (cs ++ more) = ((splitAuthority cs).1, (splitAuthority cs).2 ++ more) := by
  obtain ⟨c, rest, rfl, hc⟩ := hm.cases
  have hends : (! endsAuthority c) = false := by rcases hc with rfl | rfl <;> decide
  unfold splitAuthority at h
  split at h
  · simp only [List.cons_append, splitAuthority,
      takeWhile_append_of_stop (! endsAuthority ·) hends,
      dropWhile_append_of_stop (! endsAuthority ·) hends]
  · exact absurd rfl h

/-- What follows an authority is nothing, or starts with one of the characters that end it. -/
theorem splitAuthority_rest (h : (splitAuthority cs).1 ≠ []) :
    (splitAuthority cs).2 = [] ∨
      ∃ c rest, (splitAuthority cs).2 = c :: rest ∧ endsAuthority c = true := by
  unfold splitAuthority at h ⊢
  split at h
  · next rest =>
    cases hd : rest.dropWhile (! endsAuthority ·) with
    | nil => exact .inl rfl
    | cons c more =>
      refine .inr ⟨c, more, rfl, ?_⟩
      have hhead := List.head_dropWhile_not (fun c => ! endsAuthority c) (l := rest) (by simp [hd])
      simpa [hd] using hhead
  · exact absurd rfl h

theorem pathOf_append (h : StartsQuery more) : pathOf (cs ++ more) = pathOf cs := by
  obtain ⟨c, rest, rfl, rfl | rfl⟩ := h.cases <;> exact takeWhile_append_of_stop _ (by decide)

theorem split?_eq_some_iff : split? cs = some parts ↔
    (bracketsFit parts.authority && ! parts.authority.any isHazard) = true ∧
      parts.scheme = (splitScheme (clean cs)).1 ∧
      parts.authority = (splitAuthority (splitScheme (clean cs)).2).1 ∧
      parts.path = pathOf (splitAuthority (splitScheme (clean cs)).2).2 := by
  obtain ⟨scheme, authority, path⟩ := parts
  unfold split?
  dsimp only
  split
  · next hfit =>
    constructor
    · intro h
      cases h
      exact ⟨hfit, rfl, rfl, rfl⟩
    · rintro ⟨-, rfl, rfl, rfl⟩
      rfl
  · next hfit =>
    constructor
    · intro h
      cases h
    · rintro ⟨h, -, rfl, -⟩
      exact absurd h hfit

/-- An absolute URL has the same parts whatever query or fragment follows it. -/
theorem split?_append (h : split? cs = some parts) (hs : parts.scheme ≠ [])
    (ha : parts.authority ≠ []) (hm : StartsQuery more) : split? (cs ++ more) = some parts := by
  obtain ⟨hfit, hscheme, hauthority, hpath⟩ := split?_eq_some_iff.mp h
  rw [hscheme] at hs
  rw [hauthority] at ha
  rw [split?_eq_some_iff, clean_append hm, splitScheme_append hs,
    splitAuthority_append ha hm.clean, pathOf_append hm.clean]
  exact ⟨hfit, hscheme, hauthority, hpath⟩

/-- Behind an authority, the path is empty or starts with a slash. -/
theorem path_cases (h : split? cs = some parts) (ha : parts.authority ≠ []) :
    parts.path = [] ∨ parts.path.head? = some '/' := by
  obtain ⟨-, -, hauthority, hpath⟩ := split?_eq_some_iff.mp h
  rw [hauthority] at ha
  rw [hpath]
  rcases splitAuthority_rest ha with hr | ⟨c, rest, hr, hc⟩
  · exact .inl (by rw [hr]; rfl)
  · rw [hr]
    by_cases hslash : c = '/'
    · exact .inr (by subst hslash; rfl)
    · refine .inl ?_
      have hq : c = '?' ∨ c = '#' := by simpa [endsAuthority, hslash] using hc
      rcases hq with rfl | rfl <;> rfl

theorem path_subset_clean (h : split? cs = some parts) : parts.path ⊆ clean cs := by
  obtain ⟨-, -, -, hpath⟩ := split?_eq_some_iff.mp h
  rw [hpath]
  intro c hc
  exact splitScheme_subset _ (splitAuthority_subset _ ((List.takeWhile_sublist _).subset hc))

/-- The path of a URL has no characters but those of the URL. -/
theorem path_subset (h : split? cs = some parts) : parts.path ⊆ cs :=
  fun _ hc => clean_subset cs (path_subset_clean h hc)

/-- The characters that no path has: those that end it, and those that are dropped from URLs. -/
def notInPath : List Char := ['?', '#', '\t', '\r', '\n']

theorem notMem_path (h : split? cs = some parts) (hc : c ∈ parts.path) : c ∉ notInPath := by
  have hdropped := not_isDropped_of_mem_clean (path_subset_clean h hc)
  obtain ⟨-, -, -, hpath⟩ := split?_eq_some_iff.mp h
  rw [hpath] at hc
  have hstop : (c != '?' && c != '#') = true :=
    List.mem_takeWhile_imp (p := fun c => c != '?' && c != '#') hc
  simp_all [notInPath, isDropped]

theorem not_isAbsolute_nil : ¬ IsAbsolute [] := by
  rintro ⟨parts, h, hs, -⟩
  exact hs (split?_eq_some_iff.mp h).2.1

/-- A URL that is not absolute is shown as it is. -/
theorem shown_of_not_isAbsolute (h : ¬ IsAbsolute cs) : shown cs = cs := by
  unfold shown
  split
  · rfl
  · next parts hparts =>
    rw [if_pos]
    by_contra hcon
    exact h ⟨parts, hparts, not_or.mp hcon⟩

theorem shown_of_split? (h : split? cs = some parts) (hs : parts.scheme ≠ [])
    (ha : parts.authority ≠ []) : shown cs = if parts.path = [] then ['/'] else parts.path := by
  simp [shown, h, hs, ha]

/-- What is shown of an absolute URL starts with a slash, and has no character that ends a path or
is dropped from URLs. -/
theorem IsAbsolute.shown_path (h : IsAbsolute cs) :
    (shown cs).head? = some '/' ∧ ∀ c ∈ shown cs, c ∉ notInPath := by
  obtain ⟨parts, hparts, hs, ha⟩ := h
  rw [shown_of_split? hparts hs ha]
  split
  · refine ⟨rfl, fun c hc => ?_⟩
    rw [List.mem_singleton.mp hc]
    decide
  · next hpath =>
    exact ⟨(path_cases hparts ha).resolve_left hpath, fun c hc => notMem_path hparts hc⟩

/-- What is shown of an absolute URL is the same whatever query or fragment follows it. -/
theorem IsAbsolute.shown_append (h : IsAbsolute cs) (hm : StartsQuery more) :
    shown (cs ++ more) = shown cs := by
  obtain ⟨parts, hparts, hs, ha⟩ := h
  rw [shown_of_split? hparts hs ha, shown_of_split? (split?_append hparts hs ha hm) hs ha]

end RequestLog.Url
