import RequestLog.Proofs.Format.Lines

/-!
Bindings of formats. A format has one binding for each pair of a name and arguments that it
mentions, in the order in which they are first mentioned, and the key of a token finds the binding
of its pair.
-/
namespace RequestLog

variable {σ : Type}

/-- What a token refers to: a name with arguments. -/
abbrev Reference.Pair := String × List String

/-- The name and the arguments of a token. -/
def Token.pair (t : Token) : Reference.Pair := (t.name, t.args)

theorem Token.Mentioned.pair_eq_iff {s t : Token} (hs : s.Mentioned) (ht : t.Mentioned) :
    s.pair = t.pair ↔ s.key = t.key := by
  constructor
  · intro h
    have hname : s.name = t.name := congrArg Prod.fst h
    have hargs : s.args = t.args := congrArg Prod.snd h
    rw [Token.key, Token.key, hname, hargs]
  · intro h
    obtain ⟨hname, hargs⟩ := hs.of_key_eq ht h
    exact Prod.ext hname hargs

/-- Whether a binding computes a token with its extractor in a registry. -/
structure Binding.Computes (registry : Registry σ) (b : Binding σ) (t : Token) : Prop where
  key : b.key = t.key
  args : b.args = t.args
  extractor : registry.table.get? t.name = some b.extractor

namespace Formatter

variable {registry : Registry σ} {tokens : List Token}

section Distinct

variable {α : Type} [BEq α] [LawfulBEq α] {g : Token → α}

theorem nodup_eraseDups (l : List α) : l.eraseDups.Nodup := by
  induction l using List.reverseRecOn with
  | nil => exact List.nodup_nil
  | append_singleton l a ih =>
    rw [List.eraseDups_append]
    by_cases h : a ∈ l
    · simpa [List.removeAll, h] using ih
    · have hne : ∀ b ∈ l, b ≠ a := fun b hb hba => h (hba ▸ hb)
      simpa [List.removeAll, h, List.eraseDups_cons, List.nodup_append, ih] using hne

theorem distinctFrom_concat (seen : List String) (tokens : List Token) (t : Token) :
    distinctFrom seen (tokens ++ [t]) = distinctFrom seen tokens ++
      if t.key ∈ seen ∨ t.key ∈ tokens.map Token.key then [] else [t] := by
  induction tokens generalizing seen with
  | nil => simp [distinctFrom]
  | cons u rest ih =>
    rw [List.cons_append, distinctFrom, distinctFrom]
    split
    · next hseen =>
      have hmem : u.key ∈ seen := List.contains_iff_mem.mp hseen
      rw [ih]
      by_cases hk : t.key = u.key
      · simp [hk, hmem]
      · simp [hk]
    · rw [ih, List.cons_append]
      simp [or_left_comm, or_assoc]

/-- What a further token adds to the distinct ones: itself if no earlier one has its key, else
nothing. -/
theorem distinct_concat (tokens : List Token) (t : Token) :
    distinct (tokens ++ [t]) = distinct tokens ++
      if t.key ∈ tokens.map Token.key then [] else [t] := by
  simp [distinct, distinctFrom_concat]

/-- What identifies tokens as their keys do comes once from the distinct ones, in the order in
which it first comes. -/
theorem map_distinct (h : ∀ t ∈ tokens, ∀ u ∈ tokens, g t = g u ↔ t.key = u.key) :
    (distinct tokens).map g = (tokens.map g).eraseDups := by
  induction tokens using List.reverseRecOn with
  | nil => rfl
  | append_singleton rest t ih =>
    have hrest := ih fun u hu v hv =>
      h u (List.mem_append_left _ hu) v (List.mem_append_left _ hv)
    have hmem : t.key ∈ rest.map Token.key ↔ g t ∈ rest.map g := by
      simp only [List.mem_map]
      constructor
      · rintro ⟨u, hu, hk⟩
        exact ⟨u, hu, (h u (List.mem_append_left _ hu) t (by simp)).mpr hk⟩
      · rintro ⟨u, hu, hg⟩
        exact ⟨u, hu, (h u (List.mem_append_left _ hu) t (by simp)).mp hg⟩
    rw [distinct_concat, List.map_append, List.map_append, List.eraseDups_append, hrest]
    by_cases hk : t.key ∈ rest.map Token.key
    · have hg := hmem.mp hk
      simp [hk, List.removeAll, hg]
    · have hg := mt hmem.mpr hk
      simp [hk, List.removeAll, hg, List.eraseDups_cons]

end Distinct

theorem keys_distinct (tokens : List Token) :
    (distinct tokens).map Token.key = (tokens.map Token.key).eraseDups :=
  map_distinct fun _ _ _ _ => Iff.rfl

/-- The distinct tokens of a format refer to each pair that it mentions once. -/
theorem pairs_distinct (hm : ∀ t ∈ tokens, t.Mentioned) :
    (distinct tokens).map Token.pair = (tokens.map Token.pair).eraseDups :=
  map_distinct fun t ht u hu => (hm t ht).pair_eq_iff (hm u hu)

/-- Where all tokens are registered, each distinct one has its binding, in the same order. -/
theorem bindingsOf_computes (hn : ∀ t ∈ tokens, registry.contains t.name = true) :
    List.Forall₂ (Binding.Computes registry) (bindingsOf registry tokens) (distinct tokens) := by
  have hdistinct : ∀ t ∈ distinct tokens, registry.contains t.name = true :=
    fun t ht => hn t (mem_of_mem_distinctFrom ht)
  unfold bindingsOf
  generalize distinct tokens = ts at hdistinct
  induction ts with
  | nil => exact .nil
  | cons t rest ih =>
    obtain ⟨ht, hrest⟩ := List.forall_mem_cons.mp hdistinct
    obtain ⟨e, he⟩ := Option.isSome_iff_exists.mp ht
    simp only [List.filterMap_cons, he, Option.map_some]
    exact .cons ⟨rfl, rfl, he⟩ (ih hrest)

/-- There is one binding for each key. -/
theorem keys_bindingsOf (hn : ∀ t ∈ tokens, registry.contains t.name = true) :
    (bindingsOf registry tokens).map Binding.key = (tokens.map Token.key).eraseDups := by
  have hkeys : List.Forall₂ (· = ·) ((bindingsOf registry tokens).map Binding.key)
      ((distinct tokens).map Token.key) := by
    rw [List.forall₂_map_left_iff, List.forall₂_map_right_iff]
    exact (bindingsOf_computes hn).imp fun _ _ h => h.key
  rw [List.forall₂_eq_eq_eq] at hkeys
  rw [hkeys, keys_distinct]

/-- A token is computed by the binding of its key, of which there is no other. -/
theorem exists_binding (hm : ∀ t ∈ tokens, t.Mentioned)
    (hn : ∀ t ∈ tokens, registry.contains t.name = true) {t : Token} (ht : t ∈ tokens) :
    ∃ b ∈ bindingsOf registry tokens, b.Computes registry t ∧
      ∀ c ∈ bindingsOf registry tokens, c.key = t.key → c = b := by
  obtain ⟨u, hu, hk⟩ := exists_mem_distinct ht
  have hut : u ∈ tokens := mem_of_mem_distinctFrom hu
  obtain ⟨e, he⟩ := Option.isSome_iff_exists.mp (hn u hut)
  obtain ⟨hname, hargs⟩ := (hm u hut).of_key_eq (hm t ht) hk
  have hb : ⟨u.key, e, u.args⟩ ∈ bindingsOf registry tokens :=
    mem_bindingsOf.mpr ⟨u, hu, e, he, rfl⟩
  have hnodup : ((bindingsOf registry tokens).map Binding.key).Nodup := by
    rw [keys_bindingsOf hn]
    exact nodup_eraseDups _
  refine ⟨_, hb, ⟨hk, hargs, hname ▸ he⟩, fun c hc hck => ?_⟩
  exact List.inj_on_of_nodup_map hnodup hc hb (hck.trans hk.symm)

end Formatter

end RequestLog
