import RequestLog.Proofs.Format.Bindings
import RequestLog.Proofs.Format.Settings

/-!
Resolving a snapshot. The values of a formatter's tokens are kept under their keys while a line is
made; each of them comes of the one binding that has its key, when the bindings before it have been
computed.
-/
namespace RequestLog.Formatter

variable {σ : Type} {host : Host σ} {registry : Registry σ} {settings : FormatterSettings}
  {snapshot : Snapshot σ} {f : Formatter σ} {t : Token}

/-- A binding in the midst of others is computed when those before it have been. -/
theorem resolveAll_cons_cases {before after : List (Binding σ)} {b : Binding σ} {s s' : σ}
    {values : List (String × Value)}
    (h : resolveAll host snapshot (before ++ b :: after) s = (.ok values, s')) :
    ∃ earlier s₁ later, resolveAll host snapshot before s = (.ok earlier, s₁) ∧
      values = earlier ++
        (b.key, counted (b.extractor.call snapshot (b.args.map .text) s₁).1) :: later := by
  induction before generalizing s values with
  | nil =>
    obtain ⟨v, u, hv, h⟩ := Action.andThen_ok_cases h
    obtain ⟨later, u', -, h⟩ := Action.andThen_ok_cases h
    cases h
    exact ⟨[], s, later, rfl, by rw [value_of_resolveOne hv]; rfl⟩
  | cons c before ih =>
    obtain ⟨v, u, hv, h⟩ := Action.andThen_ok_cases h
    obtain ⟨more, u', hmore, h⟩ := Action.andThen_ok_cases h
    cases h
    obtain ⟨earlier, s₁, later, hbefore, rfl⟩ := ih hmore
    refine ⟨(c.key, v) :: earlier, s₁, later, ?_, rfl⟩
    rw [resolveAll, Action.andThen_of_ok hv, Action.andThen_of_ok hbefore]
    rfl

theorem ComeFrom.keys {bindings : List (Binding σ)} {values : List (String × Value)}
    (h : ComeFrom snapshot bindings values) : values.map Prod.fst = bindings.map Binding.key := by
  induction h with
  | nil => rfl
  | cons hp _ ih => rw [List.map_cons, List.map_cons, hp.1, ih]

/-- The value under a key that one binding has is what comes of this binding. -/
theorem get?_of_resolve {before after : List (Binding σ)} {b : Binding σ} {values : Table Value}
    {s s' : σ} (hbindings : f.bindings = before ++ b :: after)
    (hothers : ∀ c ∈ before, c.key ≠ b.key) (h : f.resolve host snapshot s = (.ok values, s')) :
    ∃ earlier s₁, resolveAll host snapshot before s = (.ok earlier, s₁) ∧
      values.get? b.key = some (counted (b.extractor.call snapshot (b.args.map .text) s₁).1) := by
  obtain ⟨vs, u, hvs, hdone⟩ := Action.andThen_ok_cases h
  cases hdone
  rw [hbindings] at hvs
  obtain ⟨earlier, s₁, later, hearlier, rfl⟩ := resolveAll_cons_cases hvs
  have hnone : earlier.lookup b.key = none := by
    rw [List.lookup_eq_none_iff]
    intro p hp
    have hkey : p.1 ∈ before.map Binding.key :=
      (resolveAll_values hearlier).keys ▸ List.mem_map_of_mem hp
    obtain ⟨c, hc, hck⟩ := List.mem_map.mp hkey
    have hne : b.key ≠ p.1 := fun heq => hothers c hc (hck.trans heq.symm)
    exact bne_iff_ne.mpr hne
  refine ⟨earlier, s₁, hearlier, ?_⟩
  rw [Table.get?, List.lookup_append, hnone, Table.lookup_cons, if_pos rfl]
  rfl

/-- Whether a formatter resolves a token on its own account: one of its bindings alone has the
token's key, it computes the token with the token's own extractor and arguments, and the value
under the key is what comes of it when the bindings before it have been computed. -/
def Resolves (f : Formatter σ) (registry : Registry σ) (t : Token) : Prop :=
  ∃ before b after, f.bindings = before ++ b :: after ∧ b.Computes registry t ∧
    (∀ c ∈ before ++ after, c.key ≠ t.key) ∧
    ∀ host snapshot s values s', f.resolve host snapshot s = (.ok values, s') →
      ∃ earlier s₁, resolveAll host snapshot before s = (.ok earlier, s₁) ∧
        values.get? t.key = some (counted (b.extractor.call snapshot (t.args.map .text) s₁).1)

theorem resolves_of_build (h : (build registry settings).1 = .ok f) (ht : t ∈ f.tokens) :
    f.Resolves registry t := by
  obtain ⟨given, placeholder, -, hn, rfl⟩ := build_ok_iff.mp h
  have hfrozen : ∀ u ∈ Segment.tokens (parseFormat (Preset.expand given)),
      registry.freeze.contains u.name = true := hn
  obtain ⟨b, hb, hcomputes, -⟩ := exists_binding (fun _ => mentioned_of_mem_parseFormat) hfrozen ht
  obtain ⟨before, after, hbindings⟩ := List.append_of_mem hb
  have hothers : ∀ c ∈ before ++ after, c.key ≠ b.key := by
    have hnodup :=
      nodup_eraseDups ((Segment.tokens (parseFormat (Preset.expand given))).map Token.key)
    rw [← keys_bindingsOf hfrozen, hbindings, List.map_append, List.map_cons, List.nodup_middle,
      List.nodup_cons, ← List.map_append] at hnodup
    exact fun c hc hkey => hnodup.1 (List.mem_map.mpr ⟨c, hc, hkey⟩)
  refine ⟨before, b, after, hbindings, ⟨hcomputes.key, hcomputes.args, hcomputes.extractor⟩,
    hcomputes.key ▸ hothers, fun host snapshot s values s' hresolve => ?_⟩
  rw [← hcomputes.key, ← hcomputes.args]
  exact get?_of_resolve hbindings (fun c hc => hothers c (List.mem_append_left _ hc)) hresolve

end RequestLog.Formatter
