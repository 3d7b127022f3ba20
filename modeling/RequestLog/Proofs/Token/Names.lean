import RequestLog.Proofs.Format.Grammar
import RequestLog.Proofs.Registries

/-!
Names of tokens. A name can be registered exactly if some format mentions a token of that name: the
format that is a colon and the name alone is one, and in every format a token's name is such a run
of name characters as is taken for a name by itself.
-/
namespace RequestLog

open Text

section Names

variable {name : List Char} {t : Token}

theorem isTokenName_iff : isTokenName name = true ↔ IsName name [] := by
  constructor
  · intro h
    obtain ⟨hlong, hnamed⟩ : 2 ≤ name.length ∧ ∀ c ∈ name, isNameChar c = true := by
      simpa [isTokenName] using h
    exact ⟨hlong, hnamed, by simp⟩
  · intro h
    simpa [isTokenName] using And.intro h.long h.named

/-- A name is taken for one if reading it behind a colon takes all of it for the name. -/
theorem isTokenName_iff_read? : isTokenName name = true ↔
    ∃ r rest, Reference.read? (':' :: name) = some (r, rest) ∧ r.name = name := by
  rw [isTokenName_iff]
  constructor
  · intro h
    obtain ⟨htake, hdrop⟩ := h.takeWhile
    rw [List.append_nil] at htake hdrop
    refine ⟨⟨name, none⟩, [], ?_, rfl⟩
    simp [Reference.read?, Reference.readGroup, htake, hdrop, h.long]
  · rintro ⟨r, rest, hread, hname⟩
    have hlong : 2 ≤ (name.takeWhile isNameChar).length := by
      rw [← startsToken_colon]
      by_contra hnone
      simp [Reference.read?_eq_none_iff.mpr hnone] at hread
    have hall : name.takeWhile isNameChar = name := by
      simp only [Reference.read?, hlong, if_true, Option.some.injEq, Prod.mk.injEq] at hread
      rw [← hread.1] at hname
      exact hname
    rw [hall] at hlong
    refine ⟨hlong, ?_, by simp⟩
    rw [← hall]
    exact fun c hc => List.mem_takeWhile_imp hc

/-- The name of a token that stands in a format would be a name by itself. -/
theorem Token.Stands.isTokenName {after : List Char} (h : t.Stands after) :
    isTokenName t.name.toList = true := by
  rw [isTokenName_iff]
  cases h with
  | bare _ name => exact ⟨name.long, name.named, by simp⟩
  | grouped _ _ name => exact ⟨name.long, name.named, by simp⟩

theorem isTokenName_of_mem_parseFormat {format : String}
    (h : t ∈ Segment.tokens (parseFormat format)) : isTokenName t.name.toList = true := by
  obtain ⟨after, hstands⟩ := exists_stands_of_mem_parseFormat h
  exact hstands.isTokenName

end Names

/-- A colon and a name are a format that mentions a token of the name. -/
theorem mentions_of_isTokenName {name : String} (h : isTokenName name.toList = true) :
    ∃ t ∈ Segment.tokens (parseFormat (":" ++ name)), t.name = name := by
  obtain ⟨r, rest, hread, hname⟩ := isTokenName_iff_read?.mp h
  have hsegments : parseFormat (":" ++ name) =
      .text "" :: .token r.token :: (Layout.read rest).segments := by
    have hformat : (":" ++ name).toList = ':' :: name.toList := by simp
    rw [parseFormat, hformat, Layout.read_of_reference hread, Layout.segments_consReference]
  refine ⟨r.token, ?_, ?_⟩
  · simp [hsegments, Segment.tokens]
  · simp [Reference.token, hname]

theorem isTokenName_iff_mentioned {name : String} : isTokenName name.toList = true ↔
    ∃ format, ∃ t ∈ Segment.tokens (parseFormat format), t.name = name := by
  constructor
  · intro h
    exact ⟨_, mentions_of_isTokenName h⟩
  · rintro ⟨format, t, ht, rfl⟩
    exact isTokenName_of_mem_parseFormat ht

theorem Registry.registers_iff {σ : Type} {registry : Registry σ} {name : String}
    {e : Extractor σ} :
    (∃ r, registry.register (.text name) (.extractor e) = .ok r) ↔
      registry.frozen = false ∧ isTokenName name.toList = true := by
  simp only [register_ok_iff]
  constructor
  · rintro ⟨r, hfrozen, p, hoffered, hname, -⟩
    cases hoffered
    exact ⟨hfrozen, hname⟩
  · rintro ⟨hfrozen, hname⟩
    exact ⟨_, hfrozen, (name, e), rfl, hname, rfl⟩

/-- Every text is told to be a name or not to be one. It is one exactly if it is what is read as a
name behind a colon, and exactly if some format mentions a token of that name; so a registry that
is not frozen takes an extractor under the names that formats can mention, and under no others. -/
theorem nameable_iff_mentioned {σ : Type} (name : String) :
    (∃ valid, isTokenNameOf (.text name) = .ok valid ∧
      (valid = true ↔ ∃ r rest, Reference.read? (':' :: name.toList) = some (r, rest) ∧
        r.name = name.toList) ∧
      (valid = true ↔ ∃ format, ∃ t ∈ Segment.tokens (parseFormat format), t.name = name)) ∧
    ∀ (registry : Registry σ) (e : Extractor σ),
      (∃ r, registry.register (.text name) (.extractor e) = .ok r) ↔
        registry.frozen = false ∧ ∃ format, ∃ t ∈ Segment.tokens (parseFormat format),
        t.name = name := by
  constructor
  · exact ⟨isTokenName name.toList, rfl, isTokenName_iff_read?, isTokenName_iff_mentioned⟩
  · intro registry e
    rw [Registry.registers_iff, isTokenName_iff_mentioned]

/-- A name goes on over a hyphen and an underscore, but not over a space. -/
theorem nameable_iff_mentioned_hyphened :
    (∃ format, ∃ t ∈ Segment.tokens (parseFormat format), t.name = "x-y_2") ∧
      ¬ ∃ format, ∃ t ∈ Segment.tokens (parseFormat format), t.name = "xy z" := by
  obtain ⟨⟨valid, hvalid, -, hmentioned⟩, -⟩ := @nameable_iff_mentioned Unit "x-y_2"
  obtain ⟨⟨valid', hvalid', -, hmentioned'⟩, -⟩ := @nameable_iff_mentioned Unit "xy z"
  have htrue : isTokenNameOf (.text "x-y_2") = .ok true := congrArg Except.ok (by decide +kernel)
  have hfalse : isTokenNameOf (.text "xy z") = .ok false := congrArg Except.ok (by decide +kernel)
  rw [← hmentioned, ← hmentioned']
  exact ⟨Except.ok.inj (hvalid.symm.trans htrue),
    Bool.not_eq_true _ ▸ Except.ok.inj (hvalid'.symm.trans hfalse)⟩

end RequestLog
