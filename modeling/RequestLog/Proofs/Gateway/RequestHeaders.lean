import RequestLog.Gateway.Environ
import RequestLog.Proofs.Actions
import RequestLog.Proofs.Breaks.Text
import RequestLog.Proofs.HeaderGroups

/-!
Headers of a request that an environment describes. Under each name they have the values of all
marked names that stand for it, in the order of the environment, and behind them the value that
comes without a mark. Nothing else of the environment has an effect on them.
-/
namespace RequestLog

namespace Text

/-- The capitals beyond ASCII become characters above the underscore. -/
theorem underscore_lt_of_mem_caseRuns : ∀ r ∈ caseRuns, 95 < (r.first : Int) + r.shift := by
  decide +kernel

/-- Lower case is an underscore only of an underscore. -/
theorem eq_of_lowerChar_eq_underscore {c : Char} (h : lowerChar c = '_') : c = '_' := by
  unfold lowerChar at h
  split at h
  · next hc =>
    have hascii : ∀ n < 128, (Char.ofNat n).toLower = '_' → Char.ofNat n = '_' := by decide
    rw [← Char.ofNat_toNat c] at h ⊢
    exact hascii c.toNat hc h
  split at h
  · next r hr =>
    have hrun := underscore_lt_of_mem_caseRuns r (List.mem_of_find?_eq_some hr)
    obtain ⟨⟨hfirst, -⟩, -⟩ : (r.first ≤ c.toNat ∧ c.toNat ≤ r.last) ∧ _ := by
      simpa [CaseRun.contains, Nat.ble_eq] using List.find?_some hr
    have hnumber : (Char.ofNat (Int.toNat (c.toNat + r.shift))).toNat = 95 := congrArg Char.toNat h
    rw [toNat_ofNat] at hnumber
    split at hnumber <;> omega
  · exact h

theorem underscore_mem_of_mem_lower {cs : List Char} (h : '_' ∈ lower cs) : '_' ∈ cs := by
  have hafter : ∀ before, '_' ∈ lowerAfter before cs → '_' ∈ cs := by
    clear h
    induction cs with
    | nil => exact fun _ h => nomatch h
    | cons c after ih =>
      intro before h
      rw [lowerAfter, List.mem_append] at h
      rcases h with h | h
      · unfold lowerBetween at h
        split at h
        · split at h <;> exact absurd h (by decide)
        · split at h
          · exact absurd h (by decide)
          · rw [eq_of_lowerChar_eq_underscore (List.mem_singleton.mp h).symm]
            exact List.mem_cons_self
      · exact List.mem_cons_of_mem _ (ih _ h)
  exact hafter [] h

end Text

namespace Environ

variable {e other : Environ} {name header : String} {request : Request}

/-- Whether a name stands for a header: it is the mark, followed by the header's name in any case
and with underscores for hyphens. -/
def StandsFor (name header : String) : Prop :=
  ∃ rest, name = "HTTP_" ++ rest ∧ Headers.lowerName (hyphenated rest.toList) = header

theorem headerName?_eq_some_iff {hyphens : String} : headerName? name = some hyphens ↔
    ∃ rest, name = "HTTP_" ++ rest ∧ hyphenated rest.toList = hyphens := by
  unfold headerName?
  constructor
  · intro h
    split at h
    · next hmark =>
      obtain ⟨rest, hrest⟩ := List.isPrefixOf_iff_prefix.mp hmark
      cases h
      refine ⟨String.ofList rest, ?_, ?_⟩
      · rw [← String.toList_inj, ← hrest]
        simp [headerMark]
      · rw [← hrest, List.drop_left, String.toList_ofList]
    · cases h
  · rintro ⟨rest, rfl, rfl⟩
    have hmark : ("HTTP_" ++ rest).toList = headerMark ++ rest.toList := by simp [headerMark]
    rw [hmark, if_pos (List.isPrefixOf_iff_prefix.mpr (List.prefix_append ..)), List.drop_left]

theorem standsFor_iff : StandsFor name header ↔
    (headerName? name).map Headers.lowerName = some header := by
  simp only [Option.map_eq_some_iff, headerName?_eq_some_iff, StandsFor]
  constructor
  · rintro ⟨rest, hname, hheader⟩
    exact ⟨_, ⟨rest, hname, rfl⟩, hheader⟩
  · rintro ⟨_, ⟨rest, hname, rfl⟩, hheader⟩
    exact ⟨rest, hname, hheader⟩

instance : DecidableRel StandsFor := fun _ _ => decidable_of_iff _ standsFor_iff.symm

/-- The values whose names stand for a header, in the order of the environment. -/
def markedValues (e : Environ) (header : String) : List Value :=
  (e.entries.filter fun p => StandsFor p.1 header).map Prod.snd

/-- The value of a name, unless it counts as false. -/
def valueIfTrue (e : Environ) (name : String) : List Value :=
  if (e.value name).truthy then [e.value name] else []

/-- The value that comes without a mark, for the two headers that have such a one. -/
def unmarkedValues (e : Environ) (header : String) : List Value :=
  if header = "content-type" then e.valueIfTrue "CONTENT_TYPE"
  else if header = "content-length" then e.valueIfTrue "CONTENT_LENGTH"
  else []

def headerValues (e : Environ) (header : String) : List Value :=
  e.markedValues header ++ e.unmarkedValues header

/-- The pair of a marked name. -/
def markedPair? (p : String × Value) : Option (String × Value) :=
  (headerName? p.1).map fun name => (name, p.2)

/-- The pair of a name without mark, where its value counts as true. -/
def unmarkedPair? (e : Environ) (name : String) : Option (String × Value) :=
  if (e.value name).truthy then some (hyphenated name.toList, e.value name) else none

/-- The pairs that stand for headers, with the names of these. -/
def namedValues (e : Environ) : List (String × Value) :=
  e.entries.filterMap markedPair? ++ unmarkedHeaders.filterMap e.unmarkedPair?

theorem headerPairs_eq (e : Environ) :
    e.headerPairs = e.namedValues.map fun p => (.text p.1, p.2) := by
  rw [namedValues, List.map_append, List.map_filterMap, List.map_filterMap, headerPairs]
  congr 2
  · funext p
    rw [markedPair?, Option.map_map]
    rfl
  · funext name
    rw [unmarkedPair?]
    split <;> rfl

theorem valuesUnder_marked (e : Environ) (header : String) :
    Headers.valuesUnder header (e.entries.filterMap markedPair?) = e.markedValues header := by
  rw [markedValues]
  induction e.entries with
  | nil => rfl
  | cons p rest ih =>
    cases hname : headerName? p.1 with
    | none =>
      have hp : ¬ StandsFor p.1 header := by simp [standsFor_iff, hname]
      simpa [markedPair?, hname, hp] using ih
    | some hyphens =>
      have hp : StandsFor p.1 header ↔ Headers.lowerName hyphens = header := by
        rw [standsFor_iff, hname, Option.map_some, Option.some_inj]
      have hpair : markedPair? p = some (hyphens, p.2) := by rw [markedPair?, hname,
        Option.map_some]
      rw [List.filterMap_cons_some hpair, Headers.valuesUnder_cons, ih]
      simp only [List.filter_cons, hp, decide_eq_true_eq]
      split <;> rfl

theorem valuesUnder_unmarkedPair? (hname : Headers.lowerName (hyphenated name.toList) = header)
    (other : String) : Headers.valuesUnder other (e.unmarkedPair? name).toList =
      if other = header then e.valueIfTrue name else [] := by
  subst hname
  by_cases hv : (e.value name).truthy = true
  · rw [unmarkedPair?, valueIfTrue, if_pos hv, if_pos hv, Option.toList_some,
      Headers.valuesUnder_cons]
    simp only [eq_comm]
    rfl
  · rw [unmarkedPair?, valueIfTrue, if_neg hv, if_neg hv, ite_self]
    rfl

theorem valuesUnder_unmarked (e : Environ) (header : String) :
    Headers.valuesUnder header (unmarkedHeaders.filterMap e.unmarkedPair?) =
      e.unmarkedValues header := by
  have hpairs : unmarkedHeaders.filterMap e.unmarkedPair? =
      (e.unmarkedPair? "CONTENT_TYPE").toList ++ (e.unmarkedPair? "CONTENT_LENGTH").toList := by
    rw [List.filterMap_eq_flatMap_toList, unmarkedHeaders]
    simp
  have htype : Headers.lowerName (hyphenated "CONTENT_TYPE".toList) = "content-type" := by
    decide +kernel
  have hlength : Headers.lowerName (hyphenated "CONTENT_LENGTH".toList) = "content-length" := by
    decide +kernel
  rw [hpairs, Headers.valuesUnder_append, valuesUnder_unmarkedPair? htype,
    valuesUnder_unmarkedPair? hlength, unmarkedValues]
  split
  · next h =>
    subst h
    rw [if_neg (by decide), List.append_nil]
  · rw [List.nil_append]

theorem valuesUnder_namedValues (e : Environ) (header : String) :
    Headers.valuesUnder header e.namedValues = e.headerValues header := by
  rw [namedValues, Headers.valuesUnder_append, valuesUnder_marked, valuesUnder_unmarked,
    headerValues]

theorem underscore_notMem_lowerName (cs : List Char) :
    '_' ∉ (Headers.lowerName (hyphenated cs)).toList := by
  rw [Headers.lowerName, String.toList_ofList]
  intro h
  have hmem := Text.underscore_mem_of_mem_lower h
  rw [hyphenated, String.toList_ofList, List.mem_map] at hmem
  obtain ⟨c, -, hc⟩ := hmem
  split at hc
  · cases hc
  · contradiction

/-- A header that has values has no underscore in its name. -/
theorem underscore_notMem_of_headerValues (h : e.headerValues header ≠ []) :
    '_' ∉ header.toList := by
  obtain ⟨v, hv⟩ := List.exists_mem_of_ne_nil _ h
  rcases List.mem_append.mp hv with hmarked | hunmarked
  · obtain ⟨p, hp, -⟩ := List.mem_map.mp hmarked
    obtain ⟨rest, -, rfl⟩ : StandsFor p.1 header := of_decide_eq_true (List.mem_filter.mp hp).2
    exact underscore_notMem_lowerName rest.toList
  · unfold unmarkedValues at hunmarked
    split at hunmarked
    · next h =>
      subst h
      decide
    split at hunmarked
    · next h =>
      subst h
      decide
    · cases hunmarked

/-- Whether a name is read for the headers: it is a marked one, or that of a header without
mark. -/
def IsHeaderName (name : String) : Prop :=
  (∃ rest, name = "HTTP_" ++ rest) ∨ name ∈ unmarkedHeaders

theorem isHeaderName_iff : IsHeaderName name ↔ (headerName? name).isSome ∨
    name ∈ unmarkedHeaders := by
  simp [IsHeaderName, Option.isSome_iff_exists, headerName?_eq_some_iff]

instance : DecidablePred IsHeaderName := fun _ => decidable_of_iff _ isHeaderName_iff.symm

/-- Whether two environments have the same entries under names that are read for the headers, in
the same order. -/
def SharesHeaders (e other : Environ) : Prop :=
  other.restrict (IsHeaderName ·) = e.restrict (IsHeaderName ·)

/-- No pair comes of a name that is not read. -/
theorem markedPair?_eq_none {p : String × Value} (hname : ¬ IsHeaderName p.1) :
    markedPair? p = none := by
  rw [markedPair?, Option.map_eq_none_iff]
  by_contra hsome
  exact hname (isHeaderName_iff.mpr (.inl (Option.isSome_iff_ne_none.mpr hsome)))

theorem namedValues_restrict (e : Environ) :
    namedValues (e.restrict (IsHeaderName ·)) = e.namedValues := by
  have hmarked : (e.restrict (IsHeaderName ·)).entries.filterMap markedPair? =
      e.entries.filterMap markedPair? := by
    rw [Table.restrict, List.filterMap_filter]
    apply List.filterMap_congr
    intro p _
    split
    · rfl
    · next hname => rw [markedPair?_eq_none fun h => hname (decide_eq_true h)]
  have hunmarked : ∀ name ∈ unmarkedHeaders,
      unmarkedPair? (e.restrict (IsHeaderName ·)) name = e.unmarkedPair? name := by
    intro name hname
    have hvalue : value (e.restrict (IsHeaderName ·)) name = e.value name := by
      rw [value, value, Table.get?_restrict e (decide_eq_true (.inr hname))]
    rw [unmarkedPair?, unmarkedPair?, hvalue]
  rw [namedValues, namedValues, hmarked, List.filterMap_congr hunmarked]

theorem SharesHeaders.headerPairs_eq (h : e.SharesHeaders other) :
    other.headerPairs = e.headerPairs := by
  have hnamed : other.namedValues = e.namedValues := by
    rw [← namedValues_restrict other, h, namedValues_restrict]
  rw [Environ.headerPairs_eq, Environ.headerPairs_eq, hnamed]

theorem sharesHeaders_put (hname : ¬ IsHeaderName name) (v : Value) :
    e.SharesHeaders (e.put name v) :=
  Table.restrict_put e (decide_eq_false hname) v

theorem sharesHeaders_erase (hname : ¬ IsHeaderName name) : e.SharesHeaders (e.erase name) :=
  Table.restrict_erase e (decide_eq_false hname)

theorem normalize_of_request_ok (hr : e.request = .ok request) :
    Headers.normalize e.headerSource = .ok request.headers := by
  obtain ⟨url, -, hr⟩ := bind_eq_ok.mp hr
  obtain ⟨version, -, hr⟩ := bind_eq_ok.mp hr
  obtain ⟨headers, hheaders, hr⟩ := bind_eq_ok.mp hr
  rw [hheaders, ← Except.ok.inj hr]

/-- The headers of a request are made of the texts of the values that stand for headers. -/
theorem exists_written_of_request_ok (hr : e.request = .ok request) : ∃ texts,
    HeaderSource.Written (e.namedValues.map fun p => (.text p.1, p.2)) texts ∧
      request.headers = Headers.ofPairs texts := by
  obtain ⟨texts, htexts, hheaders⟩ := Headers.normalize_eq_ok.mp (normalize_of_request_ok hr)
  rw [headerSource, HeaderSource.texts_of_pairs (HeaderSource.pairs_parts _),
    headerPairs_eq] at htexts
  exact ⟨texts, HeaderSource.mapM_textsOf_eq_ok.mp htexts, hheaders.symm⟩

/-- The headers of a request have each name once, and under it the texts of the values that the
environment has for the header, joined in their order. They have the names alone for which there
are such values, and none with an underscore. They are those of every other request whose
environment has the same entries under the names that are read for headers; whatever is put in or
taken out under another name, these stay. -/
theorem headers_of_request (hr : e.request = .ok request) :
    request.headers.names.Nodup ∧
    (∀ header, ∃ texts,
      List.Forall₂ (fun v text => v.toText = .ok text) (e.headerValues header) texts ∧
      request.headers.get? header = if texts = [] then none else some (commaJoin texts)) ∧
    (∀ header ∈ request.headers.names, e.headerValues header ≠ [] ∧ '_' ∉ header.toList) ∧
    (∀ other otherRequest, e.SharesHeaders other → other.request = .ok otherRequest →
      otherRequest.headers = request.headers) ∧
    ∀ name, ¬ IsHeaderName name →
      (∀ v, e.SharesHeaders (e.put name v)) ∧ e.SharesHeaders (e.erase name) := by
  obtain ⟨texts, hwritten, hheaders⟩ := exists_written_of_request_ok hr
  have hunder : ∀ header, List.Forall₂ (fun v text => v.toText = .ok text) (e.headerValues header)
      (Headers.valuesUnder header texts) := by
    intro header
    rw [← valuesUnder_namedValues]
    exact HeaderSource.forall₂_valuesUnder hwritten header
  refine ⟨?_, fun header => ⟨_, hunder header, ?_⟩, fun header hmem => ?_,
    fun other otherRequest hshares hother => ?_, fun name hname => ?_⟩
  · rw [hheaders]
    exact Headers.nodup_names_ofPairs texts
  · rw [hheaders, Headers.get?_ofPairs]
  · rw [hheaders] at hmem
    have hvalues : e.headerValues header ≠ [] := by
      intro hnil
      have htexts := hunder header
      rw [hnil, List.forall₂_nil_left_iff] at htexts
      exact Headers.valuesUnder_eq_nil_iff.mp htexts hmem
    exact ⟨hvalues, underscore_notMem_of_headerValues hvalues⟩
  · have hnormal := normalize_of_request_ok hother
    rw [headerSource, hshares.headerPairs_eq] at hnormal
    exact Except.ok.inj (hnormal.symm.trans (normalize_of_request_ok hr))
  · exact ⟨sharesHeaders_put hname, sharesHeaders_erase hname⟩

/-- An environment with a header under three names, with a header under a marked name and one
without mark, and with an empty value. -/
def manifoldEnviron : Environ :=
  ⟨[("wsgi.url_scheme", .text "http"), ("HTTP_HOST", .text "plain"), ("HTTP_X_A", .text "1"),
    ("CONTENT_TYPE", .text "text/plain"), ("HTTP_x-a", .text ""), ("PATH_INFO", .text "/p"),
    ("CONTENT_LENGTH", .text ""), ("HTTP_CONTENT_TYPE", .text "text/html"),
      ("HTTP_X_a", .text "2")]⟩

/-- The same environment for another path. -/
def movedEnviron : Environ := manifoldEnviron.put "PATH_INFO" (.text "/q")

theorem headers_of_request_manifold : ∃ request moved,
    manifoldEnviron.request = .ok request ∧ movedEnviron.request = .ok moved ∧
      request.headers.get? "x-a" = some "1, , 2" ∧
      request.headers.get? "content-type" = some "text/html, text/plain" ∧
      request.headers.get? "content-length" = none ∧ moved.headers = request.headers := by
  have hdescribed : ∀ e : Environ, e.request.isOk = true → ∃ request, e.request = .ok request := by
    intro e hok
    rcases hr : e.request with f | request
    · rw [hr] at hok
      cases hok
    · exact ⟨request, rfl⟩
  obtain ⟨request, hr⟩ := hdescribed manifoldEnviron (by decide +kernel)
  obtain ⟨moved, hmoved⟩ := hdescribed movedEnviron (by decide +kernel)
  obtain ⟨-, htexts, -, hshared, hother⟩ := headers_of_request hr
  have hname : ¬ IsHeaderName "PATH_INFO" := by decide +kernel
  have hget : ∀ header shown, manifoldEnviron.headerValues header = shown.map .text →
      request.headers.get? header = if shown = [] then none else some (commaJoin shown) := by
    intro header shown hvalues
    obtain ⟨texts, hwritten, hget⟩ := htexts header
    rw [hvalues, List.forall₂_map_left_iff] at hwritten
    have hsame : shown = texts := by
      rw [← List.forall₂_eq_eq_eq]
      exact hwritten.imp fun _ _ h => Except.ok.inj h
    rw [hget, hsame]
  refine ⟨request, moved, hr, hmoved, ?_, ?_, ?_, hshared _ _ ((hother _ hname).1 _) hmoved⟩
  · exact (hget "x-a" ["1", "", "2"] rfl).trans (by decide +kernel)
  · exact (hget "content-type" ["text/html", "text/plain"] rfl).trans (by decide +kernel)
  · exact hget "content-length" [] rfl

end Environ

end RequestLog
