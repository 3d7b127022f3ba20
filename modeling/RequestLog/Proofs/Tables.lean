import Mathlib.Data.List.Induction
import Mathlib.Data.List.Nodup
import RequestLog.Table

/-!
Tables by what they give for a name, after an entry has been put in and after all entries have been
changed by a function.
-/
namespace RequestLog

namespace Table

variable {α β : Type}

theorem lookup_cons (name key : String) (entry : α) (entries : List (String × α)) :
    ((name, entry) :: entries).lookup key =
      if key = name then some entry else entries.lookup key := by
  by_cases h : key = name
  · simp [h]
  · have hb : (key == name) = false := beq_eq_false_iff_ne.mpr h
    simp [List.lookup_cons, hb, h]

theorem lookup_putIn (entries : List (String × α)) (name key : String) (entry : α) :
    (putIn name entry entries).lookup key =
      if key = name then some entry else entries.lookup key := by
  induction entries with
  | nil => rw [putIn, lookup_cons]
  | cons p rest ih =>
    obtain ⟨n, e⟩ := p
    rw [putIn]
    split
    · next hn =>
      rw [lookup_cons, lookup_cons, hn]
      split <;> rfl
    · next hn =>
      rw [lookup_cons, lookup_cons, ih]
      by_cases h : key = n
      · have hk : key ≠ name := fun hk => hn (h.symm.trans hk)
        rw [if_pos h, if_neg hk, if_pos h]
      · rw [if_neg h, if_neg h]

/-- An entry put in is the entry of its name, and the entries of other names stay. -/
theorem get?_put (t : Table α) (name key : String) (entry : α) :
    (t.put name entry).get? key = if key = name then some entry else t.get? key :=
  lookup_putIn t.entries name key entry

/-- The entries whose names satisfy a predicate. -/
def restrict (p : String → Bool) (t : Table α) : Table α :=
  ⟨t.entries.filter fun entry => p entry.1⟩

section Restrict

variable {p : String → Bool} {name : String}

theorem get?_restrict (t : Table α) (h : p name = true) :
    (t.restrict p).get? name = t.get? name := by
  obtain ⟨entries⟩ := t
  simp only [get?, restrict]
  induction entries with
  | nil => rfl
  | cons entry rest ih =>
    obtain ⟨n, e⟩ := entry
    by_cases hn : p n = true
    · rw [List.filter_cons_of_pos (by simpa using hn), lookup_cons, lookup_cons, ih]
    · have hne : name ≠ n := fun heq => hn (heq ▸ h)
      rw [List.filter_cons_of_neg (by simpa using hn), ih, lookup_cons, if_neg hne]

/-- A name that does not satisfy the predicate may be put in. -/
theorem restrict_put (t : Table α) (h : p name = false) (entry : α) :
    (t.put name entry).restrict p = t.restrict p := by
  obtain ⟨entries⟩ := t
  simp only [restrict, put, mk.injEq]
  induction entries with
  | nil => simp [putIn, h]
  | cons first rest ih =>
    obtain ⟨n, e⟩ := first
    rw [putIn]
    split
    · next hn => simp [hn, h]
    · simp [List.filter_cons, ih]

theorem restrict_erase (t : Table α) (h : p name = false) :
    (t.erase name).restrict p = t.restrict p := by
  simp only [restrict, erase, List.filter_filter, mk.injEq]
  apply List.filter_congr
  intro entry _
  by_cases hn : entry.1 = name
  · simp [hn, h]
  · simp [hn]

end Restrict

/-- The entries of other names stay if those of a name are taken out. -/
theorem get?_erase_of_ne (t : Table α) {name key : String} (h : key ≠ name) :
    (t.erase name).get? key = t.get? key :=
  get?_restrict (p := fun n => n ≠ name) t (decide_eq_true h)

theorem put_of_get? {t : Table α} {name : String} {entry : α} (h : t.get? name = some entry) :
    t.put name entry = t := by
  obtain ⟨entries⟩ := t
  unfold put
  congr 1
  simp only [get?] at h
  induction entries with
  | nil => cases h
  | cons p rest ih =>
    obtain ⟨n, e⟩ := p
    rw [lookup_cons] at h
    rw [putIn]
    split at h
    · next hn =>
      cases h
      rw [if_pos hn.symm]
    · next hn => rw [if_neg (Ne.symm hn), ih h]

section Names

variable {name : String} {entry : α} {pairs : List (String × α)}

theorem map_fst_putIn (name : String) (entry : α) (pairs : List (String × α)) :
    (putIn name entry pairs).map Prod.fst =
      if name ∈ pairs.map Prod.fst then pairs.map Prod.fst else pairs.map Prod.fst ++ [name] := by
  induction pairs with
  | nil => rfl
  | cons p rest ih =>
    obtain ⟨n, e⟩ := p
    rw [putIn]
    by_cases hn : n = name
    · simp [hn]
    · simp only [if_neg hn, List.map_cons, ih, List.mem_cons, Ne.symm hn, false_or]
      split <;> rfl

/-- A name that is new comes last. -/
theorem names_put (t : Table α) (name : String) (entry : α) :
    (t.put name entry).names = if name ∈ t.names then t.names else t.names ++ [name] :=
  map_fst_putIn name entry t.entries

theorem names_erase (t : Table α) (name : String) :
    (t.erase name).names = t.names.filter (· ≠ name) := by
  simp [erase, names, List.filter_map, Function.comp_def]

theorem nodup_names_put {t : Table α} (h : t.names.Nodup) : (t.put name entry).names.Nodup := by
  rw [names_put]
  split
  · exact h
  · next hname => exact List.concat_eq_append ▸ h.concat hname

theorem mem_entries_of_get? {t : Table α} (h : t.get? name = some entry) :
    (name, entry) ∈ t.entries := by
  obtain ⟨before, after, hentries, -⟩ := List.lookup_eq_some_iff.mp h
  rw [hentries]
  exact List.mem_append_right _ List.mem_cons_self

theorem exists_get?_of_mem_names {t : Table α} (h : name ∈ t.names) : ∃ entry,
    t.get? name = some entry := by
  obtain ⟨entries⟩ := t
  simp only [names, get?] at h ⊢
  induction entries with
  | nil => cases h
  | cons p rest ih =>
    obtain ⟨n, e⟩ := p
    rw [lookup_cons]
    split
    · exact ⟨e, rfl⟩
    · next hn => exact ih ((List.mem_cons.mp h).resolve_left hn)

theorem putIn_of_notMem (h : name ∉ pairs.map Prod.fst) :
    putIn name entry pairs = pairs ++ [(name, entry)] := by
  induction pairs with
  | nil => rfl
  | cons p rest ih =>
    rw [List.map_cons, List.mem_cons, not_or] at h
    rw [putIn, if_neg (Ne.symm h.1), ih h.2, List.cons_append]

end Names

section OfList

variable {pairs : List (String × α)} {name : String} {entry : α}

theorem ofList_concat (pairs : List (String × α)) (p : String × α) :
    ofList (pairs ++ [p]) = (ofList pairs).put p.1 p.2 := by
  simp [ofList]

/-- The entry of a name is the last one that was put in. -/
theorem get?_ofList (pairs : List (String × α)) (name : String) :
    (ofList pairs).get? name = pairs.reverse.lookup name := by
  induction pairs using List.reverseRecOn with
  | nil => rfl
  | append_singleton pairs p ih =>
    rw [ofList_concat, get?_put, List.reverse_append, List.reverse_singleton,
      List.singleton_append, lookup_cons, ih]

/-- The names come in the order in which they were first put in. -/
theorem names_ofList (pairs : List (String × α)) :
    (ofList pairs).names = (pairs.map Prod.fst).eraseDups := by
  induction pairs using List.reverseRecOn with
  | nil => rfl
  | append_singleton pairs p ih =>
    rw [ofList_concat, names_put, ih, List.map_append, List.eraseDups_append]
    by_cases h : p.1 ∈ pairs.map Prod.fst
    · simp [List.removeAll, h]
    · simp [List.removeAll, h, List.eraseDups_cons]

theorem nodup_names_ofList (pairs : List (String × α)) : (ofList pairs).names.Nodup := by
  induction pairs using List.reverseRecOn with
  | nil => exact List.nodup_nil
  | append_singleton pairs p ih =>
    rw [ofList_concat]
    exact nodup_names_put ih

theorem ofList_of_nodup (h : (pairs.map Prod.fst).Nodup) : ofList pairs = ⟨pairs⟩ := by
  induction pairs using List.reverseRecOn with
  | nil => rfl
  | append_singleton pairs p ih =>
    rw [List.map_append, List.map_singleton, List.nodup_append] at h
    have hnew : p.1 ∉ pairs.map Prod.fst := fun hp => h.2.2 p.1 hp p.1 List.mem_cons_self rfl
    rw [ofList_concat, ih h.1, put, putIn_of_notMem hnew]

theorem mem_of_get?_ofList (h : (ofList pairs).get? name = some entry) :
    (name, entry) ∈ pairs := by
  rw [get?_ofList, List.lookup_eq_some_iff] at h
  obtain ⟨before, after, hpairs, -⟩ := h
  rw [← List.mem_reverse, hpairs]
  exact List.mem_append_right _ List.mem_cons_self

theorem get?_ofList_of_mem (hn : (pairs.map Prod.fst).Nodup) (h : (name, entry) ∈ pairs) :
    (ofList pairs).get? name = some entry := by
  rw [get?_ofList, List.lookup_eq_some_iff]
  obtain ⟨before, after, rfl⟩ := List.append_of_mem h
  refine ⟨after.reverse, before.reverse, by simp, fun p hp => ?_⟩
  rw [List.map_append, List.map_cons, List.nodup_append, List.nodup_cons] at hn
  have hne : name ≠ p.1 := by
    intro hname
    have hmem : p.1 ∈ after.map Prod.fst := List.mem_map_of_mem (List.mem_reverse.mp hp)
    exact hn.2.1.1 (hname ▸ hmem)
  exact bne_iff_ne.mpr hne

end OfList

/-- The table with every entry changed by a function of its name and itself. -/
def map (f : String → α → β) (t : Table α) : Table β :=
  ⟨t.entries.map fun p => (p.1, f p.1 p.2)⟩

theorem get?_map (f : String → α → β) (t : Table α) (name : String) :
    (t.map f).get? name = (t.get? name).map (f name) := by
  obtain ⟨entries⟩ := t
  induction entries with
  | nil => rfl
  | cons p rest ih =>
    obtain ⟨n, e⟩ := p
    simp only [get?, map, List.map_cons, List.lookup_cons] at ih ⊢
    split
    · next h => simp [beq_iff_eq.mp h]
    · exact ih

theorem putIn_map (f : String → α → β) (name : String) (entry : α) (entries : List (String × α)) :
    putIn name (f name entry) (entries.map fun p => (p.1, f p.1 p.2)) =
      (putIn name entry entries).map fun p => (p.1, f p.1 p.2) := by
  induction entries with
  | nil => rfl
  | cons p rest ih =>
    obtain ⟨n, e⟩ := p
    simp only [List.map_cons, putIn]
    split
    · next h => simp [h]
    · simp [ih]

theorem put_map (f : String → α → β) (t : Table α) (name : String) (entry : α) :
    (t.map f).put name (f name entry) = (t.put name entry).map f := by
  simp only [put, map, putIn_map]

end Table

end RequestLog
