import Mathlib.Data.List.Induction
import RequestLog.Headers
import RequestLog.Proofs.Actions
import RequestLog.Proofs.Tables

/-!
Headers by what they give for a name: the values of all pairs that come under it, joined in their
order. A text of ASCII characters is put into lower case letter by letter.
-/
namespace RequestLog

namespace Text

variable {c : Char} {cs : List Char}

theorem ascii_of_toLower (h : c.toLower.toNat < 128) : c.toNat < 128 := by
  unfold Char.toLower at h
  split at h
  · next hupper => exact Nat.lt_of_le_of_lt (UInt32.le_iff_toNat_le.mp hupper.2) (by decide)
  · exact h

/-- The two characters whose lower case depends on others, or is two characters, are not ASCII. -/
theorem lower_of_ascii (h : ∀ c ∈ cs, c.toNat < 128) : lower cs = cs.map Char.toLower := by
  have hafter : ∀ before, lowerAfter before cs = cs.map Char.toLower := by
    induction cs with
    | nil => exact fun _ => rfl
    | cons c rest ih =>
      obtain ⟨hc, hrest⟩ := List.forall_mem_cons.mp h
      intro before
      have hsigma : c ≠ 'Σ' := by
        rintro rfl
        exact absurd hc (by decide)
      have hdotted : c ≠ 'İ' := by
        rintro rfl
        exact absurd hc (by decide)
      rw [lowerAfter, lowerBetween, if_neg hsigma, if_neg hdotted, lowerChar, if_pos hc, ih hrest]
      rfl
  exact hafter []

end Text

namespace Headers

variable {pairs : List (String × String)}

/-- The values under a name, in the order of their pairs. -/
def valuesUnder {α : Type} (name : String) (pairs : List (String × α)) : List α :=
  (pairs.filter fun p => lowerName p.1 = name).map Prod.snd

theorem valuesUnder_cons {α : Type} (name : String) (p : String × α) (rest : List (String × α)) :
    valuesUnder name (p :: rest) =
      if lowerName p.1 = name then p.2 :: valuesUnder name rest else valuesUnder name rest := by
  by_cases h : lowerName p.1 = name
  · simp [valuesUnder, h]
  · simp [valuesUnder, h]

theorem valuesUnder_append {α : Type} (name : String) (before after : List (String × α)) :
    valuesUnder name (before ++ after) = valuesUnder name before ++ valuesUnder name after := by
  simp [valuesUnder]

theorem get?_add (h : Headers) (p : String × String) (name : String) :
    (h.add p).get? name =
      if lowerName p.1 = name then some (joined p.2 (h.get? name)) else h.get? name := by
  rw [add, Table.change, Table.get?_put]
  by_cases hname : lowerName p.1 = name
  · rw [if_pos hname, if_pos hname.symm, hname]
  · rw [if_neg hname, if_neg (Ne.symm hname)]

theorem ofPairs_concat (pairs : List (String × String)) (p : String × String) :
    ofPairs (pairs ++ [p]) = (ofPairs pairs).add p := by
  simp [ofPairs]

/-- The value of a name is what all pairs under the name have for it, joined in their order. -/
theorem get?_ofPairs (pairs : List (String × String)) (name : String) :
    (ofPairs pairs).get? name =
      if valuesUnder name pairs = [] then none else some (commaJoin (valuesUnder name pairs)) := by
  induction pairs using List.reverseRecOn with
  | nil => rfl
  | append_singleton pairs p ih =>
    rw [ofPairs_concat, get?_add, ih]
    by_cases hname : lowerName p.1 = name
    · have htexts : valuesUnder name (pairs ++ [p]) = valuesUnder name pairs ++ [p.2] := by
        simp [valuesUnder, hname]
      have hnew : valuesUnder name pairs ++ [p.2] ≠ [] := by simp
      rw [if_pos hname, htexts, if_neg hnew]
      split
      · next hnone =>
        rw [hnone, commaJoin, List.nil_append, String.intercalate_singleton]
        rfl
      · next hsome =>
        rw [commaJoin, commaJoin, String.intercalate_append_of_ne_nil hsome (List.cons_ne_nil _ _),
          String.intercalate_singleton]
        rfl
    · have htexts : valuesUnder name (pairs ++ [p]) = valuesUnder name pairs := by
        simp [valuesUnder, hname]
      rw [if_neg hname, htexts]

/-- The names come in the order in which they first occur. -/
theorem names_ofPairs (pairs : List (String × String)) :
    (ofPairs pairs).names = (pairs.map fun p => lowerName p.1).eraseDups := by
  induction pairs using List.reverseRecOn with
  | nil => rfl
  | append_singleton pairs p ih =>
    rw [ofPairs_concat, add, Table.change, Table.names_put, ih, List.map_append,
      List.eraseDups_append]
    by_cases h : lowerName p.1 ∈ pairs.map fun p => lowerName p.1
    · simp [List.removeAll, h]
    · simp [List.removeAll, h, List.eraseDups_cons]

theorem nodup_names_ofPairs (pairs : List (String × String)) : (ofPairs pairs).names.Nodup := by
  induction pairs using List.reverseRecOn with
  | nil => exact List.nodup_nil
  | append_singleton pairs p ih =>
    rw [ofPairs_concat]
    exact Table.nodup_names_put ih

theorem valuesUnder_eq_nil_iff {name : String} :
    valuesUnder name pairs = [] ↔ name ∉ (ofPairs pairs).names := by
  simp [valuesUnder, names_ofPairs, List.filter_eq_nil_iff]

theorem valueOf_of_get? {h : Headers} {name key value : String} (hname : lowerName name = key)
    (hvalue : h.get? key = some value) (default : Value) :
    h.valueOf name default = .text value := by
  rw [valueOf, hname, hvalue]

/-- A name under which there is one pair has that pair's value. -/
theorem get?_ofPairs_of_only {before after : List (String × String)} {key name value : String}
    (hname : lowerName name = key) (hothers : ∀ p ∈ before ++ after, lowerName p.1 ≠ key) :
    (ofPairs (before ++ (name, value) :: after)).get? key = some value := by
  obtain ⟨hbefore, hafter⟩ := List.forall_mem_append.mp hothers
  have hnone : ∀ {pairs : List (String × String)}, (∀ p ∈ pairs, lowerName p.1 ≠ key) →
      pairs.filter (fun p => lowerName p.1 = key) = [] :=
    fun h => List.filter_eq_nil_iff.mpr fun p hp => by simpa using h p hp
  have htexts : valuesUnder key (before ++ (name, value) :: after) = [value] := by
    rw [valuesUnder, List.filter_append, List.filter_cons_of_pos (by simpa using hname),
      hnone hbefore, hnone hafter]
    rfl
  rw [get?_ofPairs, htexts, if_neg (List.cons_ne_nil _ _), commaJoin, String.intercalate_singleton]

/-- Headers are made of the texts of what a host gives, unless these are refused. -/
theorem normalize_eq_ok {source : HeaderSource} {h : Headers} :
    normalize source = .ok h ↔ ∃ pairs, source.texts = .ok pairs ∧ ofPairs pairs = h := by
  rw [normalize, map_eq_ok]

theorem normalize_of_texts {source : HeaderSource} (h : source.texts = .ok pairs) :
    normalize source = .ok (ofPairs pairs) :=
  normalize_eq_ok.mpr ⟨pairs, h, rfl⟩

end Headers

end RequestLog
