import Mathlib.Data.List.DropRight
import RequestLog.Sink.Ring

/-!
Rings keep the most recent entries. After any entries and clearings a ring holds what has come
since it was last cleared, in order, cut to its last entries if there is a limit; an index, from
the start or from the end, finds an entry exactly if it is in the range of these.
-/
namespace RequestLog.Ring

variable {α : Type}

/-- What happens to a ring. -/
inductive Deed (α : Type) where
  | emit (entry : α)
  | clear

namespace Deed

def isClear : Deed α → Bool
  | emit _ => false
  | clear => true

def entry? : Deed α → Option α
  | emit entry => some entry
  | clear => none

/-- The entries that have come since the last clearing, or at all if there was none. -/
def sinceClear (deeds : List (Deed α)) : List α :=
  (deeds.rtakeWhile fun d => ! d.isClear).filterMap entry?

@[simp] theorem sinceClear_nil : sinceClear ([] : List (Deed α)) = [] := rfl

@[simp] theorem sinceClear_emit (deeds : List (Deed α)) (entry : α) :
    sinceClear (deeds ++ [emit entry]) = sinceClear deeds ++ [entry] := by
  simp [sinceClear, isClear, entry?]

@[simp] theorem sinceClear_clear (deeds : List (Deed α)) :
    sinceClear (deeds ++ [clear]) = [] := by
  simp [sinceClear, isClear]

end Deed

/-- The last of entries, as many as a limit allows. -/
def recent : Option Nat → List α → List α
  | none, entries => entries
  | some n, entries => entries.rtake n

/-- The element at an index of a list; the index -1 is that of the last one, -2 that of the one
before it, and so on. -/
def elementAt? (l : List α) (index : Int) : Option α :=
  if 0 ≤ index then l[index.toNat]? else l.reverse[(-index - 1).toNat]?

def step (r : Ring α) : Deed α → Ring α
  | .emit entry => r.push entry
  | .clear => r.clear

@[simp] theorem step_emit (r : Ring α) (entry : α) : r.step (.emit entry) = r.push entry := rfl

@[simp] theorem step_clear (r : Ring α) : r.step .clear = r.clear := rfl

/-- The ring of a limit after deeds one after the other, if the limit can be set. -/
def after (limit : Value) (deeds : List (Deed α)) : Except Fault (Ring α) :=
  (limitOf limit).map fun limit => deeds.foldl step (empty limit)

section Keeping

variable {r : Ring α} {entries : List α} {entry : α}

theorem rtake_rtake (n : Nat) (entries : List α) (m : Nat) :
    (entries.rtake n).rtake m = entries.rtake (min m n) := by
  simp only [List.rtake_eq_reverse_take_reverse, List.reverse_reverse, List.take_take]

/-- What a limit has cut off does not come back with another entry. -/
theorem rtake_append_rtake (n : Nat) (entries : List α) (entry : α) :
    (entries.rtake n ++ [entry]).rtake n = (entries ++ [entry]).rtake n := by
  cases n with
  | zero => simp
  | succ n => simp [rtake_rtake]

/-- Whether a ring holds the last of entries up to its limit. -/
def Holds (r : Ring α) (entries : List α) : Prop :=
  r.items = recent r.limit entries

theorem holds_empty (limit : Option Nat) : (empty limit : Ring α).Holds [] := by
  cases limit <;> simp [Holds, empty, recent]

theorem Holds.push (h : r.Holds entries) : (r.push entry).Holds (entries ++ [entry]) := by
  obtain ⟨limit, items⟩ := r
  simp only [Holds] at h
  subst h
  cases limit with
  | none => simp [Holds, Ring.push, cut, recent]
  | some n =>
    show (entries.rtake n ++ [entry]).rtake n = (entries ++ [entry]).rtake n
    exact rtake_append_rtake n entries entry

theorem holds_clear (r : Ring α) : r.clear.Holds [] := by
  obtain ⟨limit, items⟩ := r
  exact holds_empty limit

theorem limit_foldl (r : Ring α) (deeds : List (Deed α)) :
    (deeds.foldl step r).limit = r.limit := by
  induction deeds generalizing r with
  | nil => simp
  | cons d rest ih =>
    rw [List.foldl_cons, ih]
    cases d <;> simp [step, Ring.push, clear]

/-- What one deed keeps holds after all of them. -/
theorem holds_foldl (limit : Option Nat) (deeds : List (Deed α)) :
    (deeds.foldl step (empty limit)).Holds (Deed.sinceClear deeds) := by
  -- on the deeds from their end, for the last clearing is found from there
  induction deeds using List.reverseRecOn with
  | nil => exact holds_empty limit
  | append_singleton past d ih =>
    rw [List.foldl_concat]
    cases d with
    | emit entry => simpa using ih.push
    | clear => simpa using holds_clear _

end Keeping

section Indexing

variable {l : List α} {index : Int} {r : Ring α}

theorem elementAt?_eq_none_iff :
    elementAt? l index = none ↔ index < -l.length ∨ l.length ≤ index := by
  unfold elementAt?
  split
  · rw [List.getElem?_eq_none_iff]
    omega
  · rw [List.getElem?_eq_none_iff, List.length_reverse]
    omega

/-- Counting from the end is counting from the start once the length is added. -/
theorem elementAt?_eq (l : List α) (index : Int) :
    elementAt? l index =
      let place := if index < 0 then index + l.length else index
      if place < 0 then none else l[place.toNat]? := by
  by_cases hneg : index < 0
  · have hsign : ¬ 0 ≤ index := by omega
    by_cases hout : index + l.length < 0
    · have hnone : elementAt? l index = none := elementAt?_eq_none_iff.mpr (by omega)
      simp [hnone, hneg, hout]
    · have hplace : (-index - 1).toNat < l.length := by omega
      have hmirror : l.length - 1 - (-index - 1).toNat = (index + l.length).toNat := by omega
      simp only [elementAt?, hsign, hneg, hout, if_true, if_false, List.getElem?_reverse hplace,
        hmirror]
  · have hsign : 0 ≤ index := by omega
    simp [elementAt?, hneg, hsign]

theorem getAt_eq (r : Ring α) (index : Int) :
    r.getAt (.int index) =
      match elementAt? r.items index with
      | some entry => .ok entry
      | none =>
        .error (if maxLimit < index ∨
            index < -maxLimit - 1 then .indexTooLarge else .noEntry) := by
  rw [elementAt?_eq]
  rfl

theorem getAt_ok_iff {entry : α} :
    r.getAt (.int index) = .ok entry ↔ elementAt? r.items index = some entry := by
  rw [getAt_eq]
  cases elementAt? r.items index <;> simp

theorem getAt_error_iff :
    (∃ f, r.getAt (.int index) = .error f) ↔ elementAt? r.items index = none := by
  rw [getAt_eq]
  cases elementAt? r.items index <;> simp

theorem category_of_getAt {f : Fault} (h : r.getAt (.int index) = .error f) :
    f.category = "IndexError" := by
  rw [getAt_eq] at h
  cases hfound : elementAt? r.items index with
  | some entry => simp [hfound] at h
  | none =>
    simp only [hfound, Except.error.injEq] at h
    subst h
    split <;> rfl

end Indexing

section Limits

variable {limit : Option Nat}

/-- The value that asks for a limit. -/
def limitValue : Option Nat → Value
  | none => .null
  | some n => .int n

/-- Whether a ring can have a limit. -/
def Settable (limit : Option Nat) : Prop :=
  ∀ n ∈ limit, (n : Int) ≤ maxLimit

theorem limitOf_of_settable (h : Settable limit) : limitOf (limitValue limit) = .ok limit := by
  cases limit with
  | none => simp [limitValue, limitOf]
  | some n =>
    have hmax : (0 : Int) < maxLimit := by decide
    have hn : (n : Int) ≤ maxLimit := h n rfl
    have hrange : ¬ (maxLimit < (n : Int) ∨ (n : Int) < -maxLimit - 1) := by omega
    have hsign : ¬ (n : Int) < 0 := by omega
    simp only [limitValue, limitOf, Value.whole?, hrange, hsign, if_false, Int.toNat_natCast]

theorem limitOf_of_not_settable (h : ¬ Settable limit) :
    limitOf (limitValue limit) = .error .limitTooLarge := by
  cases limit with
  | none => simp [Settable] at h
  | some n =>
    have hn : maxLimit < (n : Int) := by simpa [Settable] using h
    simp [limitValue, limitOf, Value.whole?, hn]

end Limits

/-- A ring of a limit that cannot be set is not made. Any other one holds after any deeds what has
come since the last clearing, of which the last entries are left, as many as the limit allows; an
index finds what it finds in these, and is out of range exactly if it is out of theirs. -/
theorem after_keeps_recent (limit : Option Nat) (deeds : List (Deed α)) :
    (¬ Settable limit → after (limitValue limit) deeds = .error .limitTooLarge) ∧
    (Settable limit → ∃ r, after (limitValue limit) deeds = .ok r ∧
      r.items = recent limit (Deed.sinceClear deeds) ∧ r.size = r.items.length ∧
      ∀ index : Int,
        (∀ entry, r.getAt (.int index) = .ok entry ↔ elementAt? r.items index = some entry) ∧
        ((∃ f, r.getAt (.int index) = .error f) ↔
          index < -r.items.length ∨ r.items.length ≤ index) ∧
        ∀ f, r.getAt (.int index) = .error f → f.category = "IndexError") := by
  constructor
  · intro hlimit
    simp [after, limitOf_of_not_settable hlimit, Except.map]
  · intro hlimit
    have hmade : after (limitValue limit) deeds = .ok (deeds.foldl step (empty limit)) := by
      simp [after, limitOf_of_settable hlimit, Except.map]
    have hholds := holds_foldl limit deeds
    rw [Holds, limit_foldl] at hholds
    refine ⟨_, hmade, hholds, rfl, fun index => ⟨fun entry => getAt_ok_iff, ?_, ?_⟩⟩
    · rw [getAt_error_iff, elementAt?_eq_none_iff]
    · intro f
      exact category_of_getAt

/-- A ring of two entries that is cleared after the first three of six. -/
theorem after_keeps_recent_two : ∃ r : Ring String,
    after (limitValue (some 2)) [.emit "a", .emit "b", .emit "c", .clear, .emit "d", .emit "e",
      .emit "f"] =
      .ok r ∧
    r.items = ["e", "f"] ∧ r.getAt (.int (-2)) = .ok "e" ∧
    ∃ f, r.getAt (.int 2) = .error f ∧ f.category = "IndexError" := by
  have hlimit : Settable (some 2) := by
    intro n hn
    cases hn
    decide
  obtain ⟨-, hkept⟩ := after_keeps_recent (some 2)
    [.emit "a", .emit "b", .emit "c", .clear, .emit "d", .emit "e", .emit "f"]
  obtain ⟨r, hr, hitems, -, hget⟩ := hkept hlimit
  have hentries : r.items = ["e", "f"] := by
    rw [hitems]
    decide
  obtain ⟨hfound, -, -⟩ := hget (-2)
  obtain ⟨-, hrange, hcategory⟩ := hget 2
  obtain ⟨f, hf⟩ := hrange.mpr (by simp [hentries])
  refine ⟨r, hr, hentries, (hfound "e").mpr ?_, f, hf, hcategory f hf⟩
  simp [hentries, elementAt?]

/-- The smallest limit that cannot be set: no ring holds even the one entry that has come. -/
theorem not_kept_of_large_limit :
    ¬ ∃ r : Ring String, after (limitValue (some (9223372036854775808))) [.emit "kept"] = .ok r ∧
      r.items = recent (some (9223372036854775808)) (Deed.sinceClear [.emit "kept"]) := by
  rintro ⟨r, hr, -⟩
  have hrefused : limitOf (limitValue (some (9223372036854775808))) = .error .limitTooLarge := by
    apply limitOf_of_not_settable
    intro h
    exact absurd (h (9223372036854775808) rfl) (by decide)
  rw [after, hrefused] at hr
  cases hr

end RequestLog.Ring
