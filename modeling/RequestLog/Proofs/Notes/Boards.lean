import Mathlib.Data.List.Induction
import Mathlib.Data.List.Nodup
import RequestLog.Notes

/-!
Histories of boards. Handlers are put on a board and taken off it; who is on it in the end, and in
which order, is told by the moment since which each handler has been on it without a break.
-/
namespace RequestLog.Board

/-- What is asked of a board. -/
inductive Change where
  | add (offer : HandlerOffer)
  | remove (offer : HandlerOffer)

/-- A board after a change; where something is refused the board stays as it is. -/
def change (b : Board) : Change → Board
  | .add offer => (b.add offer).toOption.getD b
  | .remove offer => b.remove offer

/-- The moment since which a handler has been on a board. The changes are listed with the latest
one first, and the earliest one comes at moment zero. -/
def since (handler : String) : List Change → Option Nat
  | [] => none
  | .add (.handler h) :: earlier =>
    if h = handler then (since handler earlier).or (some earlier.length) else since handler earlier
  | .remove (.handler h) :: earlier => if h = handler then none else since handler earlier
  | _ :: earlier => since handler earlier

/-- Whether one handler is on a board and another one came later. -/
def Before (latest : List Change) (first second : String) : Prop :=
  ∃ i j, since first latest = some i ∧ since second latest = some j ∧ i < j

/-- What is on a board after changes: the handlers that were put on it and not taken off since, in
the order in which they came. -/
structure Lists (b : Board) (latest : List Change) (names : List String) : Prop where
  handlers : b.handlers = names.map .handler
  mem_iff : ∀ h, h ∈ names ↔ (since h latest).isSome
  ordered : names.Pairwise (Before latest)

variable {b : Board} {latest : List Change} {names : List String} {h : String}

theorem since_lt {i : Nat} (hi : since h latest = some i) : i < latest.length := by
  fun_induction since h latest with
  | case1 => cases hi
  | case2 earlier ih =>
    rw [List.length_cons]
    cases hearlier : since h earlier with
    | none =>
      rw [hearlier] at hi
      cases hi
      exact Nat.lt_succ_self _
    | some j =>
      rw [hearlier] at hi
      cases hi
      exact Nat.lt_succ_of_lt (ih hearlier)
  | case3 name earlier hname ih => exact Nat.lt_succ_of_lt (ih hi)
  | case4 earlier => cases hi
  | case5 name earlier hname ih => exact Nat.lt_succ_of_lt (ih hi)
  | case6 c earlier hadd hremove ih => exact Nat.lt_succ_of_lt (ih hi)

namespace Lists

theorem nodup (hl : b.Lists latest names) : names.Nodup := by
  apply hl.ordered.imp
  rintro first second ⟨i, j, hfirst, hsecond, hlt⟩ rfl
  rw [hfirst] at hsecond
  cases hsecond
  exact Nat.lt_irrefl i hlt

theorem contains_iff (hl : b.Lists latest names) : b.contains (.handler h) = true ↔ h ∈ names := by
  simp [contains, hl.handlers, HandlerOffer.same]

/-- A change of which no handler's moment depends leaves the list as it is. -/
theorem of_since_eq (hl : b.Lists latest names) {later : List Change}
    (hs : ∀ h, since h later = since h latest) : b.Lists later names where
  handlers := hl.handlers
  mem_iff h := by rw [hl.mem_iff, hs]
  ordered := by
    apply hl.ordered.imp
    rintro first second ⟨i, j, hfirst, hsecond, hlt⟩
    exact ⟨i, j, (hs first).trans hfirst, (hs second).trans hsecond, hlt⟩

/-- Putting a handler on a board again changes nothing. -/
theorem add_of_mem (hl : b.Lists latest names) (hmem : h ∈ names) :
    (b.change (.add (.handler h))).Lists (.add (.handler h) :: latest) names := by
  have hsame : b.change (.add (.handler h)) = b := by
    simp only [change, add, hl.contains_iff.mpr hmem]
    rfl
  rw [hsame]
  apply hl.of_since_eq
  intro other
  obtain ⟨i, hi⟩ := Option.isSome_iff_exists.mp ((hl.mem_iff h).mp hmem)
  by_cases hother : h = other
  · rw [since, if_pos hother, ← hother, hi, Option.some_or]
  · rw [since, if_neg hother]

/-- A new handler comes last. -/
theorem add_of_notMem (hl : b.Lists latest names) (hnew : h ∉ names) :
    (b.change (.add (.handler h))).Lists (.add (.handler h) :: latest) (names ++ [h]) := by
  have hfree : b.contains (.handler h) = false := by
    rw [← Bool.not_eq_true, hl.contains_iff]
    exact hnew
  have hnone : since h latest = none := by
    rw [← Option.not_isSome_iff_eq_none, ← hl.mem_iff]
    exact hnew
  have hself : since h (.add (.handler h) :: latest) = some latest.length := by
    rw [since, if_pos rfl, hnone, Option.none_or]
  have hothers : ∀ other ∈ names, since other (.add (.handler h) :: latest) = since other
      latest := by
    intro other hother
    have hne : h ≠ other := fun heq => hnew (heq ▸ hother)
    rw [since, if_neg hne]
  constructor
  · simp only [change, add, hfree, List.map_append, ← hl.handlers]
    rfl
  · intro other
    by_cases hother : h = other
    · subst hother
      simp [hself]
    · have hne : other ≠ h := fun heq => hother heq.symm
      rw [since, if_neg hother, ← hl.mem_iff]
      simp [hne]
  · apply List.pairwise_append.mpr
    refine ⟨hl.ordered.imp_of_mem ?_, List.pairwise_singleton _ _, ?_⟩
    · rintro first second hfirst hsecond ⟨i, j, hi, hj, hlt⟩
      exact ⟨i, j, (hothers first hfirst).trans hi, (hothers second hsecond).trans hj, hlt⟩
    · intro first hfirst second hsecond
      obtain ⟨i, hi⟩ := Option.isSome_iff_exists.mp ((hl.mem_iff first).mp hfirst)
      rw [List.mem_singleton.mp hsecond]
      exact ⟨i, latest.length, (hothers first hfirst).trans hi, hself, since_lt hi⟩

theorem eraseP_same (h : String) (names : List String) :
    (names.map HandlerOffer.handler).eraseP (HandlerOffer.handler h).same =
      (names.erase h).map .handler := by
  induction names with
  | nil => rfl
  | cons first rest ih =>
    by_cases hfirst : first = h
    · subst hfirst
      simp [HandlerOffer.same]
    · have hne : h ≠ first := fun heq => hfirst heq.symm
      simp [HandlerOffer.same, hfirst, hne, ih]

/-- A handler that is taken off a board is not on it any more, as it was on it once. -/
theorem remove (hl : b.Lists latest names) (h : String) :
    (b.change (.remove (.handler h))).Lists (.remove (.handler h) :: latest) (names.erase h) := by
  have hothers : ∀ other, other ≠ h → since other (.remove (.handler h) :: latest) = since other
      latest := by
    intro other hother
    rw [since, if_neg fun heq => hother heq.symm]
  constructor
  · simp only [change, Board.remove, hl.handlers, eraseP_same]
  · intro other
    rw [hl.nodup.mem_erase_iff]
    by_cases hother : other = h
    · subst hother
      simp [since]
    · rw [hothers other hother, hl.mem_iff]
      simp [hother]
  · have hkept := hl.ordered.sublist (List.erase_sublist (a := h))
    apply hkept.imp_of_mem
    rintro first second hfirst hsecond ⟨i, j, hi, hj, hlt⟩
    have hne := (hl.nodup.mem_erase_iff.mp hfirst).1
    have hne' := (hl.nodup.mem_erase_iff.mp hsecond).1
    exact ⟨i, j, (hothers first hne).trans hi, (hothers second hne').trans hj, hlt⟩

theorem exists_change (hl : b.Lists latest names) (c : Change) :
    ∃ names, (b.change c).Lists (c :: latest) names := by
  rcases c with ⟨h | v⟩ | ⟨h | v⟩
  · by_cases hmem : h ∈ names
    · exact ⟨names, hl.add_of_mem hmem⟩
    · exact ⟨names ++ [h], hl.add_of_notMem hmem⟩
  · exact ⟨names, hl.of_since_eq fun _ => rfl⟩
  · exact ⟨names.erase h, hl.remove h⟩
  · have hsame : b.change (.remove (.value v)) = b := by
      have hnone : ∀ offer ∈ b.handlers, ¬ (HandlerOffer.value v).same offer = true := by
        rw [hl.handlers]
        simp [HandlerOffer.same]
      simp only [change, Board.remove, List.eraseP_of_forall_not hnone]
    rw [hsame]
    exact ⟨names, hl.of_since_eq fun _ => rfl⟩

theorem exists_foldl (hl : b.Lists latest names) (changes : List Change) :
    ∃ names, (changes.foldl change b).Lists (changes.reverse ++ latest) names := by
  induction changes generalizing b latest names with
  | nil => exact ⟨names, hl⟩
  | cons c rest ih =>
    obtain ⟨more, hmore⟩ := hl.exists_change c
    rw [List.reverse_cons, List.append_assoc]
    exact ih hmore

/-- A board with different handlers lists them as if they had come one after the other. -/
theorem of_nodup (hn : names.Nodup) :
    Board.Lists ⟨names.map .handler⟩ (names.map fun h => Change.add (.handler h)).reverse
    names := by
  induction names using List.reverseRecOn with
  | nil => exact ⟨rfl, fun _ => by simp [since], List.Pairwise.nil⟩
  | append_singleton rest h ih =>
    rw [List.nodup_append_comm, List.singleton_append, List.nodup_cons] at hn
    obtain ⟨hnew, hrest⟩ := hn
    have hl := (ih hrest).add_of_notMem hnew
    have hboard : (Board.mk (rest.map .handler)).change (.add (.handler h)) =
        ⟨(rest ++ [h]).map .handler⟩ := by
      rw [Board.mk.injEq]
      exact hl.handlers
    rw [hboard] at hl
    simpa using hl

end Lists

/-- What is on a board that different handlers were on in the beginning. -/
theorem exists_lists (hn : names.Nodup) (changes : List Change) :
    ∃ registered, (changes.foldl change ⟨names.map .handler⟩).Lists
      ((names.map fun h => Change.add (.handler h)) ++ changes).reverse registered := by
  rw [List.reverse_append]
  exact (Lists.of_nodup hn).exists_foldl changes

end RequestLog.Board
