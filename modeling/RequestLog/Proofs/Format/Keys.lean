import Mathlib.Data.List.TakeWhile
import RequestLog.Proofs.Format.Layouts
import RequestLog.Proofs.Text.Pieces

/-!
Keys of tokens. A token that a format mentions has a name without brackets and arguments without
commas, so that its key tells its name and its arguments.
-/
namespace RequestLog

/-- What arguments are written as between brackets. -/
def Token.argumentText (args : List String) : List Char :=
  Text.joinWith [','] (args.map String.toList)

/-- Arguments without commas are cut out of what they are written as. -/
theorem Token.splitOn_argumentText {args : List String} (hn : args ≠ [])
    (h : ∀ a ∈ args, ',' ∉ a.toList) :
    Text.splitOn ',' (argumentText args) = args.map String.toList :=
  Text.splitOn_joinWith (List.forall_mem_map.mpr h) (by simpa using hn)

structure Token.Mentioned (t : Token) : Prop where
  name : ∀ c ∈ t.name.toList, Text.isNameChar c = true
  args : t.args ≠ []
  commas : ∀ a ∈ t.args, ',' ∉ a.toList

namespace Token.Mentioned

variable {s t : Token}

theorem bracket_notMem (h : t.Mentioned) : '[' ∉ t.name.toList := by
  intro hc
  have hb := h.name '[' hc
  revert hb
  decide

theorem args_of_joined (hs : s.Mentioned) (ht : t.Mentioned)
    (h : argumentText s.args = argumentText t.args) : s.args = t.args := by
  have hmap : s.args.map String.toList = t.args.map String.toList := by
    rw [← splitOn_argumentText hs.args hs.commas, h, splitOn_argumentText ht.args ht.commas]
  exact (List.map_inj_right fun _ _ => String.toList_inj.mp).mp hmap

/-- Tokens of one key have one name and the same arguments. -/
theorem of_key_eq (hs : s.Mentioned) (ht : t.Mentioned) (h : s.key = t.key) :
    s.name = t.name ∧ s.args = t.args := by
  have hlist := congrArg String.toList h
  unfold key keyOf at hlist
  split at hlist <;> split at hlist
  · next ha hb => exact ⟨String.toList_inj.mp hlist, ha.trans hb.symm⟩
  · -- only the second one has brackets
    exfalso
    apply hs.bracket_notMem
    rw [hlist]
    simp
  · exfalso
    apply ht.bracket_notMem
    rw [← hlist]
    simp
  · simp only [String.toList_ofList, List.append_assoc, List.cons_append] at hlist
    obtain ⟨hname, hrest⟩ :=
      Text.append_cons_inj hs.bracket_notMem ht.bracket_notMem hlist
    exact ⟨String.toList_inj.mp hname, hs.args_of_joined ht (List.append_cancel_right hrest)⟩

end Token.Mentioned

namespace Reference

theorem pieces_ne_nil (content : List Char) : pieces content ≠ [] := by
  rw [pieces, ne_eq, List.map_eq_nil_iff]
  exact Text.splitOn_ne_nil ',' _

theorem comma_notMem_of_mem_pieces {content piece : List Char} (h : piece ∈ pieces content) :
    ',' ∉ piece := by
  intro hc
  obtain ⟨p, hp, rfl⟩ := List.mem_map.mp h
  exact (Text.mem_of_mem_splitOn hp (Text.mem_of_mem_strip hc)).2 rfl

/-- A reference whose name has only name characters stands for a token as formats mention them. -/
theorem token_mentioned {r : Reference} (h : ∀ c ∈ r.name, Text.isNameChar c = true) :
    r.token.Mentioned where
  name c hc := h c (by simpa [token] using hc)
  args := by
    rw [token, ne_eq, List.map_eq_nil_iff]
    exact pieces_ne_nil _
  commas a ha := by
    obtain ⟨p, hp, rfl⟩ := List.mem_map.mp ha
    rw [String.toList_ofList]
    exact comma_notMem_of_mem_pieces hp

end Reference

/-- Every token of a format is one as formats mention them. -/
theorem mentioned_of_mem_parseFormat {format : String} {t : Token}
    (h : t ∈ Segment.tokens (parseFormat format)) : t.Mentioned := by
  rw [Segment.mem_tokens, parseFormat, Layout.segments] at h
  simp only [List.mem_cons, List.mem_flatMap, List.not_mem_nil, or_false, reduceCtorEq, false_or,
    Segment.token.injEq] at h
  obtain ⟨p, hp, rfl⟩ := h
  exact Reference.token_mentioned (Layout.name_of_mem_read _ p hp)

end RequestLog
