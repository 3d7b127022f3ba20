import Mathlib.Data.List.TakeWhile
import RequestLog.Format.Layout

/-!
Layouts of formats. Reading a format loses nothing: the texts and the references that it finds make
up the format again.
-/
namespace RequestLog

namespace Reference

theorem name_of_read? {cs rest : List Char} {r : Reference} (h : read? cs = some (r, rest)) :
    ∀ c ∈ r.name, Text.isNameChar c = true := by
  unfold read? at h
  split at h
  · split at h
    · cases h
      intro c hc
      exact List.mem_takeWhile_imp hc
    · cases h
  · cases h

/-- A bracket group is either left alone or read with both its brackets. -/
theorem readGroup_cases (cs : List Char) : readGroup cs = (none, cs) ∨
    ∃ content rest, readGroup cs = (some content, rest) ∧ cs = '[' :: content ++ ']' :: rest := by
  unfold readGroup
  split
  · next cs =>
    split
    · next c content rest hcontent hrest =>
      have hcs := List.takeWhile_append_dropWhile (p := (· != ']')) (l := cs)
      rw [hcontent, hrest] at hcs
      exact .inr ⟨_, _, rfl, by rw [← hcs]; rfl⟩
    · exact .inl rfl
  · exact .inl rfl

/-- A reference and what follows it make up the text it was read from. -/
theorem raw_of_read? {cs rest : List Char} {r : Reference} (h : read? cs = some (r, rest)) :
    r.raw ++ rest = cs := by
  unfold read? at h
  split at h
  · next cs =>
    split at h
    · cases h
      have hname := List.takeWhile_append_dropWhile (p := Text.isNameChar) (l := cs)
      rcases readGroup_cases (cs.dropWhile Text.isNameChar) with hg | ⟨content, rest, hg, hcs⟩
      · simp [raw, hg, hname]
      · rw [hcs] at hname
        simp only [raw, hg]
        simpa using hname
    · cases h
  · cases h

end Reference

namespace Layout

theorem read_of_reference {c : Char} {cs rest : List Char} {r : Reference}
    (h : Reference.read? (c :: cs) = some (r, rest)) :
    read (c :: cs) = consReference r (read rest) := by
  rw [read]
  split
  · next heq =>
    rw [h] at heq
    cases heq
    rfl
  · next heq =>
    rw [h] at heq
    cases heq

theorem read_of_char {c : Char} {cs : List Char} (h : Reference.read? (c :: cs) = none) :
    read (c :: cs) = consChar c (read cs) := by
  rw [read]
  split
  · next heq =>
    rw [h] at heq
    cases heq
  · rfl

theorem name_of_mem_read (cs : List Char) :
    ∀ p ∈ (read cs).rest, ∀ c ∈ p.1.name, Text.isNameChar c = true := by
  induction cs using read.induct with
  | case1 => simp [read]
  | case2 c cs r rest hread ih =>
    rw [read_of_reference hread]
    intro p hp
    rcases List.mem_cons.mp hp with rfl | hp
    · exact Reference.name_of_read? hread
    · exact ih p hp
  | case3 c cs hread ih =>
    rw [read_of_char hread]
    exact ih

/-- A layout that is read is one of the text it was read from. -/
theorem raw_read (cs : List Char) : (read cs).raw = cs := by
  induction cs using read.induct with
  | case1 => simp [read, raw]
  | case2 c cs r rest hread ih =>
    rw [read_of_reference hread, ← Reference.raw_of_read? hread]
    rw [raw] at ih
    simp [raw, consReference, ih]
  | case3 c cs hread ih =>
    rw [read_of_char hread]
    rw [raw] at ih
    simp [raw, consChar, ih]

end Layout

namespace Segment

theorem mem_tokens {t : Token} {segments : List Segment} :
    t ∈ tokens segments ↔ .token t ∈ segments := by
  induction segments with
  | nil => simp [tokens]
  | cons s rest ih => cases s <;> simp [tokens, ih]

end Segment

end RequestLog
