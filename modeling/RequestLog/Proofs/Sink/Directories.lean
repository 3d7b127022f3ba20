import RequestLog.Proofs.Tables
import RequestLog.Sink.Directory

/-!
What becomes of the files of a directory. Opening a handle makes a file or empties it, a handle
that writes at the end of its file adds to it, and closing a handle leaves the files alone.
-/
namespace RequestLog

namespace Directory

variable {d : Directory} {number : Nat} {name : String} {content : List UInt8}

/-- Opening a file makes it if it is missing, empties it for overwriting, and leaves the others. -/
theorem get?_openHandle (d : Directory) (name other : String) (overwrite : Bool) :
    (d.openHandle name overwrite).2.files.get? other =
      if other = name then some (if overwrite then [] else d.content name) else d.files.get?
      other :=
  Table.get?_put d.files name other _

/-- A handle by which whatever is written comes at the end of a file. -/
structure Writes (d : Directory) (number : Nat) (name : String) (content : List UInt8) : Prop where
  handle : ∃ position, d.handles[number]? = some ⟨name, position, false⟩ ∧
    ∀ p, position = some p → p = content.length
  file : d.files.get? name = some content

theorem overwriteAt_length (os written : List UInt8) : overwriteAt os.length os written = os ++
    written := by
  simp [overwriteAt]

namespace Writes

theorem write (h : d.Writes number name content) (os : List UInt8) :
    (d.write number os).1 = .ok () ∧ (d.write number os).2.Writes number name (content ++ os) ∧
      ∀ other, other ≠ name → (d.write number os).2.files.get? other = d.files.get? other := by
  obtain ⟨⟨position, hhandle, hposition⟩, hfile⟩ := h
  have hcontent : d.content name = content := by rw [Directory.content, hfile, Option.getD_some]
  have hwrite : d.write number os = (.ok (), d.written number ⟨name, position, false⟩ os) := by
    simp only [Directory.write, hhandle]
    rfl
  have hput : (d.files.put name (content ++ os)).get? name = some (content ++ os) := by
    rw [Table.get?_put, if_pos rfl]
  rw [hwrite]
  cases position with
  | none =>
    refine ⟨rfl, ⟨⟨none, hhandle, fun p hp => nomatch hp⟩, ?_⟩, fun other hother => ?_⟩
    · simpa only [written, hcontent] using hput
    · simp only [written, Table.get?_put, if_neg hother]
  | some p =>
    obtain rfl := hposition p rfl
    refine ⟨rfl, ⟨⟨some (content.length + os.length), ?_, fun p hp => ?_⟩, ?_⟩,
      fun other hother => ?_⟩
    · have hlt : number < d.handles.length := by
        by_contra hge
        rw [List.getElem?_eq_none (by omega)] at hhandle
        cases hhandle
      simp only [written, List.getElem?_set_self hlt]
    · cases hp
      rw [List.length_append]
    · simpa only [written, hcontent, overwriteAt_length] using hput
    · simp only [written, Table.get?_put, if_neg hother]

theorem flush (h : d.Writes number name content) : d.flush number = .ok () := by
  obtain ⟨⟨position, hhandle, -⟩, -⟩ := h
  simp only [Directory.flush, hhandle]
  rfl

end Writes

end Directory

end RequestLog
