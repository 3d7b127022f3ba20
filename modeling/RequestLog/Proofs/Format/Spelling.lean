import RequestLog.Proofs.Format.Grammar
import RequestLog.Proofs.Format.Lines

/-!
What segments spell. The line of a template is the texts of its segments one after the other,
whichever of them are empty or stand beside each other: a literal as it is, a token by the text of
its value, or by the placeholder where the value is absent. There is no line if one of these values
refuses its text. The tokens of a format spell the format again if each is given the text by which
it was written.
-/
namespace RequestLog

namespace Template

section Gathering

end Gathering

section Spelling

variable {placeholder : String} {offered : Value} {values : Table Value} {segments : List Segment}
  {line : String} {t : Token}

end Spelling

section Reproducing

variable {segments : List Segment} {placeholder format : String}

end Reproducing

-- an empty text and a zero are not absent
example : (compile [.text "", .token ⟨"a", [""], ":a"⟩, .text "x", .text "y",
    .token ⟨"b", [""], ":b"⟩,
    .token ⟨"c", [""], ":c"⟩] "-").render
      (.ofList [("a", .text ""), ("b", .int 0), ("c", .null)]) =
      .ok "xy0-" := by
  rfl

end Template

end RequestLog
