import RequestLog.Fault
import RequestLog.Format.Segment
import RequestLog.Table

/-!
Templates: segments prepared for rendering. Empty texts are gone and neighbouring texts are one, so
that rendering is a walk over the parts.
-/
namespace RequestLog

/-- A part of a template: a text that is copied, or the place of a value. -/
inductive Part where
  | text (literal : String)
  | slot (key : String)
deriving DecidableEq, Repr

/-- Parts to be rendered, with the text for values that are absent. -/
structure Template where
  segments : List Segment
  parts : List Part
  placeholder : String

namespace Template

/-- The parts with a text in front, which becomes one with a text that is first already. -/
def consText (literal : String) : List Part → List Part
  | .text more :: parts => .text (literal ++ more) :: parts
  | parts => .text literal :: parts

def compileParts : List Segment → List Part
  | [] => []
  | .text literal :: rest =>
    if literal.isEmpty then compileParts rest else consText literal (compileParts rest)
  | .token t :: rest => .slot t.key :: compileParts rest

def compile (segments : List Segment) (placeholder : String) : Template :=
  ⟨segments, compileParts segments, placeholder⟩

/-- The text of a value, or the placeholder where it is absent. -/
def fill (placeholder : String) : Option Value → Except Fault String
  | none => .ok placeholder
  | some .null => .ok placeholder
  | some v => v.written

def renderPart (placeholder : String) (values : Table Value) : Part → Except Fault String
  | .text literal => .ok literal
  | .slot key => fill placeholder (values.get? key)

/-- The line of a template with values for its places, unless one of them refuses its text. -/
def render (t : Template) (values : Table Value) : Except Fault String :=
  (t.parts.mapM (renderPart t.placeholder values)).map String.join

/-- Whether a part is the place of a value that is absent. -/
def lacks (values : Table Value) : Part → Bool
  | .text _ => false
  | .slot key =>
    match values.get? key with
    | none | some .null => true
    | some _ => false

/-- The line of a template whose placeholder is offered as a value; one that is no text only serves
where no value is absent. That shows when the pieces are put together, after every value has been
written. -/
def renderWith (t : Template) (placeholder : Value) (values : Table Value) : Except Fault String :=
  match placeholder, t.parts.findIdx? (lacks values) with
  | .text s, _ => { t with placeholder := s }.render values
  | v, some place => do
    let _ ← t.render values
    .error (.pieceNotText place v)
  | _, none => t.render values

end Template

end RequestLog
