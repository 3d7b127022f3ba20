import RequestLog.Format.Segment

/-!
Layouts: the texts and tokens of a format in turn, a text coming first and last. Reading cuts a
format from left to right. A token is a colon and the longest run of two or more name characters,
with a bracket group if one follows at once: an opening bracket, one or more characters, and the
first closing bracket.
-/
namespace RequestLog

/-- A token as it stands in a format. -/
structure Reference where
  name : List Char
  group : Option (List Char)
deriving DecidableEq, Repr

namespace Reference

def raw (r : Reference) : List Char :=
  ':' :: r.name ++
    match r.group with
    | none => []
    | some content => '[' :: content ++ [']']

/-- The arguments in a bracket group: its pieces between commas, each without white space around
it. -/
def pieces (content : List Char) : List (List Char) :=
  (Text.splitOn ',' (Text.strip content)).map Text.strip

def token (r : Reference) : Token :=
  ⟨String.ofList r.name, (pieces (r.group.getD [])).map String.ofList, String.ofList r.raw⟩

/-- The bracket group at the front of a text, with what follows it. -/
def readGroup : List Char → Option (List Char) × List Char
  | '[' :: cs =>
    match cs.takeWhile (· != ']'), cs.dropWhile (· != ']') with
    | c :: content, ']' :: rest => (some (c :: content), rest)
    | _, _ => (none, '[' :: cs)
  | cs => (none, cs)

/-- The reference at the front of a text, with what follows it. -/
def read? : List Char → Option (Reference × List Char)
  | ':' :: cs =>
    if 2 ≤ (cs.takeWhile Text.isNameChar).length then
      some (⟨cs.takeWhile Text.isNameChar, (readGroup (cs.dropWhile Text.isNameChar)).1⟩,
        (readGroup (cs.dropWhile Text.isNameChar)).2)
    else none
  | _ => none

/-- Reading a bracket group leaves a text that is no longer. -/
theorem length_readGroup_le (cs : List Char) : (readGroup cs).2.length ≤ cs.length := by
  unfold readGroup
  split
  · rename_i cs
    split
    · rename_i h
      have := (List.dropWhile_sublist (· != ']') (l := cs)).length_le
      simp only [h, List.length_cons] at this ⊢
      omega
    · exact Nat.le_refl _
  · exact Nat.le_refl _

/-- Reading a reference consumes at least one character. -/
theorem length_read?_lt {cs rest : List Char} {r : Reference} (h : read? cs = some (r, rest)) :
    rest.length < cs.length := by
  unfold read? at h
  split at h
  · rename_i cs
    split at h
    · have h' := congrArg Prod.snd (Option.some.inj h)
      simp only at h'
      subst h'
      have h₁ := length_readGroup_le (cs.dropWhile Text.isNameChar)
      have h₂ := (List.dropWhile_sublist Text.isNameChar (l := cs)).length_le
      simp only [List.length_cons]
      omega
    · cases h
  · cases h

end Reference

/-- Texts and references in turn, a text first and last. -/
structure Layout where
  first : List Char
  rest : List (Reference × List Char)
deriving DecidableEq, Repr

namespace Layout

/-- The layout with a character put in front of its first text. -/
def consChar (c : Char) (l : Layout) : Layout :=
  ⟨c :: l.first, l.rest⟩

/-- The layout with an empty text and a reference put in front of it. -/
def consReference (r : Reference) (l : Layout) : Layout :=
  ⟨[], (r, l.first) :: l.rest⟩

def read : List Char → Layout
  | [] => ⟨[], []⟩
  | c :: cs =>
    match _h : Reference.read? (c :: cs) with
    | some (r, rest) => consReference r (read rest)
    | none => consChar c (read cs)
termination_by cs => cs.length
decreasing_by
  · exact Reference.length_read?_lt _h
  · exact Nat.lt_succ_self _

def segments (l : Layout) : List Segment :=
  .text (String.ofList l.first) ::
    l.rest.flatMap fun p => [.token p.1.token, .text (String.ofList p.2)]

def raw (l : Layout) : List Char :=
  l.first ++ l.rest.flatMap fun p => p.1.raw ++ p.2

end Layout

def parseFormat (format : String) : List Segment :=
  (Layout.read format.toList).segments

def parseFormatValue : Value → Except Fault (List Segment)
  | .text format => .ok (parseFormat format)
  | v => .error (.unreadableFormat v)

end RequestLog
