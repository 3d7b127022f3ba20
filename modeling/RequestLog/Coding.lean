import RequestLog.Fault

/-!
Codings: how the text of a line becomes octets. A coding is asked for by the names of a character
set and of a treatment for the characters that the set does not have. Some of each are the same
everywhere; the others belong to the host, which says which names it knows and what comes of a text
under them.
-/
namespace RequestLog

/-- The character sets and treatments that a host has beside those that are the same everywhere. -/
structure Codecs where
  charset : String → Bool
  treatment : String → Bool
  /-- What the host makes of a text, by the names of a character set and a treatment. -/
  encode : String → String → String → Except Fault (List UInt8)

/-- A character set and a treatment of missing characters, with the names under which they were
asked for. One that belongs to the host alone is left open here. -/
structure Coding where
  charsetName : String
  treatmentName : String
  charset : Option Text.Charset
  treatment : Option Text.Unencodable
  /-- What the host makes of a text where the character set or the treatment is its own. -/
  own : String → Except Fault (List UInt8)

namespace Coding

/-- The name of a character set where no other is given. -/
def defaultCharset : String := "utf-8"

/-- The name of a treatment where no other is given. -/
def defaultTreatment : String := "backslashreplace"

/-- The text of a name to be looked up, which has no null character. -/
def nameText (lookup : String) : Value → Except Fault String
  | .text name => if name.toList.contains (Char.ofNat 0) then .error .nullInName else .ok name
  | v => .error (.nameNotText lookup v)

/-- What a name stands for everywhere, or nothing if it stands for something of the host's own. A
name that stands for nothing at all is refused. -/
def findName {α : Type} (found : Option α) (own : Bool) (unknown : Fault) :
    Except Fault (Option α) :=
  if found.isSome || own then .ok found else .error unknown

def charsetOf (codecs : Codecs) (name : Value) : Except Fault (String × Option Text.Charset) := do
  let name ← nameText "lookup" name
  return (name, ← findName (Text.Charset.ofName? name) (codecs.charset name)
    (.unknownCharset name))

def treatmentOf (codecs : Codecs) (name : Value) :
    Except Fault (String × Option Text.Unencodable) := do
  let name ← nameText "lookup_error" name
  return (name,
    ← findName (Text.Unencodable.ofName? name) (codecs.treatment name) (.unknownTreatment name))

/-- The coding of two names, the character set being looked up first. -/
def ofNames (codecs : Codecs) (charset treatment : Value) : Except Fault Coding := do
  let (charsetName, charset) ← charsetOf codecs charset
  let (treatmentName, treatment) ← treatmentOf codecs treatment
  return ⟨charsetName, treatmentName, charset, treatment, codecs.encode charsetName treatmentName⟩

/-- The octets of a text. A treatment is only asked for if the character set lacks a character. -/
def encode (c : Coding) (s : String) : Except Fault (List UInt8) :=
  match c.charset, c.treatment with
  | some charset, some treatment => (charset.encodeWith treatment s.toList).mapError .unencodable
  | some charset, none =>
    if s.toList.all charset.has then .ok (charset.encode s.toList) else c.own s
  | none, _ => c.own s

end Coding

end RequestLog
