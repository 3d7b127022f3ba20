import RequestLog.Number.Decimal
import RequestLog.Text.Blank
import RequestLog.Text.Quoted
import RequestLog.Text.Utf8

/-!
Character sets of a log, and what becomes of the characters that a set does not have. These are the
sets and treatments that every host has; a host may know further ones.
-/
namespace RequestLog.Text

/-- A character set in which lines may be written. -/
inductive Charset where
  | utf8 | ascii | latin1 | utf16le | utf16be | utf32be
deriving DecidableEq, Repr

/-- What to write for a character that the set does not have. -/
inductive Unencodable where
  /-- Refuse the text. -/
  | strict
  /-- Leave the character out. -/
  | ignore
  /-- A question mark. -/
  | replace
  /-- The numeric escape of the character. -/
  | escape
  /-- A numeric character reference. -/
  | reference
  /-- A treatment for halves of characters that stand alone; for a character the text is
  refused. -/
  | halves
deriving DecidableEq, Repr

namespace Charset

/-- Whether a character stays in the normal form of a name. -/
def isNamePart (c : Char) : Bool :=
  c.toNat < 128 && (c.isAlphanum || c == '.')

/-- The normal form of a name: its runs of letters, digits and dots in lower case, joined by
underscores. -/
def normalName (cs : List Char) : List Char :=
  let marked := cs.map fun c => if isNamePart c then c.toLower else '_'
  joinWith ['_'] ((splitOn '_' marked).filter (! ·.isEmpty))

/-- The names of the character sets in normal form, without dots. -/
def names : List (String × Charset) :=
  [("utf_8", .utf8), ("ascii", .ascii), ("latin_1", .latin1), ("utf_16_le", .utf16le),
   ("utf_16_be", .utf16be), ("utf_32_be", .utf32be)]

/-- Further names of the character sets in normal form; a dot in a name counts as an underscore. -/
def aliases : List (String × Charset) :=
  [("u8", .utf8), ("utf", .utf8), ("utf8", .utf8), ("utf8_ucs2", .utf8), ("utf8_ucs4", .utf8),
   ("cp65001", .utf8), ("646", .ascii), ("ansi_x3_4_1968", .ascii), ("ansi_x3.4_1986", .ascii),
   ("cp367", .ascii), ("csascii", .ascii), ("ibm367", .ascii), ("iso646_us", .ascii),
   ("iso_646.irv_1991", .ascii), ("iso_ir_6", .ascii), ("us", .ascii), ("us_ascii", .ascii),
   ("8859", .latin1), ("cp819", .latin1), ("csisolatin1", .latin1), ("ibm819", .latin1),
   ("iso8859", .latin1), ("iso8859_1", .latin1), ("iso_8859_1", .latin1),
   ("iso_8859_1_1987", .latin1), ("iso_ir_100", .latin1), ("l1", .latin1), ("latin", .latin1),
   ("latin1", .latin1), ("unicodebigunmarked", .utf16be), ("utf_16be", .utf16be),
   ("unicodelittleunmarked", .utf16le), ("utf_16le", .utf16le), ("utf_32be", .utf32be)]

def ofName? (name : String) : Option Charset :=
  let normal := String.ofList (normalName name.toList)
  let undotted := String.ofList ((normalName name.toList).map fun c => if c = '.' then '_' else c)
  (aliases.lookup normal).or ((aliases.lookup undotted).or (names.lookup normal))

/-- The first code point that a character set of single octets does not have. -/
def limit? : Charset → Option Nat
  | ascii => some 128
  | latin1 => some 256
  | _ => none

/-- The two octets of a number below 65536, the high one first. -/
def highFirst (n : Nat) : List UInt8 :=
  [Utf8.octet (n / 256), Utf8.octet (n % 256)]

def units16 (c : Char) : List Nat :=
  let n := c.toNat
  if n < 0x10000 then [n] else [0xD800 + (n - 0x10000) / 1024, 0xDC00 + (n - 0x10000) % 1024]

def encodeChar (charset : Charset) (c : Char) : List UInt8 :=
  match charset with
  | utf8 => Utf8.encodeChar c
  | ascii | latin1 => [Utf8.octet c.toNat]
  | utf16le => (units16 c).flatMap fun u => (highFirst u).reverse
  | utf16be => (units16 c).flatMap highFirst
  | utf32be => highFirst (c.toNat / 65536) ++ highFirst (c.toNat % 65536)

def has (charset : Charset) (c : Char) : Bool :=
  match charset.limit? with
  | none => true
  | some limit => c.toNat < limit

/-- The octets of a text all of whose characters the set has. -/
def encode (charset : Charset) (cs : List Char) : List UInt8 :=
  cs.flatMap charset.encodeChar

end Charset

/-- A stretch of characters that a character set does not have. -/
structure EncodeFault where
  charset : String
  text : String
  first : Nat
  past : Nat
  limit : Nat
deriving DecidableEq, Repr

def Unencodable.names : List (String × Unencodable) :=
  [("strict", .strict), ("ignore", .ignore), ("replace", .replace),
   ("backslashreplace", .escape), ("xmlcharrefreplace", .reference),
   ("surrogateescape", .halves), ("surrogatepass", .halves)]

def Unencodable.ofName? (name : String) : Option Unencodable :=
  names.lookup name

namespace Charset

/-- What is written for a character that the set does not have, if the text is not refused. -/
def substitute? (treatment : Unencodable) (c : Char) : Option (List Char) :=
  match treatment with
  | .ignore => some []
  | .replace => some ['?']
  | .escape => some (numericEscape c)
  | .reference => some ('&' :: '#' :: Number.digits 10 c.toNat ++ [';'])
  | .strict | .halves => none

/-- The text with every character that the set does not have replaced, if none of them has to be
refused. -/
def replaceMissing? (charset : Charset) (treatment : Unencodable) : List Char → Option (List Char)
  | [] => some []
  | c :: rest =>
    if charset.has c then (replaceMissing? charset treatment rest).map (c :: ·)
    else
      match substitute? treatment c with
      | none => none
      | some shown => (replaceMissing? charset treatment rest).map (shown ++ ·)

/-- The name under which a character set of single octets reports a character it does not have. -/
def reportName : Charset → String
  | ascii => "ascii"
  | latin1 => "latin-1"
  | _ => "utf-8"

/-- The first stretch of characters that the set does not have. -/
def firstMissing (charset : Charset) (cs : List Char) : EncodeFault :=
  let before := cs.takeWhile charset.has
  let stretch := (cs.drop before.length).takeWhile (! charset.has ·)
  ⟨charset.reportName, String.ofList cs, before.length, before.length + stretch.length,
    charset.limit?.getD 0⟩

/-- The octets of a text, or the first stretch for which it is refused. -/
def encodeWith (charset : Charset) (treatment : Unencodable) (cs : List Char) :
    Except EncodeFault (List UInt8) :=
  match replaceMissing? charset treatment cs with
  | some shown => .ok (charset.encode shown)
  | none => .error (charset.firstMissing cs)

end Charset

namespace Charset

/-- The character of a number, if a character has it. -/
def char? (n : Nat) : Option Char :=
  if n.isValidChar then some (Char.ofNat n) else none

/-- The text of 16-bit units, a high half followed by a low half being one character. -/
def ofUnits16? : List Nat → Option (List Char)
  | [] => some []
  | [u] => (char? u).map ([·])
  | u :: v :: rest =>
    if 0xD800 ≤ u ∧ u < 0xDC00 then
      if 0xDC00 ≤ v ∧ v < 0xE000 then do
        let c ← char? (0x10000 + (u - 0xD800) * 1024 + (v - 0xDC00))
        return c :: (← ofUnits16? rest)
      else none
    else do
      let c ← char? u
      return c :: (← ofUnits16? (v :: rest))

/-- Octets by twos as numbers, the high octet first. -/
def pairs? : List UInt8 → Option (List Nat)
  | [] => some []
  | [_] => none
  | a :: b :: rest => (pairs? rest).map fun ns => (a.toNat * 256 + b.toNat) :: ns

/-- Octets by twos as numbers, the low octet first. -/
def reversedPairs? : List UInt8 → Option (List Nat)
  | [] => some []
  | [_] => none
  | a :: b :: rest => (reversedPairs? rest).map fun ns => (b.toNat * 256 + a.toNat) :: ns

def ofQuads? : List Nat → Option (List Char)
  | [] => some []
  | [_] => none
  | a :: b :: rest => do
    let c ← char? (a * 65536 + b)
    return c :: (← ofQuads? rest)

/-- The text of octets all of which are valid in the character set. -/
def decode? (charset : Charset) (os : List UInt8) : Option (List Char) :=
  match charset with
  | utf8 => Utf8.decode? os
  | ascii => os.mapM fun o => if o.toNat < 128 then some (Char.ofNat o.toNat) else none
  | latin1 => some (os.map fun o => Char.ofNat o.toNat)
  | utf16le => (reversedPairs? os).bind ofUnits16?
  | utf16be => (pairs? os).bind ofUnits16?
  | utf32be => (pairs? os).bind ofQuads?

end Charset

end RequestLog.Text
