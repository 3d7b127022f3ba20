import RequestLog.Text.Utf8

/-!
Percent-encoding of Latin-1 text in paths.
-/
namespace RequestLog.Text.Percent

/-- The upper-case hexadecimal digit of a number below sixteen. -/
def hexDigit (n : Nat) : Char :=
  if n < 10 then Char.ofNat (48 + n) else Char.ofNat (55 + n)

/-- Whether a character stands for itself everywhere: a letter, a digit, or one of `_.-~`. -/
def isUnreserved (c : Char) : Bool :=
  c.isAlphanum || c == '_' || c == '.' || c == '-' || c == '~'

/-- The encoded form of a character up to U+00FF, those in `safe` standing for themselves. -/
def encodeChar (safe : List Char) (c : Char) : List Char :=
  if isUnreserved c || safe.contains c then [c]
  else ['%', hexDigit (c.toNat / 16), hexDigit (c.toNat % 16)]

/-- The encoded form of a text of characters up to U+00FF. -/
def encode (safe cs : List Char) : List Char :=
  cs.flatMap (encodeChar safe)

def hexValue? (c : Char) : Option Nat :=
  let n := c.toNat
  if 48 ≤ n ∧ n ≤ 57 then some (n - 48)
  else if 65 ≤ n ∧ n ≤ 70 then some (n - 55)
  else if 97 ≤ n ∧ n ≤ 102 then some (n - 87)
  else none

/-- The text of an encoded form: each percent sign with two hexadecimal digits is the character up
to U+00FF that they number, and all else stands for itself. -/
def decode : List Char → List Char
  | '%' :: a :: b :: rest =>
    match hexValue? a, hexValue? b with
    | some x, some y => Char.ofNat (16 * x + y) :: decode rest
    | _, _ => '%' :: decode (a :: b :: rest)
  | c :: rest => c :: decode rest
  | [] => []

end RequestLog.Text.Percent
