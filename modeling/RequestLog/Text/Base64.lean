import RequestLog.Text.Utf8

/-!
Base64. The reader is strict: no character outside the alphabet, no padding before the end, nothing
after it. Padding behind a complete last group is let pass, and the low bits that a short last
group leaves over are not looked at.
-/
namespace RequestLog.Text.Base64

def sextet? (c : Char) : Option Nat :=
  let n := c.toNat
  if 65 ≤ n ∧ n ≤ 90 then some (n - 65)
  else if 97 ≤ n ∧ n ≤ 122 then some (n - 71)
  else if 48 ≤ n ∧ n ≤ 57 then some (n + 4)
  else if c = '+' then some 62
  else if c = '/' then some 63
  else none

/-- The character of the alphabet for a value below 64. -/
def letter (n : Nat) : Char :=
  if n < 26 then Char.ofNat (n + 65)
  else if n < 52 then Char.ofNat (n + 71)
  else if n < 62 then Char.ofNat (n - 4)
  else if n = 62 then '+'
  else '/'

def encode : List UInt8 → List Char
  | [] => []
  | [a] => [letter (a.toNat / 4), letter (a.toNat % 4 * 16), '=', '=']
  | [a, b] =>
    [letter (a.toNat / 4), letter (a.toNat % 4 * 16 + b.toNat / 16), letter (b.toNat % 16 * 4),
      '=']
  | a :: b :: c :: rest =>
    letter (a.toNat / 4) :: letter (a.toNat % 4 * 16 + b.toNat / 16) ::
      letter (b.toNat % 16 * 4 + c.toNat / 64) :: letter (c.toNat % 64) :: encode rest

def firstOctet (a b : Nat) : UInt8 := Utf8.octet (a * 4 + b / 16)

def secondOctet (b c : Nat) : UInt8 := Utf8.octet (b % 16 * 16 + c / 4)

def thirdOctet (c d : Nat) : UInt8 := Utf8.octet (c % 4 * 64 + d)

/-- The octets of a text from the start of a group on. -/
def groups? : List Char → Option (List UInt8)
  | a :: b :: c :: d :: rest =>
    if a = '=' then if (a :: b :: c :: d :: rest).all (· == '=') then some [] else none
    else do
      let a ← sextet? a
      let b ← sextet? b
      if c = '=' then if d = '=' ∧ rest = [] then some [firstOctet a b] else none
      else
        let c ← sextet? c
        if d = '=' then if rest = [] then some [firstOctet a b, secondOctet b c] else none
        else
          let d ← sextet? d
          return firstOctet a b :: secondOctet b c :: thirdOctet c d :: (← groups? rest)
  | short => if short.all (· == '=') then some [] else none

def decode? (cs : List Char) : Option (List UInt8) :=
  if cs.head? = some '=' then none else groups? cs

end RequestLog.Text.Base64
