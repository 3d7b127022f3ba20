import RequestLog.Text.Blank
import RequestLog.Text.Digit

/-!
Whole numbers written in a text: white space around them, one sign, decimal digits, and single
underscores between digits. At most 4300 digits are read, leading zeros counted.
-/
namespace RequestLog.Number

open RequestLog.Text

/-- Why a text is not read as a whole number. -/
inductive LiteralFault where
  | malformed
  | tooLong (digits : Nat)
deriving DecidableEq, Repr

def maxDigits : Nat := 4300

/-- White space that may stand around a numeral; the four ASCII information separators may not. -/
def isMargin (c : Char) : Bool :=
  isBlank c && ! (Nat.ble 28 c.toNat && Nat.ble c.toNat 31)

/-- ASCII white space that may stand around a numeral. -/
def isAsciiMargin (c : Char) : Bool :=
  Nat.ble c.toNat 127 && isMargin c

/-- The digits at the front of a text with what follows them; `needed` says that a digit has to
stand first, as it has at the start and after an underscore. -/
def readDigits (digit? : Char → Option Nat) (needed : Bool) :
    List Char → Option (List Nat × List Char)
  | [] => if needed then none else some ([], [])
  | c :: rest =>
    match digit? c with
    | some d => (readDigits digit? false rest).map fun (ds, after) => (d :: ds, after)
    | none =>
      if needed then none
      else if c = '_' then readDigits digit? true rest
      else some ([], c :: rest)

def ofDigits (ds : List Nat) : Nat :=
  ds.foldl (fun n d => 10 * n + d) 0

/-- The sign in front of a numeral, as whether it is negative, with what follows. -/
def readSign : List Char → Bool × List Char
  | '-' :: rest => (true, rest)
  | '+' :: rest => (false, rest)
  | cs => (false, cs)

/-- The whole number that a text denotes, with the digits that `digit?` knows and the white space
that `margin` knows. -/
def parseWith (digit? : Char → Option Nat) (margin : Char → Bool) (cs : List Char) :
    Except LiteralFault Int :=
  let (negative, body) := readSign (cs.dropWhile margin)
  match readDigits digit? true body with
  | none => .error .malformed
  | some (ds, after) =>
    if maxDigits < ds.length then .error (.tooLong ds.length)
    else if after.all margin then
      .ok (if negative then -Int.ofNat (ofDigits ds) else Int.ofNat (ofDigits ds))
    else .error .malformed

/-- The whole number that a text denotes, in the digits of any script. -/
def parseInt (cs : List Char) : Except LiteralFault Int :=
  parseWith decimalDigit? isMargin cs

/-- The whole number that octets denote, in ASCII. -/
def parseOctets (octets : List UInt8) : Except LiteralFault Int :=
  parseWith asciiDigit? isAsciiMargin (octets.map fun o => Char.ofNat o.toNat)

end RequestLog.Number
