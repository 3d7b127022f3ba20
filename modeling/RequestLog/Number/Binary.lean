import RequestLog.Number.Decimal

/-!
Double-precision numbers as exact fractions, and their decimal texts: a fixed number of places, a
number of significant digits, and the fewest digits that read back as the same number.
-/
namespace RequestLog.Number

/-- The number `± mantissa * 2 ^ exponent`. -/
structure Binary where
  negative : Bool
  mantissa : Nat
  exponent : Int
deriving DecidableEq, Repr

/-- What the bits of a double-precision number stand for. -/
inductive Reading where
  | notANumber
  | infinite (negative : Bool)
  | finite (value : Binary)
deriving DecidableEq, Repr

/-- The reading of 64 bits: a sign, eleven bits of exponent and 52 bits of fraction. -/
def readBits (bits : Nat) : Reading :=
  let negative := bits / Nat.pow 2 63 % 2 == 1
  let exponent := bits / Nat.pow 2 52 % Nat.pow 2 11
  let fraction := bits % Nat.pow 2 52
  if exponent = 2047 then
    if fraction = 0 then .infinite negative else .notANumber
  else if exponent = 0 then .finite ⟨negative, fraction, -1074⟩
  else .finite ⟨negative, fraction + Nat.pow 2 52, Int.ofNat exponent - 1075⟩

def read (x : Float) : Reading :=
  readBits x.toBits.toNat

namespace Binary

def num (b : Binary) : Nat :=
  b.mantissa * Nat.pow 2 b.exponent.toNat

/-- The denominator of the magnitude as a fraction. -/
def den (b : Binary) : Nat :=
  Nat.pow 2 (-b.exponent).toNat

/-- The whole part, cut towards zero. -/
def truncate (b : Binary) : Int :=
  if b.negative then -Int.ofNat (b.num / b.den) else Int.ofNat (b.num / b.den)

def sign (b : Binary) : List Char :=
  if b.negative then ['-'] else []

end Binary

/-- A numeral cut before its last `places` digits by a point; without places the point is kept only
where `keepPoint` holds. -/
def placePoint (keepPoint : Bool) (places : Nat) (cs : List Char) : List Char :=
  let padded := padLeft (places + 1) '0' cs
  let whole := padded.take (padded.length - places)
  let part := padded.drop (padded.length - places)
  if places = 0 && ! keepPoint then whole else whole ++ '.' :: part

/-- The magnitude with a fixed number of places, rounded half to even. -/
def fixedPlaces (keepPoint : Bool) (places : Nat) (b : Binary) : List Char :=
  placePoint keepPoint places (digits 10 (roundDiv (b.num * Nat.pow 10 places) b.den))

/-- The largest `k` with `10 ^ k ≤ num / den`, for a positive fraction. -/
def decimalExponent (num den : Nat) : Int :=
  if den ≤ num then Int.ofNat (digitCount (num / den)) - 1
  else -Int.ofNat (digitCount ((den + num - 1) / num - 1))

/-- The decimal `digits * 10 ^ exponent`. -/
structure Decimal where
  digits : Nat
  exponent : Int
deriving DecidableEq, Repr

/-- The fraction `num / den` in units of `10 ^ unit`, as a fraction. -/
def inUnits (num den : Nat) (unit : Int) : Nat × Nat :=
  (num * Nat.pow 10 (-unit).toNat, den * Nat.pow 10 unit.toNat)

/-- A positive fraction rounded half to even to a number of significant digits. -/
def significant (count num den : Nat) : Decimal :=
  let unit := decimalExponent num den - Int.ofNat count + 1
  let (n, d) := inUnits num den unit
  let rounded := roundDiv n d
  if rounded = Nat.pow 10 count then ⟨Nat.pow 10 (count - 1), unit + 1⟩ else ⟨rounded, unit⟩

/-- Whether `c * 10 ^ unit` reads back as `b`: it lies between the midpoints to the neighbours of
`b`, the midpoints themselves included where the mantissa is even. -/
def readsBack (b : Binary) (c : Nat) (unit : Int) : Bool :=
  let low :=
    if b.mantissa = Nat.pow 2 52 && b.exponent != -1074 then 4 * b.mantissa - 1
    else 4 * b.mantissa - 2
  let high := 4 * b.mantissa + 2
  let quarter : Binary := ⟨false, 1, b.exponent - 2⟩
  let left := c * Nat.pow 10 unit.toNat * quarter.den
  let right := quarter.num * Nat.pow 10 (-unit).toNat
  if b.mantissa % 2 = 0 then Nat.ble (low * right) left && Nat.ble left (high * right)
  else Nat.blt (low * right) left && Nat.blt left (high * right)

/-- The nearest of the two neighbours of `b` on the grid of `10 ^ unit` that read back as `b`. -/
def shortestOnGrid? (b : Binary) (unit : Int) : Option Nat :=
  let (n, d) := inUnits b.num b.den unit
  let below := n / d
  match readsBack b below unit, readsBack b (below + 1) unit with
  | true, true => some (roundDiv n d)
  | true, false => some below
  | false, true => some (below + 1)
  | false, false => none

/-- The fewest digits, at least `17 - tries`, that read back as the number. -/
def shortestFrom (b : Binary) : Nat → Decimal
  | 0 => significant 17 b.num b.den
  | tries + 1 =>
    let unit := decimalExponent b.num b.den - Int.ofNat (16 - tries) + 1
    match shortestOnGrid? b unit with
    | some c => ⟨c, unit⟩
    | none => shortestFrom b tries

def Decimal.trim : Nat → Decimal → Decimal
  | 0, d => d
  | fuel + 1, d => if d.digits ≠ 0 && d.digits % 10 = 0 then trim fuel ⟨d.digits / 10,
      d.exponent + 1⟩ else d

/-- The fewest digits that read back as a positive number. -/
def shortest (b : Binary) : Decimal :=
  (shortestFrom b 16).trim 20

/-- An exponent with its mark, a sign and at least two digits. -/
def exponentPart (exponent : Int) : List Char :=
  'e' :: (if exponent < 0 then '-' else '+') :: padded 2 exponent.natAbs

/-- Digits with the point after the first one, and an exponent. -/
def scientific (keepPoint : Bool) (cs : List Char) (exponent : Int) : List Char :=
  (match cs with
    | [] => []
    | [c] => if keepPoint then [c, '.'] else [c]
    | c :: rest => c :: '.' :: rest) ++ exponentPart exponent

/-- Digits whose first one counts `10 ^ exponent`, written positionally; where no place follows the
point, `tail` stands for the point and what comes after it. -/
def positional (tail cs : List Char) (exponent : Int) : List Char :=
  if exponent < 0 then '0' :: '.' :: List.replicate (-exponent - 1).toNat '0' ++ cs
  else
    let whole := exponent.toNat + 1
    if cs.length ≤ whole then cs ++ List.replicate (whole - cs.length) '0' ++ tail
    else cs.take whole ++ '.' :: cs.drop whole

/-- The literal of a finite number: the fewest digits that read back, positional from `1e-4` up to
but not at `1e16`, with at least one place. -/
def finiteLiteral (b : Binary) : List Char :=
  b.sign ++
    if b.mantissa = 0 then ['0', '.', '0']
    else
      let d := shortest b
      let cs := digits 10 d.digits
      let exponent := d.exponent + Int.ofNat cs.length - 1
      if -4 ≤ exponent && exponent < 16 then positional ['.', '0'] cs exponent
      else scientific false cs exponent

def floatLiteral (x : Float) : String :=
  match read x with
  | .notANumber => "nan"
  | .infinite true => "-inf"
  | .infinite false => "inf"
  | .finite b => String.ofList (finiteLiteral b)

def fixedText (places : Nat) (x : Float) : String :=
  match read x with
  | .notANumber => "nan"
  | .infinite true => "-inf"
  | .infinite false => "inf"
  | .finite b => String.ofList (b.sign ++ fixedPlaces false places b)

end RequestLog.Number
