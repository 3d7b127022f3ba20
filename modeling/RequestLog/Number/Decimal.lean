/-!
Numerals of whole numbers, and rounding of quotients to a whole number.
-/
namespace RequestLog.Number

/-- The digits of a number in a base from two to sixteen. -/
def digits (base n : Nat) : List Char :=
  Nat.toDigits base n

/-- How many decimal digits a number has; zero has one. -/
def digitCount (n : Nat) : Nat :=
  (digits 10 n).length

/-- The decimal numeral of a whole number, with a sign where it is negative. -/
def intDigits (n : Int) : List Char :=
  if n < 0 then '-' :: digits 10 n.natAbs else digits 10 n.natAbs

def intText (n : Int) : String :=
  String.ofList (intDigits n)

/-- The text behind as many copies of `fill` as bring it to the width. -/
def padLeft {α : Type} (width : Nat) (fill : α) (cs : List α) : List α :=
  List.replicate (width - cs.length) fill ++ cs

/-- The decimal numeral of a number with leading zeros up to the width. -/
def padded (width n : Nat) : List Char :=
  padLeft width '0' (digits 10 n)

/-- The quotient rounded to the nearest whole number, a tie going to the even one. -/
def roundDiv (num den : Nat) : Nat :=
  let q := num / den
  let r := num % den
  if 2 * r < den then q
  else if den < 2 * r then q + 1
  else if q % 2 = 0 then q else q + 1

end RequestLog.Number
