import RequestLog.Fault
import RequestLog.Number.Binary
import RequestLog.Time.Civil

/-!
Instants: whole microseconds since the start of 1970, as they are read from the time of a clock,
and the date and time of day of an instant.
-/
namespace RequestLog.Time

def microsPerSecond : Int := 1000000

/-- Whether a number of seconds can be counted in 64 bits. -/
def inClockRange (seconds : Int) : Bool :=
  -(Int.pow 2 63) ≤ seconds && seconds < Int.pow 2 63

/-- Whether a double-precision number of seconds passes for one that can be counted in 64 bits: the
upper bound is compared as the nearest such number, which is the bound's successor. -/
def passesClockRange (seconds : Int) : Bool :=
  -(Int.pow 2 63) ≤ seconds && seconds ≤ Int.pow 2 63

/-- The number of significant bits of a double-precision number. -/
def significantBits : Nat := 53

/-- A whole number rounded to as many significant bits as a double-precision number has, a tie
going to the even one. -/
def roundBits (n : Nat) : Nat :=
  let unit := Nat.pow 2 (Nat.log2 n + 1 - significantBits)
  Number.roundDiv n unit * unit

/-- The microseconds of a fraction of seconds: those of its whole part, and those of what is left
over. The latter are multiplied as double-precision numbers are, and the product rounded half to
even. -/
def microsOfFraction (num den : Nat) : Nat :=
  num / den * 1000000 + Number.roundDiv (roundBits (num % den * 1000000)) den

/-- The microseconds of a finite time. -/
def microsOf (b : Number.Binary) : Int :=
  let micros := Int.ofNat (microsOfFraction b.num b.den)
  if b.negative then -micros else micros

def microsOfFloat (x : Float) : Except Fault Int :=
  match Number.read x with
  | .notANumber => .error .timeNotNumber
  | .infinite _ => .error .timeOutOfRange
  | .finite b =>
    if passesClockRange (microsOf b / microsPerSecond) then .ok (microsOf b)
    else .error .timeOutOfRange

def microsOfValue : Value → Except Fault Int
  | .float x => microsOfFloat x
  | v =>
    match v.whole? with
    | some n => if inClockRange n then .ok (n * microsPerSecond) else .error .timeOutOfRange
    | none => .error (.notWhole v)

/-- A date and a time of day, with the seconds by which they are ahead of universal time. -/
structure Moment where
  date : Date
  weekday : Nat
  secondOfDay : Nat
  micro : Nat
  offset : Int
deriving DecidableEq, Repr

namespace Moment

def hour (t : Moment) : Nat := t.secondOfDay / 3600

def minute (t : Moment) : Nat := t.secondOfDay / 60 % 60

def second (t : Moment) : Nat := t.secondOfDay % 60

/-- The moment of an instant at an offset from universal time. -/
def ofMicros (offset micros : Int) : Moment :=
  let seconds := micros / microsPerSecond + offset
  { date := Date.ofDays (seconds / 86400)
    weekday := Time.weekday (seconds / 86400)
    secondOfDay := (seconds % 86400).toNat
    micro := (micros % microsPerSecond).toNat
    offset := offset }

end Moment

/-- The first and last year that is written. -/
def isWrittenYear (year : Int) : Bool :=
  1 ≤ year && year ≤ 9999

/-- The moment of an instant in universal time, if its year is written. The fault names the year as
32 bits hold it. -/
def universal (micros : Int) : Except Fault Moment :=
  let t := Moment.ofMicros 0 micros
  if Int.pow 2 31 ≤ t.date.year - 1900 ∨
    t.date.year - 1900 < -(Int.pow 2 31) then .error .yearOverflow
  else if isWrittenYear t.date.year then .ok t
  else .error (.yearOutOfRange (Int.bmod t.date.year (Nat.pow 2 32)))

end RequestLog.Time
