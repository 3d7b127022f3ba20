import RequestLog.Time.Zone

/-!
Dates as a log writes them: in the common log format, in ISO form to the millisecond, and as in the
headers of web messages. Only the ISO form leaves the year without leading zeros.
-/
namespace RequestLog.Time

open RequestLog.Number (padded digits)

def monthNames : List String :=
  ["Jan", "Feb", "Mar", "Apr", "May", "Jun", "Jul", "Aug", "Sep", "Oct", "Nov", "Dec"]

def weekdayNames : List String :=
  ["Mon", "Tue", "Wed", "Thu", "Fri", "Sat", "Sun"]

def monthName (month : Nat) : List Char :=
  (monthNames.getD (month - 1) "").toList

/-- The name of a day of the week counted from Monday as 0. -/
def weekdayName (day : Nat) : List Char :=
  (weekdayNames.getD day "").toList

namespace Moment

def clockText (t : Moment) : List Char :=
  padded 2 t.hour ++ ':' :: padded 2 t.minute ++ ':' :: padded 2 t.second

/-- The offset from universal time in hours and minutes, and seconds where these are left over. -/
def offsetText (t : Moment) : List Char :=
  let distance := t.offset.natAbs
  (if t.offset < 0 then '-' else '+') :: padded 2 (distance / 3600) ++
    padded 2 (distance / 60 % 60) ++ if distance % 60 = 0 then [] else padded 2 (distance % 60)

def clf (t : Moment) : List Char :=
  padded 2 t.date.day ++ '/' :: monthName t.date.month ++ '/' :: padded 4 t.date.year.toNat
    ++ ':' :: t.clockText ++ ' ' :: t.offsetText

def iso (t : Moment) : List Char :=
  digits 10 t.date.year.toNat ++ '-' :: padded 2 t.date.month ++ '-' :: padded 2 t.date.day
    ++ 'T' :: t.clockText ++ '.' :: padded 3 (t.micro / 1000) ++ ['Z']

def web (t : Moment) : List Char :=
  weekdayName t.weekday ++ ',' :: ' ' :: padded 2 t.date.day ++ ' ' :: monthName t.date.month
    ++ ' ' :: padded 4 t.date.year.toNat ++ ' ' :: t.clockText ++ " GMT".toList

end Moment

/-- The forms in which a date is written. -/
inductive DateForm where
  | clf | iso | web
deriving DecidableEq, Repr

namespace DateForm

def ofName? : String → Option DateForm
  | "clf" => some clf
  | "iso" => some iso
  | "web" => some web
  | _ => none

def write : DateForm → Moment → String
  | clf, t => String.ofList t.clf
  | iso, t => String.ofList t.iso
  | web, t => String.ofList t.web

end DateForm

def dateText (form : DateForm) (time : Value) : Except Fault String := do
  return form.write (← universal (← microsOfValue time))

/-- The date of a time in the common log format, in the local time of a zone. -/
def localDateText (zone : Zone) (time : Value) : Except Fault String := do
  return DateForm.clf.write (← zone.time (← microsOfValue time))

end RequestLog.Time
