import RequestLog.Time.Instant

/-!
Zones: local time as a host knows it. A zone has one offset from universal time for most of the
year and one for the time in which its clock is put forward. Which of them holds is asked of a
reading of the zone's own clock, so that a reading that occurs twice gets the same answer both
times.
-/
namespace RequestLog.Time

/-- The seconds of a day. -/
def daySeconds : Nat := 86400

/-- A zone. Its offsets are seconds by which it is ahead of universal time, less than a day. -/
structure Zone where
  standard : Int
  summer : Int
  /-- Whether the clock is put forward when it shows a number of seconds since the start of 1970;
  the host may be unable to tell. -/
  isSummer : Int → Except Fault Bool
  standard_lt : standard.natAbs < daySeconds := by decide
  summer_lt : summer.natAbs < daySeconds := by decide

namespace Zone

/-- The offset that holds when the clock of a zone shows a number of seconds. -/
def offsetAt (zone : Zone) (wall : Int) : Except Fault Int :=
  (zone.isSummer wall).map fun summer => if summer then zone.summer else zone.standard

/-- The moment of an instant at an offset, if its year is written. -/
def moment (offset micros : Int) : Except Fault Moment :=
  let t := Moment.ofMicros offset micros
  if isWrittenYear t.date.year then .ok t else .error .dateOutOfRange

/-- The moment of an instant in a zone. The clock shows the offset that holds at its standard
reading of the instant, and what is told as the offset is the one that holds at the reading that
results. -/
def time (zone : Zone) (micros : Int) : Except Fault Moment := do
  let seconds := micros / microsPerSecond
  let _ ← universal micros
  let _ ← zone.offsetAt seconds
  let _ ← moment zone.standard micros
  let offset ← zone.offsetAt (seconds + zone.standard)
  let t ← moment offset micros
  return { t with offset := ← zone.offsetAt (seconds + offset) }

end Zone

end RequestLog.Time
