import RequestLog.Proofs.Actions
import RequestLog.Proofs.Time.Calendar
import RequestLog.Time.Zone

/-!
Moments of instants. A moment denotes the second of its instant whatever its offset is, its date is
valid and its time of day is one of a day; moments are written exactly from the year 1 to the year
9999. In a zone, the offset that a moment is told with may be another one than that by which it is
ahead.
-/
namespace RequestLog.Time

variable {micros offset : Int} {t : Moment}

/-- A valid date and a time of day, as they are read from a text. -/
structure Stamp where
  date : Date
  hour : Nat
  minute : Nat
  second : Nat
deriving DecidableEq, Repr

namespace Stamp

structure Valid (s : Stamp) : Prop where
  date : s.date.Valid
  hour : s.hour < 24
  minute : s.minute < 60
  second : s.second < 60

/-- The seconds since the start of 1970 that a date and a time of day denote in universal time. -/
def toSeconds (s : Stamp) : Int :=
  s.date.dayCount * 86400 + s.hour * 3600 + s.minute * 60 + s.second

end Stamp

/-- Whether the year of an instant is written in universal time. -/
def IsWritten (micros : Int) : Prop :=
  -62135596800 ≤ micros / microsPerSecond ∧ micros / microsPerSecond < 253402300800

namespace Moment

/-- The date and the time of day of a moment. -/
def stamp (t : Moment) : Stamp := ⟨t.date, t.hour, t.minute, t.second⟩

theorem toDays_ofMicros (offset micros : Int) :
    (ofMicros offset micros).date.toDays = (micros / microsPerSecond + offset) / 86400 := by
  simp only [ofMicros, toDays_ofDays]

theorem secondOfDay_ofMicros (offset micros : Int) :
    ((ofMicros offset micros).secondOfDay : Int) = (micros / microsPerSecond + offset) %
    86400 := by
  simp only [ofMicros]
  omega

theorem secondOfDay_lt (offset micros : Int) : (ofMicros offset micros).secondOfDay < 86400 := by
  have := secondOfDay_ofMicros offset micros
  omega

theorem valid_stamp (offset micros : Int) : (ofMicros offset micros).stamp.Valid where
  date := valid_ofDays _
  hour := by
    have := secondOfDay_lt offset micros
    simp only [stamp, hour]
    omega
  minute := by
    simp only [stamp, minute]
    omega
  second := by
    simp only [stamp, second]
    omega

/-- Whatever the offset is, a moment denotes the second of its instant. -/
theorem toSeconds_stamp (offset micros : Int) :
    (ofMicros offset micros).stamp.toSeconds - offset = micros / microsPerSecond := by
  simp only [stamp, Stamp.toSeconds, hour, minute, second, ofMicros, dayCount_ofDays]
  omega

theorem weekday_lt (days : Int) : Time.weekday days < 7 := by
  unfold Time.weekday
  omega

theorem weekday_ofMicros (offset micros : Int) :
    (ofMicros offset micros).weekday = Time.weekday (ofMicros offset micros).date.dayCount := by
  simp only [ofMicros, dayCount_ofDays]

theorem micro_ofMicros (offset micros : Int) :
    ((ofMicros offset micros).micro : Int) = micros % microsPerSecond := by
  have hpositive : 0 < microsPerSecond := by decide
  simp only [ofMicros]
  exact Int.toNat_of_nonneg (Int.emod_nonneg _ hpositive.ne')

/-- Instants of the same second have the same moment but for their microseconds. -/
theorem ofMicros_eq {micros' : Int} (h : micros / microsPerSecond = micros' / microsPerSecond) :
    ofMicros offset micros = { ofMicros offset micros' with
      micro := (ofMicros offset micros).micro } := by
  simp only [ofMicros, h]

theorem isWrittenYear_iff (micros : Int) :
    isWrittenYear (ofMicros 0 micros).date.year = true ↔ IsWritten micros := by
  have hfirst : newYear 1 = -719162 := by decide
  have hlast : newYear 10000 = 2932897 := by decide
  have h₁ := le_year_ofDays_iff 1 (micros / microsPerSecond / 86400)
  have h₂ := le_year_ofDays_iff 10000 (micros / microsPerSecond / 86400)
  simp only [isWrittenYear, ofMicros, IsWritten, Bool.and_eq_true, decide_eq_true_eq, add_zero]
  omega

end Moment

/-- An instant has a moment in universal time exactly if its year is written. -/
theorem universal_eq_ok_iff : universal micros = .ok t ↔ IsWritten micros ∧
    t = Moment.ofMicros 0 micros := by
  have hyear := Moment.isWrittenYear_iff micros
  unfold universal
  simp only
  split
  · next h =>
    have hnot : ¬ isWrittenYear (Moment.ofMicros 0 micros).date.year = true := by
      simp only [isWrittenYear, Bool.and_eq_true, decide_eq_true_eq]
      have : Int.pow 2 31 = 2147483648 := rfl
      omega
    simp [← hyear, hnot]
  · split
    · next h => simp [← hyear, h, eq_comm]
    · next h => simp [← hyear, h]

namespace Zone

variable {zone : Zone} {wall : Int}

/-- The offset at a reading is one of the two of the zone, and less than a day. -/
theorem offsetAt_eq_ok (h : zone.offsetAt wall = .ok offset) :
    (offset = zone.summer ∨ offset = zone.standard) ∧ offset.natAbs < 86400 := by
  simp only [offsetAt, map_eq_ok] at h
  obtain ⟨summer, -, rfl⟩ := h
  cases summer
  · exact ⟨.inr rfl, zone.standard_lt⟩
  · exact ⟨.inl rfl, zone.summer_lt⟩

theorem moment_eq_ok_iff : moment offset micros = .ok t ↔
    t = Moment.ofMicros offset micros ∧ isWrittenYear t.date.year = true := by
  simp only [moment]
  split
  · next hyear => exact ⟨by rintro ⟨⟩; exact ⟨rfl, hyear⟩, by rintro ⟨rfl, -⟩; rfl⟩
  · next hyear => exact ⟨by rintro ⟨⟩, by rintro ⟨rfl, h⟩; exact absurd h hyear⟩

/-- A moment in a zone is the one of its instant at the offset that holds at the standard reading,
beside the offset that holds at the reading that it shows. -/
theorem time_eq_ok (h : zone.time micros = .ok t) : ∃ ahead told, IsWritten micros ∧
    zone.offsetAt (micros / microsPerSecond + zone.standard) = .ok ahead ∧
    zone.offsetAt (micros / microsPerSecond + ahead) = .ok told ∧
    isWrittenYear (Moment.ofMicros ahead micros).date.year = true ∧
    t = { Moment.ofMicros ahead micros with offset := told } := by
  simp only [time, bind_eq_ok] at h
  obtain ⟨u, hu, -, -, -, -, ahead, hahead, t', ht', told, htold, ht⟩ := h
  obtain ⟨rfl, hyear⟩ := moment_eq_ok_iff.mp ht'
  cases ht
  exact ⟨ahead, told, (universal_eq_ok_iff.mp hu).1, hahead, htold, hyear, rfl⟩

end Zone

end RequestLog.Time
