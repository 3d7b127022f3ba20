import RequestLog.Proofs.Time.Readings
import RequestLog.Proofs.Time.Rounding

/-!
What the texts of dates show. The forms write a time exactly if its year is written, and what they
write is read back as the second, or the thousandth of a second, of the time. In the local time of
a zone this depends on whether the zone tells the same offset for the reading that is shown.
-/
namespace RequestLog.Time

variable {time : Value} {form : DateForm} {micros offset : Int} {text : String}

/-- A time that has a moment in universal time, with its microseconds. -/
def Accepted (time : Value) (micros : Int) : Prop :=
  microsOfValue time = .ok micros ∧ ∃ t, universal micros = .ok t

theorem accepted_iff : Accepted time micros ↔ microsOfValue time = .ok micros ∧
    IsWritten micros := by
  simp [Accepted, universal_eq_ok_iff]

theorem dateText_eq_ok_iff : dateText form time = .ok text ↔
    ∃ micros, Accepted time micros ∧ text = form.write (Moment.ofMicros 0 micros) := by
  simp only [dateText, bind_eq_ok, accepted_iff, universal_eq_ok_iff]
  constructor
  · rintro ⟨micros, hmicros, t, ⟨hwritten, rfl⟩, h⟩
    cases h
    exact ⟨micros, ⟨hmicros, hwritten⟩, rfl⟩
  · rintro ⟨micros, ⟨hmicros, hwritten⟩, rfl⟩
    exact ⟨micros, hmicros, _, ⟨hwritten, rfl⟩, rfl⟩

theorem Accepted.dateText (h : Accepted time micros) (form : DateForm) :
    dateText form time = .ok (form.write (Moment.ofMicros 0 micros)) :=
  dateText_eq_ok_iff.mpr ⟨micros, h, rfl⟩

/-- A date in local time is written of the reading at the offset that holds at the standard
reading, with the offset that holds at the reading itself. -/
theorem localDateText_eq_ok {zone : Zone} (h : localDateText zone time = .ok text) :
    ∃ micros ahead told, Accepted time micros ∧
      zone.offsetAt (micros / microsPerSecond + zone.standard) = .ok ahead ∧
      zone.offsetAt (micros / microsPerSecond + ahead) = .ok told ∧
      isWrittenYear (Moment.ofMicros ahead micros).date.year = true ∧
      text = DateForm.clf.write { Moment.ofMicros ahead micros with offset := told } := by
  simp only [localDateText, bind_eq_ok] at h
  obtain ⟨micros, hmicros, t, ht, htext⟩ := h
  obtain ⟨ahead, told, hwritten, hahead, htold, hyear, rfl⟩ := Zone.time_eq_ok ht
  cases htext
  exact ⟨micros, ahead, told, accepted_iff.mpr ⟨hmicros, hwritten⟩, hahead, htold, hyear, rfl⟩

namespace Moment

variable {t u : Moment}

theorem year_nonneg (h : isWrittenYear t.date.year = true) : 0 ≤ t.date.year := by
  simp only [isWrittenYear, Bool.and_eq_true, decide_eq_true_eq] at h
  omega

/-- The thousandths of a second of an instant are those of its second and those of its moment. -/
theorem millis_ofMicros (offset micros : Int) :
    micros / microsPerSecond * 1000 + ((ofMicros offset micros).micro / 1000 : Nat) =
      micros / 1000 := by
  have hmicro := micro_ofMicros offset micros
  simp only [microsPerSecond] at hmicro ⊢
  omega

/-- The common log format shows nothing of an instant but its second. -/
theorem clf_congr {micros' : Int} (h : micros / microsPerSecond = micros' / microsPerSecond) :
    (ofMicros offset micros).clf = (ofMicros offset micros').clf := by
  rw [ofMicros_eq h]
  rfl

/-- The ISO form shows nothing of an instant but its thousandth of a second. -/
theorem iso_congr {micros' : Int} (h : micros / 1000 = micros' / 1000) :
    (ofMicros offset micros).iso = (ofMicros offset micros').iso := by
  have hmillis := millis_ofMicros offset micros
  have hmillis' := millis_ofMicros offset micros'
  have hseconds : micros / microsPerSecond = micros' / microsPerSecond := by
    simp only [microsPerSecond]
    omega
  have hmilli : (ofMicros offset micros).micro / 1000 = (ofMicros offset micros').micro /
      1000 := by
    omega
  unfold iso
  rw [hmilli, ofMicros_eq hseconds]
  rfl

end Moment

/-- A date in the common log format is read as the second of the time put forward by the offset of
the reading, with the offset that is told. -/
theorem readClf?_told (told : Int) (htold : told.natAbs < 86400)
    (hyear : isWrittenYear (Moment.ofMicros offset micros).date.year = true) :
    ∃ s, readClf?
        (DateForm.clf.write { Moment.ofMicros offset micros with offset := told }).toList =
        some (s, told) ∧ s.Valid ∧ s.toSeconds = micros / microsPerSecond + offset := by
  have hvalid := Moment.valid_stamp offset micros
  have hseconds := Moment.toSeconds_stamp offset micros
  refine ⟨(Moment.ofMicros offset micros).stamp, ?_, hvalid, by omega⟩
  rw [DateForm.write, String.toList_ofList]
  exact Moment.readClf?_clf (t := { Moment.ofMicros offset micros with offset := told })
    hvalid.date (Moment.year_nonneg hyear) htold

namespace Accepted

variable {other : Value} {micros' : Int}

theorem isWrittenYear (h : Accepted time micros) :
    isWrittenYear (Moment.ofMicros 0 micros).date.year = true :=
  (Moment.isWrittenYear_iff micros).mpr (accepted_iff.mp h).2

theorem readClf? (h : Accepted time micros) :
    ∃ s, readClf? (DateForm.clf.write (Moment.ofMicros 0 micros)).toList = some (s, 0) ∧ s.Valid ∧
      s.toSeconds = micros / microsPerSecond := by
  have htold := readClf?_told 0 (by decide) h.isWrittenYear
  rwa [add_zero] at htold

theorem readWeb? (h : Accepted time micros) :
    ∃ s, readWeb? (DateForm.web.write (Moment.ofMicros 0 micros)).toList =
        some (weekday s.date.dayCount, s) ∧ s.Valid ∧ s.toSeconds = micros / microsPerSecond := by
  have hvalid := Moment.valid_stamp 0 micros
  have hweekday := Moment.weekday_ofMicros 0 micros
  have hseconds := Moment.toSeconds_stamp 0 micros
  rw [sub_zero] at hseconds
  refine ⟨(Moment.ofMicros 0 micros).stamp, ?_, hvalid, hseconds⟩
  rw [DateForm.write, String.toList_ofList, Moment.readWeb?_web hvalid.date
    (Moment.year_nonneg h.isWrittenYear) (by rw [hweekday]; exact Moment.weekday_lt _), hweekday]
  rfl

theorem readIso? (h : Accepted time micros) :
    ∃ s milli, readIso? (DateForm.iso.write (Moment.ofMicros 0 micros)).toList = some (s, milli) ∧
      s.Valid ∧ milli < 1000 ∧ s.toSeconds * 1000 + milli = micros / 1000 := by
  have hvalid := Moment.valid_stamp 0 micros
  have hmicro := Moment.micro_ofMicros 0 micros
  have hmillis := Moment.millis_ofMicros 0 micros
  have hseconds := Moment.toSeconds_stamp 0 micros
  rw [sub_zero] at hseconds
  refine ⟨(Moment.ofMicros 0 micros).stamp, (Moment.ofMicros 0 micros).micro / 1000, ?_, hvalid,
    ?_, ?_⟩
  · rw [DateForm.write, String.toList_ofList]
    exact Moment.readIso?_iso (Moment.year_nonneg h.isWrittenYear)
  · simp only [microsPerSecond] at hmicro
    omega
  · rw [hseconds, hmillis]

/-- Two times have the same date in the common log format exactly if they are in the same
second. -/
theorem clf_eq_iff (h : Accepted time micros) (h' : Accepted other micros') :
    Time.dateText .clf time = Time.dateText .clf other ↔
      micros / microsPerSecond = micros' / microsPerSecond := by
  rw [h.dateText, h'.dateText]
  constructor
  · intro heq
    obtain ⟨s, hs, -, hseconds⟩ := h.readClf?
    obtain ⟨s', hs', -, hseconds'⟩ := h'.readClf?
    rw [Except.ok.inj heq, hs'] at hs
    cases hs
    exact hseconds.symm.trans hseconds'
  · intro heq
    simp only [DateForm.write, Moment.clf_congr heq]

/-- Two times have the same date in ISO form exactly if they are in the same thousandth of a
second. -/
theorem iso_eq_iff (h : Accepted time micros) (h' : Accepted other micros') :
    Time.dateText .iso time = Time.dateText .iso other ↔ micros / 1000 = micros' / 1000 := by
  rw [h.dateText, h'.dateText]
  constructor
  · intro heq
    obtain ⟨s, milli, hs, -, -, hmillis⟩ := h.readIso?
    obtain ⟨s', milli', hs', -, -, hmillis'⟩ := h'.readIso?
    rw [Except.ok.inj heq, hs'] at hs
    cases hs
    exact hmillis.symm.trans hmillis'
  · intro heq
    simp only [DateForm.write, Moment.iso_congr heq]

end Accepted

/-- In local time, the fields less the offset by which the zone is ahead at its standard reading
are the second of the time. Less the offset that is told they are it exactly if that is the same
offset, which it is where the zone has but one. -/
theorem readClf?_of_localDateText {zone : Zone} {clf : String} (h : Accepted time micros)
    (htext : localDateText zone time = .ok clf) : ∃ s ahead told,
      readClf? clf.toList = some (s, told) ∧ s.Valid ∧
      zone.offsetAt (micros / microsPerSecond + zone.standard) = .ok ahead ∧
      s.toSeconds - ahead = micros / microsPerSecond ∧ zone.offsetAt s.toSeconds = .ok told ∧
      (s.toSeconds - told = micros / microsPerSecond ↔ told = ahead) ∧
      (zone.summer = zone.standard → told = ahead) := by
  obtain ⟨micros', ahead, told, h', hahead, htold, hyear, rfl⟩ := localDateText_eq_ok htext
  obtain rfl : micros = micros' := Except.ok.inj (h.1.symm.trans h'.1)
  obtain ⟨hsame, hlt⟩ := Zone.offsetAt_eq_ok htold
  obtain ⟨s, hread, hvalid, hseconds⟩ := readClf?_told told hlt hyear
  refine ⟨s, ahead, told, hread, hvalid, hahead, by omega, hseconds ▸ htold, by omega, ?_⟩
  intro hone
  have hother := (Zone.offsetAt_eq_ok hahead).1
  omega

/-- The dates of a time lose nothing: the common log format and that of web messages show a valid
date and time of day that denote its second, with the day of the week of that date, and the ISO
form its thousandth of a second. Its microseconds are a whole number that is nearest to its exact
seconds but for the rounding of a product. In the local time of a zone, what is shown denotes the
same second by the offset that holds at the zone's standard reading, and by the offset that is told
exactly if that is the same. -/
theorem dateTexts_lossless (h : Accepted time micros) :
    (∃ q, seconds? time = some q ∧ |(micros : ℚ) - q * 1000000| ≤ 1 / 2 + 1 / 2 ^ 34) ∧
    (∃ clf s, dateText .clf time = .ok clf ∧ readClf? clf.toList = some (s, 0) ∧ s.Valid ∧
      s.toSeconds = micros / microsPerSecond) ∧
    (∃ web s, dateText .web time = .ok web ∧
      readWeb? web.toList = some (weekday s.date.dayCount, s) ∧ s.Valid ∧
      s.toSeconds = micros / microsPerSecond) ∧
    (∃ iso s milli, dateText .iso time = .ok iso ∧ readIso? iso.toList = some (s, milli) ∧
      s.Valid ∧
      milli < 1000 ∧ s.toSeconds * 1000 + milli = micros / 1000) ∧
    (∀ (zone : Zone) clf, localDateText zone time = .ok clf → ∃ s ahead told,
      readClf? clf.toList = some (s, told) ∧ s.Valid ∧
      zone.offsetAt (micros / microsPerSecond + zone.standard) = .ok ahead ∧
      s.toSeconds - ahead = micros / microsPerSecond ∧ zone.offsetAt s.toSeconds = .ok told ∧
      (s.toSeconds - told = micros / microsPerSecond ↔ told = ahead) ∧
      (zone.summer = zone.standard → told = ahead)) ∧
    ∀ other micros', Accepted other micros' →
      (dateText .clf time = dateText .clf other ↔
        micros / microsPerSecond = micros' / microsPerSecond) ∧
      (dateText .iso time = dateText .iso other ↔ micros / 1000 = micros' / 1000) := by
  obtain ⟨clf, hclf⟩ := h.readClf?
  obtain ⟨web, hweb⟩ := h.readWeb?
  obtain ⟨iso, milli, hiso⟩ := h.readIso?
  refine ⟨micros_near h.1, ⟨_, clf, h.dateText .clf, hclf⟩, ⟨_, web, h.dateText .web, hweb⟩,
    ⟨_, iso, milli, h.dateText .iso, hiso⟩, ?_, ?_⟩
  · intro zone text htext
    exact readClf?_of_localDateText h htext
  · intro other micros' h'
    exact ⟨h.clf_eq_iff h', h.iso_eq_iff h'⟩

/-- The last second of a leap day is read back, and it is not written as the second after it is. -/
theorem dateTexts_lossless_leapDay :
    (∃ clf s, dateText .clf (.int 951868799) = .ok clf ∧ readClf? clf.toList = some (s, 0) ∧
      s.Valid ∧ s.toSeconds = 951868799) ∧
    dateText .clf (.int 951868799) ≠ dateText .clf (.int 951868800) := by
  have h : Accepted (.int 951868799) 951868799000000 :=
    accepted_iff.mpr ⟨rfl, by decide, by decide⟩
  have h' : Accepted (.int 951868800) 951868800000000 :=
    accepted_iff.mpr ⟨rfl, by decide, by decide⟩
  obtain ⟨-, hclf, -, -, -, hsame⟩ := dateTexts_lossless h
  constructor
  · exact hclf
  · intro heq
    exact absurd ((hsame _ _ h').1.mp heq) (by decide)

/-- A zone whose clock is put back from an hour to the one before at the end of a summer. -/
def autumnZone : Zone where
  standard := 3600
  summer := 7200
  isSummer wall := .ok (wall < 1635649200)

/-- A time is not always written by the microsecond nearest to it: 999.5 microseconds, less a
little that only a double-precision number shows, are written as a whole thousandth of a second.
Nor does what is shown less the offset told always denote the second of the time: half an hour
after the end of a summer, local time is still put forward and told to be standard. -/
theorem dateTexts_miss :
    (∃ q, seconds? (.float 0.0009995) = some q ∧ |(999 : ℚ) - q * 1000000| < 1 / 2 ∧
      dateText .iso (.float 0.0009995) = .ok "1970-01-01T00:00:00.001Z") ∧
    localDateText autumnZone (.int 1635643800) = .ok "31/Oct/2021:03:30:00 +0100" ∧
    ∃ s, readClf? "31/Oct/2021:03:30:00 +0100".toList = some (s, 3600) ∧
      s.toSeconds - 3600 = 1635643800 + 3600 := by
  have hread : Number.read 0.0009995 = .finite ⟨false, 4609380175418174, -62⟩ := by decide +kernel
  have hmicros : microsOfValue (.float 0.0009995) = .ok 1000 := by
    simp only [microsOfValue, microsOfFloat, hread]
    rfl
  have hlocal : localDateText autumnZone (.int 1635643800) = .ok "31/Oct/2021:03:30:00 +0100" :=
    rfl
  have haccepted : Accepted (.int 1635643800) 1635643800000000 :=
    accepted_iff.mpr ⟨rfl, by decide, by decide⟩
  obtain ⟨s, ahead, told, hs, -, hahead, hseconds, htold, -⟩ :=
    readClf?_of_localDateText haccepted hlocal
  cases hahead
  have hshown : s.toSeconds = 1635651000 := by
    simp only [microsPerSecond, autumnZone] at hseconds
    simpa using eq_add_of_sub_eq hseconds
  rw [hshown] at htold
  cases htold
  refine ⟨⟨_, by rw [seconds?, hread], ?_, ?_⟩, hlocal, s, hs, by rw [hshown]; rfl⟩
  · norm_num [Number.Binary.toRat, abs_lt]
  · exact dateText_eq_ok_iff.mpr ⟨1000, accepted_iff.mpr ⟨hmicros, by decide, by decide⟩, rfl⟩

end RequestLog.Time
