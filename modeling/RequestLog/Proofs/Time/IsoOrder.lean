import RequestLog.Proofs.Time.DateTexts

/-!
The order and the shape of dates in ISO form. Only the year is not padded, so that dates stand in
the order of their times where their years do as numerals.
-/
namespace RequestLog.Time

open RequestLog.Number (padded digits digitCount)

variable {time other : Value} {micros micros' : Int} {q q' : ℚ}

/-- The year of an instant in universal time. -/
def yearOf (micros : Int) : Nat := (Moment.ofMicros 0 micros).date.year.toNat

/-- A text with its digits made alike. -/
def shapeOf (cs : List Char) : List Char :=
  cs.map fun c => if c.isDigit then 'd' else c

theorem shapeOf_of_isDigit {cs : List Char} (h : ∀ c ∈ cs, c.isDigit = true) :
    shapeOf cs = List.replicate cs.length 'd' := by
  rw [shapeOf, List.map_eq_replicate_iff]
  intro c hc
  exact if_pos (h c hc)

theorem shapeOf_padded {width n : Nat} (hw : 0 < width) (h : n < 10 ^ width) :
    shapeOf (padded width n) = List.replicate width 'd' := by
  rw [shapeOf_of_isDigit fun _ => Number.isDigit_of_mem_padded, Number.length_padded hw h]

namespace Moment

variable {t u : Moment}

/-- What follows the year and its mark in the ISO form. -/
def isoTail (t : Moment) : List Char :=
  padded 2 t.date.month ++ '-' :: padded 2 t.date.day ++ 'T' :: t.clockText
    ++ '.' :: padded 3 (t.micro / 1000) ++ ['Z']

theorem iso_eq (t : Moment) : t.iso = digits 10 t.date.year.toNat ++ '-' :: t.isoTail := by
  simp [iso, isoTail]

/-- Moments whose numerals have their widths. -/
structure Narrow (t : Moment) : Prop where
  month : t.date.month < 10 ^ 2
  day : t.date.day < 10 ^ 2
  hour : t.hour < 10 ^ 2
  minute : t.minute < 10 ^ 2
  second : t.second < 10 ^ 2
  milli : t.micro / 1000 < 10 ^ 3

theorem narrow_ofMicros (offset micros : Int) : (ofMicros offset micros).Narrow := by
  obtain ⟨⟨-, hmonth, -, hday⟩, hhour, hminute, hsecond⟩ := valid_stamp offset micros
  have hmicro := micro_ofMicros offset micros
  have hlength : monthLength (ofMicros offset micros).date.year
      (ofMicros offset micros).date.month ≤ 31 := by
    unfold monthLength
    split_ifs <;> omega
  simp only [stamp, microsPerSecond] at *
  exact ⟨by omega, by omega, by omega, by omega, by omega, by omega⟩

/-- Behind the year, the fields are compared from the month to the thousandths of a second. -/
theorem isoTail_lt_iff (ht : t.Narrow) (hu : u.Narrow) :
    t.isoTail < u.isoTail ↔ t.date.month < u.date.month ∨ t.date.month = u.date.month ∧
      (t.date.day < u.date.day ∨ t.date.day = u.date.day ∧
      (t.hour < u.hour ∨ t.hour = u.hour ∧
      (t.minute < u.minute ∨ t.minute = u.minute ∧
      (t.second < u.second ∨ t.second = u.second ∧ t.micro / 1000 < u.micro / 1000)))) := by
  simp only [isoTail, clockText, List.append_assoc, List.cons_append, List.cons_lt_cons_iff,
    lt_irrefl, true_and, false_or, Number.padded_append_lt_iff (show 0 < 2 by decide) ht.month
    hu.month,
    Number.padded_append_lt_iff (show 0 < 2 by decide) ht.day hu.day,
    Number.padded_append_lt_iff (show 0 < 2 by decide) ht.hour hu.hour,
    Number.padded_append_lt_iff (show 0 < 2 by decide) ht.minute hu.minute,
    Number.padded_append_lt_iff (show 0 < 2 by decide) ht.second hu.second,
    Number.padded_append_lt_iff (show 0 < 3 by decide) ht.milli hu.milli, and_false, or_false]

/-- Of two instants of a year, the one whose text is smaller behind the year comes first. -/
theorem lt_of_isoTail_lt (hyear : (ofMicros 0 micros).date.year = (ofMicros 0 micros').date.year)
    (h : (ofMicros 0 micros).isoTail < (ofMicros 0 micros').isoTail) : micros < micros' := by
  rw [isoTail_lt_iff (narrow_ofMicros 0 micros) (narrow_ofMicros 0 micros')] at h
  have hvalid : (ofMicros 0 micros).date.Valid := (valid_stamp 0 micros).date
  have hvalid' : (ofMicros 0 micros').date.Valid := (valid_stamp 0 micros').date
  have hdays := toDays_ofMicros 0 micros
  have hdays' := toDays_ofMicros 0 micros'
  have hsecond := secondOfDay_ofMicros 0 micros
  have hsecond' := secondOfDay_ofMicros 0 micros'
  have hmicro := micro_ofMicros 0 micros
  have hmicro' := micro_ofMicros 0 micros'
  simp only [microsPerSecond, add_zero, hour, minute, second] at *
  rcases h with hmonth | ⟨hmonth, hday | ⟨hday, hclock⟩⟩
  · have hbefore := Date.Before.toDays_lt (.inr ⟨hyear, .inl hmonth⟩) hvalid hvalid'
    omega
  · have hbefore := Date.Before.toDays_lt (.inr ⟨hyear, .inr ⟨hmonth, hday⟩⟩) hvalid hvalid'
    omega
  · -- on the same day, the seconds of the day and then the thousandths decide
    have hsame : (ofMicros 0 micros).date = (ofMicros 0 micros').date := Date.ext hyear hmonth hday
    rw [hsame] at hdays
    omega

/-- Texts in ISO form stand in the order of the numerals of their years, and in one year in the
order of what follows. -/
theorem iso_lt_iff (t u : Moment) : t.iso < u.iso ↔
    digits 10 t.date.year.toNat < digits 10 u.date.year.toNat ∨
      t.date.year.toNat = u.date.year.toNat ∧ t.isoTail < u.isoTail := by
  have hmark (n : Nat) : ∀ c ∈ digits 10 n, '-' < c := by
    intro c hc
    have hrange := Number.digit_range (Number.isDigit_of_mem_digits hc)
    show '-'.toNat < c.toNat
    exact Nat.lt_of_lt_of_le (by decide) hrange.1
  rw [iso_eq, iso_eq, Number.append_mark_lt_iff (hmark _) (hmark _), Number.digits_inj]

/-- The text has two or three digits for every field but the year. -/
theorem shapeOf_iso (h : t.Narrow) : shapeOf t.iso =
    List.replicate (digitCount t.date.year.toNat) 'd' ++ "-dd-ddTdd:dd:dd.dddZ".toList := by
  have hyear : shapeOf (digits 10 t.date.year.toNat) =
      List.replicate (digitCount t.date.year.toNat) 'd' :=
    shapeOf_of_isDigit fun _ => Number.isDigit_of_mem_digits
  have hcons (c : Char) (cs : List Char) (hc : c.isDigit = false) :
      shapeOf (c :: cs) = c :: shapeOf cs := by
    simp [shapeOf, hc]
  have happend (as bs : List Char) : shapeOf (as ++ bs) = shapeOf as ++ shapeOf bs :=
    List.map_append
  rw [iso_eq, isoTail, clockText]
  simp only [happend, List.append_assoc, List.cons_append,
    hcons _ _ (show '-'.isDigit = false by decide),
    hcons _ _ (show 'T'.isDigit = false by decide), hcons _ _ (show ':'.isDigit = false by decide),
    hcons _ _ (show '.'.isDigit = false by decide), hyear,
    shapeOf_padded (show 0 < 2 by decide) h.month, shapeOf_padded (show 0 < 2 by decide) h.day,
    shapeOf_padded (show 0 < 2 by decide) h.hour, shapeOf_padded (show 0 < 2 by decide) h.minute,
    shapeOf_padded (show 0 < 2 by decide) h.second, shapeOf_padded (show 0 < 3 by decide) h.milli]
  rfl

end Moment

section Years

/-- From the year 1000 on, the numerals of the years that are written have four digits. -/
theorem digitCount_eq_four_iff {year : Nat} (h : year < 10000) : digitCount year = 4 ↔
    1000 ≤ year := by
  have hlong := Nat.length_toDigits_le_iff (b := 10) (n := year) (by decide) (show 0 < 4 by decide)
  have hshort := Nat.length_toDigits_le_iff (b := 10) (n := year) (by decide)
    (show 0 < 3 by decide)
  unfold digitCount digits
  omega

theorem yearOf_lt (h : Accepted time micros) : yearOf micros < 10000 := by
  have hyear := h.isWrittenYear
  simp only [isWrittenYear, Bool.and_eq_true, decide_eq_true_eq] at hyear
  unfold yearOf
  omega

theorem thousand_le_yearOf_iff (micros : Int) :
    1000 ≤ yearOf micros ↔ -30610224000 ≤ micros / microsPerSecond := by
  have hnew : newYear 1000 = -354285 := by decide
  have hyear := le_year_ofDays_iff 1000 (micros / microsPerSecond / 86400)
  simp only [yearOf, Moment.ofMicros, add_zero]
  omega

theorem yearOf_mono (h : micros ≤ micros') : yearOf micros ≤ yearOf micros' := by
  have hdays : (micros / microsPerSecond + 0) / 86400 ≤ (micros' / microsPerSecond + 0) /
      86400 := by
    simp only [microsPerSecond]
    omega
  have hyear := (le_year_ofDays_iff _ _).mpr
    (((le_year_ofDays_iff _ _).mp (le_refl _)).trans hdays)
  exact Int.toNat_le_toNat hyear

/-- Numerals of the years from 1000 on stand in the order of the years. -/
theorem digits_le_of_thousand_le {year later : Nat} (hyear : 1000 ≤ year) (h : year ≤ later)
    (hlater : later < 10000) : digits 10 year ≤ digits 10 later := by
  have hfour : digitCount year = 4 := (digitCount_eq_four_iff (by omega)).mpr hyear
  have hfour' : digitCount later = 4 := (digitCount_eq_four_iff hlater).mpr (by omega)
  rw [← Number.padded_eq_digits hfour.ge, ← Number.padded_eq_digits hfour'.ge]
  rw [← not_lt, Number.padded_lt_padded_iff (by decide) (by omega) (by omega)]
  omega

end Years

/-- Of two instants of which the first is not later, the text of the first is not larger exactly if
the numeral of its year is not. -/
theorem iso_le_iff (h : Accepted time micros) (h' : Accepted other micros')
    (hle : micros ≤ micros') :
    DateForm.iso.write (Moment.ofMicros 0 micros) ≤ DateForm.iso.write
      (Moment.ofMicros 0 micros') ↔
      digits 10 (yearOf micros) ≤ digits 10 (yearOf micros') := by
  have hyear := Moment.year_nonneg h.isWrittenYear
  have hyear' := Moment.year_nonneg h'.isWrittenYear
  rw [String.le_iff_toList_le, ← not_lt, ← not_lt, DateForm.write, DateForm.write,
    String.toList_ofList, String.toList_ofList, Moment.iso_lt_iff, not_iff_not]
  constructor
  · rintro (hlt | ⟨hsame, htail⟩)
    · exact hlt
    · have := Moment.lt_of_isoTail_lt (by omega) htail
      omega
  · exact Or.inl

/-- The order of the dates in ISO form of two times of which the first is not later is that of
their years as numerals, which is the order of the times from the year 1000 on; each date has two
or three digits for every field but the year, and 24 characters from that year on only. -/
theorem isoTexts_order (h : Accepted time micros) (h' : Accepted other micros')
    (hq : seconds? time = some q) (hq' : seconds? other = some q') (hle : q ≤ q') :
    ∃ iso iso', dateText .iso time = .ok iso ∧ dateText .iso other = .ok iso' ∧
      (iso ≤ iso' ↔ digits 10 (yearOf micros) ≤ digits 10 (yearOf micros')) ∧
      (1000 ≤ yearOf micros → iso ≤ iso') ∧
      shapeOf iso.toList =
        List.replicate (digitCount (yearOf micros)) 'd' ++ "-dd-ddTdd:dd:dd.dddZ".toList ∧
      (iso.length = 24 ↔ 1000 ≤ yearOf micros) ∧
      (1000 ≤ yearOf micros ↔ -30610224000 ≤ micros / microsPerSecond) := by
  have hmicros := micros_mono h.1 h'.1 hq hq' hle
  have horder := iso_le_iff h h' hmicros
  have hshape := Moment.shapeOf_iso (Moment.narrow_ofMicros 0 micros)
  have hlength : (DateForm.iso.write (Moment.ofMicros 0 micros)).length =
      digitCount (yearOf micros) + 20 := by
    have hlist := congrArg List.length hshape
    simpa [shapeOf, DateForm.write, yearOf] using hlist
  refine ⟨_, _, h.dateText .iso, h'.dateText .iso, horder, ?_, ?_, ?_,
    thousand_le_yearOf_iff micros⟩
  · intro hthousand
    exact horder.mpr (digits_le_of_thousand_le hthousand (yearOf_mono hmicros) (yearOf_lt h'))
  · rw [DateForm.write, String.toList_ofList]
    exact hshape
  · rw [hlength, ← digitCount_eq_four_iff (yearOf_lt h)]
    omega

/-- The last second of the year 999 has a larger text than the first one of the year 1000. -/
theorem isoTexts_order_millennium : ∃ iso iso',
    dateText .iso (.int (-30610224001)) = .ok iso ∧
      dateText .iso (.int (-30610224000)) = .ok iso' ∧ ¬ iso ≤ iso' := by
  have h : Accepted (.int (-30610224001)) (-30610224001000000) :=
    accepted_iff.mpr ⟨rfl, by decide, by decide⟩
  have h' : Accepted (.int (-30610224000)) (-30610224000000000) :=
    accepted_iff.mpr ⟨rfl, by decide, by decide⟩
  have hq : seconds? (.int (-30610224001)) = some (-30610224001) := rfl
  have hq' : seconds? (.int (-30610224000)) = some (-30610224000) := rfl
  obtain ⟨iso, iso', hiso, hiso', horder, -⟩ := isoTexts_order h h' hq hq' (by norm_num)
  refine ⟨iso, iso', hiso, hiso', ?_⟩
  rw [horder]
  decide

end RequestLog.Time
