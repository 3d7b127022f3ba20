import RequestLog.Proofs.Number.Numerals
import RequestLog.Proofs.Time.Moments
import RequestLog.Time.DateText

/-!
Dates read back from their texts. A text is cut at its marks, and the fields between them are read
as numerals and names; what is read of the text of a moment is the date and the time of day of the
moment.
-/
namespace RequestLog.Time

open RequestLog.Number (padded digits numeral?)

/-- Fields with a mark between each two of them. -/
def woven (first : List Char) : List (Char × List Char) → List Char
  | [] => first
  | (mark, field) :: rest => first ++ mark :: woven field rest

/-- The fields of a text between its marks. -/
def fieldsOf (marks cs : List Char) : List (List Char) :=
  cs.splitOnP fun c => marks.contains c

/-- Whether none of the marks is found in a text. -/
def Free (marks cs : List Char) : Prop := ∀ c ∈ cs, c ∉ marks

instance (marks cs : List Char) : Decidable (Free marks cs) :=
  List.decidableBAll _ cs

section Free

variable {marks as bs : List Char} {c : Char}

@[simp]
theorem free_nil (marks : List Char) : Free marks [] :=
  List.forall_mem_nil _

@[simp]
theorem free_cons_iff : Free marks (c :: as) ↔ c ∉ marks ∧ Free marks as :=
  List.forall_mem_cons

@[simp]
theorem free_append_iff : Free marks (as ++ bs) ↔ Free marks as ∧ Free marks bs :=
  List.forall_mem_append

theorem free_of_isDigit (hmarks : marks.any Char.isDigit = false)
    (h : ∀ c ∈ as, c.isDigit = true) : Free marks as := by
  intro c hc hmark
  exact List.any_eq_false.mp hmarks c hmark (h c hc)

theorem free_padded (hmarks : marks.any Char.isDigit = false) (width n : Nat) :
    Free marks (padded width n) :=
  free_of_isDigit hmarks fun _ => Number.isDigit_of_mem_padded

end Free

/-- A text is cut into the fields that it was woven of, if they have no marks in them. -/
theorem fieldsOf_woven {marks first : List Char} {rest : List (Char × List Char)}
    (hfirst : Free marks first) (hrest : ∀ p ∈ rest, p.1 ∈ marks ∧ Free marks p.2) :
    fieldsOf marks (woven first rest) = first :: rest.map Prod.snd := by
  induction rest generalizing first with
  | nil => exact List.splitOnP_eq_singleton (by simpa [woven, Free] using hfirst)
  | cons p rest ih =>
    obtain ⟨⟨hmark, hfield⟩, hrest⟩ := List.forall_mem_cons.mp hrest
    rw [woven, fieldsOf, List.splitOnP_append_cons_of_forall_mem (by simpa [Free] using hfirst) _
      (by simpa using hmark)]
    exact congrArg (first :: ·) (ih hfield hrest)

/-- The number of a month by its name. -/
def monthNumber? (name : List Char) : Option Nat :=
  (monthNames.findIdx? (·.toList == name)).map (· + 1)

/-- The number of a day of the week by its name, Monday being 0. -/
def weekdayNumber? (name : List Char) : Option Nat :=
  weekdayNames.findIdx? (·.toList == name)

/-- The seconds of hours, minutes and perhaps seconds, of two digits each. -/
def distance? (cs : List Char) : Option Nat := do
  let hours ← numeral? (cs.take 2)
  let minutes ← numeral? ((cs.drop 2).take 2)
  let seconds ← if cs.length = 4 then some 0 else numeral? (cs.drop 4)
  return hours * 3600 + minutes * 60 + seconds

/-- The seconds of an offset that is ahead of universal time or behind it. -/
def offset? : List Char → Option Int
  | '+' :: cs => (distance? cs).map Int.ofNat
  | '-' :: cs => (distance? cs).map fun n => -Int.ofNat n
  | _ => none

def stamp? (year month day hour minute second : Option Nat) : Option Stamp := do
  return ⟨⟨← year, ← month, ← day⟩, ← hour, ← minute, ← second⟩

def clfMarks : List Char := ['/', ':', ' ']

def isoMarks : List Char := ['-', 'T', ':', '.', 'Z']

def webMarks : List Char := [',', ':', ' ']

/-- What a date in the common log format shows, with the seconds by which it is ahead of universal
time. -/
def readClf? (cs : List Char) : Option (Stamp × Int) :=
  match fieldsOf clfMarks cs with
  | [day, month, year, hour, minute, second, offset] => do
    let stamp ← stamp? (numeral? year) (monthNumber? month) (numeral? day) (numeral? hour)
      (numeral? minute) (numeral? second)
    return (stamp, ← offset? offset)
  | _ => none

/-- What a date in ISO form shows, with its thousandths of a second. -/
def readIso? (cs : List Char) : Option (Stamp × Nat) :=
  match fieldsOf isoMarks cs with
  | [year, month, day, hour, minute, second, milli, []] => do
    let stamp ← stamp? (numeral? year) (numeral? month) (numeral? day) (numeral? hour)
      (numeral? minute) (numeral? second)
    return (stamp, ← numeral? milli)
  | _ => none

/-- What a date in the form of web messages shows, behind its day of the week. -/
def readWeb? (cs : List Char) : Option (Nat × Stamp) :=
  match fieldsOf webMarks cs with
  | [weekday, [], day, month, year, hour, minute, second, ['G', 'M', 'T']] => do
    let stamp ← stamp? (numeral? year) (monthNumber? month) (numeral? day) (numeral? hour)
      (numeral? minute) (numeral? second)
    return (← weekdayNumber? weekday, stamp)
  | _ => none

section Names

variable {month day : Nat}

theorem monthNumber?_monthName (h : 1 ≤ month) (hl : month ≤ 12) :
    monthNumber? (monthName month) = some month := by
  interval_cases month <;> rfl

theorem weekdayNumber?_weekdayName (h : day < 7) :
    weekdayNumber? (weekdayName day) = some day := by
  interval_cases day <;> rfl

theorem free_monthName (h : 1 ≤ month) (hl : month ≤ 12) :
    Free clfMarks (monthName month) ∧ Free webMarks (monthName month) := by
  interval_cases month <;> decide

theorem free_weekdayName (h : day < 7) : Free webMarks (weekdayName day) := by
  interval_cases day <;> decide

end Names

namespace Moment

variable {t : Moment}

theorem free_offsetText (t : Moment) : Free clfMarks t.offsetText := by
  have hsigns : '+' ∉ clfMarks ∧ '-' ∉ clfMarks := by decide
  have hpadded : ∀ n, Free clfMarks (padded 2 n) := free_padded rfl 2
  unfold offsetText
  simp only
  split <;> split <;> simp [hsigns, hpadded]

theorem distance?_eq {hours minutes : Nat} (hh : hours < 100) (hm : minutes < 100)
    (seconds : Nat) :
    distance? (padded 2 hours ++ padded 2 minutes
      ++ if seconds = 0 then [] else padded 2 seconds) =
      some (hours * 3600 + minutes * 60 + seconds) := by
  have hhours : (padded 2 hours).length = 2 := Number.length_padded (by decide) hh
  have hminutes : (padded 2 minutes).length = 2 := Number.length_padded (by decide) hm
  have hdrop (cs : List Char) : (padded 2 hours ++ (padded 2 minutes ++ cs)).drop 4 = cs := by
    rw [← List.append_assoc, List.drop_left' (by simp [hhours, hminutes])]
  have hwidth : 2 ≤ (padded 2 seconds).length := Number.le_length_padded 2 seconds
  unfold distance?
  split
  · next h =>
    simp [h, List.take_left' hhours, List.drop_left' hhours, List.take_of_length_le, hhours,
      hminutes, Number.numeral?_padded]
  · next h =>
    have hlong : 2 + (2 + (padded 2 seconds).length) ≠ 4 := by omega
    simp [List.take_left' hhours, List.drop_left' hhours, List.take_left' hminutes, hdrop, hlong,
      hhours, hminutes, Number.numeral?_padded]

theorem offset?_offsetText (h : t.offset.natAbs < 86400) :
    offset? t.offsetText = some t.offset := by
  have hhours : t.offset.natAbs / 3600 < 100 := by omega
  have hminutes : t.offset.natAbs / 60 % 60 < 100 := by omega
  have hdistance := distance?_eq hhours hminutes (t.offset.natAbs % 60)
  unfold offsetText
  simp only
  split
  · simp only [List.cons_append, offset?, hdistance, Option.map_some, Option.some.injEq,
      Int.ofNat_eq_natCast]
    omega
  · simp only [List.cons_append, offset?, hdistance, Option.map_some, Option.some.injEq,
      Int.ofNat_eq_natCast]
    omega

theorem stamp?_eq (hy : 0 ≤ t.date.year) :
    stamp? (some t.date.year.toNat) (some t.date.month) (some t.date.day) (some t.hour)
      (some t.minute) (some t.second) = some t.stamp := by
  have hyear : (t.date.year.toNat : Int) = t.date.year := Int.toNat_of_nonneg hy
  show some (⟨⟨t.date.year.toNat, _, _⟩, _, _, _⟩ : Stamp) = _
  rw [hyear]
  rfl

theorem readClf?_clf (hd : t.date.Valid) (hy : 0 ≤ t.date.year) (ho : t.offset.natAbs < 86400) :
    readClf? t.clf = some (t.stamp, t.offset) := by
  have hpadded : ∀ width n, Free clfMarks (padded width n) := free_padded rfl
  have hwoven : t.clf = woven (padded 2 t.date.day) [('/', monthName t.date.month),
      ('/', padded 4 t.date.year.toNat), (':', padded 2 t.hour), (':', padded 2 t.minute),
      (':', padded 2 t.second), (' ', t.offsetText)] := by
    simp [clf, clockText, woven]
  have hfields : fieldsOf clfMarks t.clf = [padded 2 t.date.day, monthName t.date.month,
      padded 4 t.date.year.toNat, padded 2 t.hour, padded 2 t.minute, padded 2 t.second,
      t.offsetText] := by
    rw [hwoven, fieldsOf_woven (hpadded 2 _)]
    · rfl
    · have hmarks : '/' ∈ clfMarks ∧ ':' ∈ clfMarks ∧ ' ' ∈ clfMarks := by decide
      simp [hmarks, hpadded, free_monthName hd.1 hd.2.1, free_offsetText]
  rw [readClf?, hfields]
  simp only [Number.numeral?_padded, monthNumber?_monthName hd.1 hd.2.1, stamp?_eq hy,
    offset?_offsetText ho]
  rfl

theorem readIso?_iso (hy : 0 ≤ t.date.year) : readIso? t.iso = some (t.stamp, t.micro / 1000) := by
  have hpadded : ∀ width n, Free isoMarks (padded width n) := free_padded rfl
  have hyear : Free isoMarks (digits 10 t.date.year.toNat) :=
    free_of_isDigit rfl fun _ => Number.isDigit_of_mem_digits
  have hwoven : t.iso = woven (digits 10 t.date.year.toNat) [('-', padded 2 t.date.month),
      ('-', padded 2 t.date.day), ('T', padded 2 t.hour), (':', padded 2 t.minute),
      (':', padded 2 t.second), ('.', padded 3 (t.micro / 1000)), ('Z', [])] := by
    simp [iso, clockText, woven]
  have hfields : fieldsOf isoMarks t.iso = [digits 10 t.date.year.toNat, padded 2 t.date.month,
      padded 2 t.date.day, padded 2 t.hour, padded 2 t.minute, padded 2 t.second,
      padded 3 (t.micro / 1000), []] := by
    rw [hwoven, fieldsOf_woven hyear]
    · rfl
    · have hmarks : '-' ∈ isoMarks ∧ 'T' ∈ isoMarks ∧ ':' ∈ isoMarks ∧ '.' ∈ isoMarks ∧
          'Z' ∈ isoMarks ∧ Free isoMarks [] := by decide
      simp [hmarks, hpadded]
  rw [readIso?, hfields]
  simp only [Number.numeral?_padded, Number.numeral?_digits, stamp?_eq hy]
  rfl

theorem readWeb?_web (hd : t.date.Valid) (hy : 0 ≤ t.date.year) (hw : t.weekday < 7) :
    readWeb? t.web = some (t.weekday, t.stamp) := by
  have hpadded : ∀ width n, Free webMarks (padded width n) := free_padded rfl
  have hwoven : t.web = woven (weekdayName t.weekday) [(',', []), (' ', padded 2 t.date.day),
      (' ', monthName t.date.month), (' ', padded 4 t.date.year.toNat), (' ', padded 2 t.hour),
      (':', padded 2 t.minute), (':', padded 2 t.second), (' ', ['G', 'M', 'T'])] := by
    simp [web, clockText, woven]
  have hfields : fieldsOf webMarks t.web = [weekdayName t.weekday, [], padded 2 t.date.day,
      monthName t.date.month, padded 4 t.date.year.toNat, padded 2 t.hour, padded 2 t.minute,
      padded 2 t.second, ['G', 'M', 'T']] := by
    rw [hwoven, fieldsOf_woven (free_weekdayName hw)]
    · rfl
    · have hmarks : ',' ∈ webMarks ∧ ':' ∈ webMarks ∧ ' ' ∈ webMarks ∧ Free webMarks [] ∧
          Free webMarks ['G', 'M', 'T'] := by decide
      simp [hmarks, hpadded, free_monthName hd.1 hd.2.1]
  rw [readWeb?, hfields]
  simp only [Number.numeral?_padded, monthNumber?_monthName hd.1 hd.2.1, stamp?_eq hy,
    weekdayNumber?_weekdayName hw]
  rfl

end Moment

end RequestLog.Time
