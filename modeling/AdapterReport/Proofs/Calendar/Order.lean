import AdapterReport.Calendar

/-!
# The order of dates and times of day

A later day has a later date (`Date.before_ofDays`), over the ends of months, leap years, centuries
and the year 0. The steps follow the conversion, from the largest part to the smallest:

* `dayOfEra_eq`, `yearOfEra_eq`: a day of 400 years by its century, its four years, its year and its
  day, and the year that the conversion finds for it. So days of one year follow each other
  (`yearOfEra_spec`) and years do not decrease (`yearOfEra_mono`).
* `Date.monthCount_ofDays`: months counted through the years, as the conversion counts them.

On the local clock `Moment.wholeSecond` counts seconds in minutes of 61, so that a leap second has a
place of its own behind the second 59. Where leap seconds end minutes this is the order in time
(`Moment.wholeSecond_lt_iff`), and it is never against it (`Moment.wholeSecond_le`).
-/

namespace AdapterReport

/-! ## Days of 400 years -/

/-- The day of 400 years on which a year begins. Years begin in March, so a leap day is the last of
its year. -/
def yearStart (year : Nat) : Nat :=
  365 * year + year / 4 - year / 100

/-- The year of a day of 400 years. -/
def yearOfEra (day : Nat) : Nat :=
  (day - day / 1460 + day / 36524 - day / 146096) / 365

/-- A day of 400 years by its century, the four years in this, the year in these and its day. Of
366 days are the last of four years, unless they are the last of a century, and the last year of
all. -/
theorem dayOfEra_eq {day : Nat} (h : day < daysPerEra) :
    ∃ century four year dayOfYear, century ≤ 3 ∧ four ≤ 24 ∧ year ≤ 3 ∧ dayOfYear ≤ 365 ∧
      (dayOfYear = 365 → year = 3 ∧ (four = 24 → century = 3)) ∧
      day = 36524 * century + 1461 * four + 365 * year + dayOfYear := by
  unfold daysPerEra at h
  obtain ⟨century, hcentury⟩ : ∃ century, century = min (day / 36524) 3 := ⟨_, rfl⟩
  obtain ⟨rest, hrest⟩ : ∃ rest, day = 36524 * century + rest :=
    ⟨day - 36524 * century, by omega⟩
  obtain ⟨year, hyear⟩ : ∃ year, year = min (rest % 1461 / 365) 3 := ⟨_, rfl⟩
  exact ⟨century, rest / 1461, year, rest % 1461 - 365 * year, by omega⟩

theorem yearOfEra_eq {century four year dayOfYear : Nat} (hcentury : century ≤ 3)
    (hfour : four ≤ 24) (hyear : year ≤ 3) (hday : dayOfYear ≤ 365)
    (hleap : dayOfYear = 365 → year = 3 ∧ (four = 24 → century = 3)) :
    yearOfEra (36524 * century + 1461 * four + 365 * year + dayOfYear) =
      100 * century + 4 * four + year := by
  unfold yearOfEra
  by_cases hlast : century = 3 ∧ four = 24 ∧ year = 3 ∧ dayOfYear = 365
  · obtain ⟨rfl, rfl, rfl, rfl⟩ := hlast
    rfl
  · -- on every other day the quotients count the centuries and, one day early at most, leap days
    generalize hd : 36524 * century + 1461 * four + 365 * year + dayOfYear = day
    have hera : day / 146096 = 0 := by omega
    have hcenturies : day / 36524 = century := by omega
    obtain ⟨early, hearly⟩ : ∃ early, day / 1460 = 25 * century + four + early :=
      ⟨day / 1460 - (25 * century + four), by omega⟩
    rw [hera, hcenturies, hearly]
    omega

theorem yearOfEra_spec {day : Nat} (h : day < daysPerEra) :
    yearOfEra day ≤ 399 ∧ yearStart (yearOfEra day) ≤ day ∧
      day ≤ yearStart (yearOfEra day) + 365 ∧
      (yearOfEra day < 399 → day < yearStart (yearOfEra day + 1)) := by
  obtain ⟨century, four, year, dayOfYear, hcentury, hfour, hyear, hday, hleap, rfl⟩ :=
    dayOfEra_eq h
  rw [yearOfEra_eq hcentury hfour hyear hday hleap]
  unfold yearStart
  omega

theorem yearStart_mono {y z : Nat} (h : y ≤ z) : yearStart y ≤ yearStart z := by
  obtain ⟨years, rfl⟩ := Nat.exists_eq_add_of_le h
  have hcenturies : (y + years) / 100 ≤ y / 100 + years := by omega
  unfold yearStart
  omega

theorem yearOfEra_mono {a b : Nat} (h : a ≤ b) (hb : b < daysPerEra) :
    yearOfEra a ≤ yearOfEra b := by
  obtain ⟨hlast, hstart, -, -⟩ := yearOfEra_spec (Nat.lt_of_le_of_lt h hb)
  obtain ⟨-, -, -, hend⟩ := yearOfEra_spec hb
  -- a later year than that of `b` would begin behind `b`
  refine Nat.le_of_not_lt fun hlt => ?_
  have hbehind := hend (Nat.lt_of_lt_of_le hlt hlast)
  have hbegin : yearStart (yearOfEra b + 1) ≤ yearStart (yearOfEra a) := yearStart_mono hlt
  omega

namespace Date

/-! ## Dates -/

/-- The earlier one of two dates: by the year, then by the month, then by the day. -/
def Before (a b : Date) : Prop :=
  a.year < b.year ∨
    a.year = b.year ∧ (a.month < b.month ∨ a.month = b.month ∧ a.day < b.day)

/-- The month, counted from the March of the year 0. -/
def monthCount (d : Date) : Int :=
  12 * d.year + d.month - 3

/-- The month of a day of a year that begins in March, counted from 0. -/
def shiftedMonth (dayOfYear : Nat) : Nat :=
  (5 * dayOfYear + 2) / 153

/-- A day as a group of 400 years, the year in this and the day in the year. -/
structure Parts where
  era : Int
  yearOfEra : Nat
  dayOfYear : Nat

/-- The parts of a day counted from the first of January 1970. -/
def partsOf (days : Int) : Parts :=
  let dayOfEra := ((days + 719468) % daysPerEra).toNat
  ⟨(days + 719468) / daysPerEra, AdapterReport.yearOfEra dayOfEra,
    dayOfEra - yearStart (AdapterReport.yearOfEra dayOfEra)⟩

/-- The date of a day in its parts. -/
def Parts.date (p : Parts) : Date :=
  let shifted := shiftedMonth p.dayOfYear
  let month := if shifted < 10 then shifted + 3 else shifted - 9
  ⟨p.yearOfEra + p.era * 400 + if month ≤ 2 then 1 else 0, month,
    p.dayOfYear - (153 * shifted + 2) / 5 + 1⟩

theorem ofDays_eq (days : Int) : ofDays days = (partsOf days).date := rfl

theorem partsOf_bounds (days : Int) :
    (partsOf days).yearOfEra ≤ 399 ∧ (partsOf days).dayOfYear ≤ 365 := by
  have hday : ((days + 719468) % daysPerEra).toNat < daysPerEra := by
    unfold daysPerEra
    omega
  obtain ⟨hyear, -, hday, -⟩ := yearOfEra_spec hday
  exact ⟨hyear, Nat.sub_le_of_le_add (by rwa [Nat.add_comm])⟩

/-- A later day comes later in its year, or in a later year, or in a later group of 400 years. -/
theorem partsOf_lt {a b : Int} (h : a < b) :
    (partsOf a).era < (partsOf b).era ∨ (partsOf a).era = (partsOf b).era ∧
      ((partsOf a).yearOfEra < (partsOf b).yearOfEra ∨
        (partsOf a).yearOfEra = (partsOf b).yearOfEra ∧
          (partsOf a).dayOfYear < (partsOf b).dayOfYear) := by
  simp only [partsOf]
  generalize hx : ((a + 719468) % daysPerEra).toNat = x
  generalize hy : ((b + 719468) % daysPerEra).toNat = y
  have hera : (a + 719468) / daysPerEra < (b + 719468) / daysPerEra ∨
      (a + 719468) / daysPerEra = (b + 719468) / daysPerEra ∧ x < y ∧ y < daysPerEra := by
    unfold daysPerEra at *
    omega
  refine hera.imp_right fun ⟨heq, hlt, hbound⟩ => ⟨heq, ?_⟩
  rcases Nat.lt_or_eq_of_le (yearOfEra_mono (Nat.le_of_lt hlt) hbound) with hyear | hyear
  · exact .inl hyear
  · obtain ⟨-, hstart, -, -⟩ := yearOfEra_spec (Nat.lt_trans hlt hbound)
    rw [← hyear]
    exact .inr ⟨rfl, by omega⟩

theorem shiftedMonth_spec {dayOfYear : Nat} (h : dayOfYear ≤ 365) :
    shiftedMonth dayOfYear ≤ 11 ∧ dayOfYear - (153 * shiftedMonth dayOfYear + 2) / 5 ≤ 30 := by
  unfold shiftedMonth
  omega

theorem monthCount_date {p : Parts} (h : p.dayOfYear ≤ 365) :
    p.date.monthCount = 12 * (p.yearOfEra + 400 * p.era) + shiftedMonth p.dayOfYear := by
  obtain ⟨hmonth, -⟩ := shiftedMonth_spec h
  simp only [Parts.date, monthCount]
  generalize shiftedMonth p.dayOfYear = month at hmonth
  split <;> split <;> omega

/-- The month and the day of a date have two digits at most. -/
theorem date_bounds {p : Parts} (h : p.dayOfYear ≤ 365) :
    1 ≤ p.date.month ∧ p.date.month ≤ 12 ∧ p.date.day ≤ 31 := by
  obtain ⟨hmonth, hday⟩ := shiftedMonth_spec h
  simp only [Parts.date]
  generalize shiftedMonth p.dayOfYear = month at hmonth hday
  split <;> omega

theorem ofDays_bounds (days : Int) :
    1 ≤ (ofDays days).month ∧ (ofDays days).month ≤ 12 ∧ (ofDays days).day ≤ 31 :=
  date_bounds (partsOf_bounds days).2

theorem before_of_monthCount {a b : Date} (ha : 1 ≤ a.month ∧ a.month ≤ 12)
    (hb : 1 ≤ b.month ∧ b.month ≤ 12)
    (h : a.monthCount < b.monthCount ∨ a.monthCount = b.monthCount ∧ a.day < b.day) :
    a.Before b := by
  unfold monthCount at h
  unfold Before
  omega

/-- **A later day has a later date.** -/
theorem before_ofDays {a b : Int} (h : a < b) : (ofDays a).Before (ofDays b) := by
  obtain ⟨hloA, hhiA, -⟩ := ofDays_bounds a
  obtain ⟨hloB, hhiB, -⟩ := ofDays_bounds b
  refine before_of_monthCount ⟨hloA, hhiA⟩ ⟨hloB, hhiB⟩ ?_
  obtain ⟨hyear, hday⟩ := partsOf_bounds a
  have hdayB := (partsOf_bounds b).2
  have hparts := partsOf_lt h
  rw [ofDays_eq, ofDays_eq, monthCount_date hday, monthCount_date hdayB]
  generalize partsOf a = p at hyear hday hparts
  generalize partsOf b = q at hparts
  simp only [Parts.date, shiftedMonth]
  omega

end Date

/-! ## Seconds of the local clock -/

namespace Moment

variable {a b : Moment}

/-- How many whole seconds the fraction is worth: one in a leap second, none in any other. -/
def leap (m : Moment) : Nat :=
  m.nanos / 1000000000

/-- The number of a moment's second on the local clock, in minutes of 61 seconds: a leap second that
ends a minute is the last one. A leap second inside of a minute, which only a zone shows whose
distance is no number of whole minutes, counts as the second behind it. -/
def wholeSecond (m : Moment) : Int :=
  61 * (m.localSeconds / 60) + (m.localSeconds % 60 + m.leap)

/-- A leap second of the moment ends a minute of the local clock, so it is shown as 60. -/
def EndsMinute (m : Moment) : Prop :=
  1 ≤ m.leap → m.localSeconds % 60 = 59

/-- The second of `a` is over when the second of `b` begins. A leap second follows the second that
it is counted with. -/
def SecondBefore (a b : Moment) : Prop :=
  a.seconds < b.seconds ∨ a.seconds = b.seconds ∧ a.leap < b.leap

/-- The moments are in the same second. -/
def SameSecond (a b : Moment) : Prop :=
  a.seconds = b.seconds ∧ a.leap = b.leap

theorem wholeSecond_lt_iff (hzone : a.offset = b.offset) (ha : a.leap ≤ 1) (hb : b.leap ≤ 1)
    (hendA : a.EndsMinute) (hendB : b.EndsMinute) :
    a.wholeSecond < b.wholeSecond ↔ a.SecondBefore b := by
  unfold EndsMinute localSeconds at *
  unfold wholeSecond SecondBefore localSeconds
  omega

theorem wholeSecond_eq_iff (hzone : a.offset = b.offset) (ha : a.leap ≤ 1) (hb : b.leap ≤ 1)
    (hendA : a.EndsMinute) (hendB : b.EndsMinute) :
    a.wholeSecond = b.wholeSecond ↔ a.SameSecond b := by
  unfold EndsMinute localSeconds at *
  unfold wholeSecond SameSecond localSeconds
  omega

/-- No later second has a smaller number, wherever leap seconds are. -/
theorem wholeSecond_le (hzone : a.offset = b.offset) (ha : a.leap ≤ 1) (h : a.SecondBefore b) :
    a.wholeSecond ≤ b.wholeSecond := by
  unfold SecondBefore at h
  unfold wholeSecond localSeconds
  omega

end Moment

end AdapterReport
