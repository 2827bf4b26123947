import BoundSql.Calendar.Date

/-!
# Days by their numbers

A day is found again from its number. Years that begin in March have their leap day at the end, so
the day of the year follows from month and day alone, and the months from the day of the year. An
era of 400 years is four centuries, a century 25 times four years, each but for a leap day at the
end that only some have: `yearOfEra_dayOfEra` is the one place where this matters.
-/

namespace BoundSql.Calendar

/-! ## Days of a year -/

/-- The day of a year that begins in March, counted from zero, from a month counted from March. -/
def dayOfYear (month day : Int) : Int :=
  (153 * month + 2) / 5 + day - 1

/-- A day in a month of a year that begins in March: its number in the month is no larger than the
month is long, where February, the last, may have a leap day. -/
structure InMonth (month day : Int) : Prop where
  month_nonneg : 0 ≤ month
  month_le : month ≤ 11
  day_pos : 1 ≤ day
  day_le : day ≤ (153 * (month + 1) + 2) / 5 - (153 * month + 2) / 5
  day_le_february : month = 11 → day ≤ 29

theorem month_dayOfYear {month day : Int} (h : InMonth month day) :
    (5 * dayOfYear month day + 2) / 153 = month := by
  obtain ⟨hnonneg, hle, hday, hlength, -⟩ := h
  unfold dayOfYear
  omega

/-! ## Days of an era -/

/-- The day of an era, counted from zero. -/
def dayOfEra (year day : Int) : Int :=
  year * 365 + year / 4 - year / 100 + day

/-- A year of an era and a day in it. The day at the end of a leap year is there only if the next
year, in which it lies, is one that 4 divides and that is no full century but the last. -/
structure InEra (year day : Int) : Prop where
  year_nonneg : 0 ≤ year
  year_le : year ≤ 399
  day_nonneg : 0 ≤ day
  day_le : day ≤ 365
  leap : day = 365 → (year + 1) % 4 = 0 ∧ ((year + 1) % 100 ≠ 0 ∨ (year + 1) % 400 = 0)

theorem dayOfEra_bounds {year day : Int} (h : InEra year day) :
    0 ≤ dayOfEra year day ∧ dayOfEra year day < 146097 := by
  obtain ⟨hnonneg, hle, hday, hday', hleap⟩ := h
  unfold dayOfEra
  omega

/-- The year of an era from the day of the era. -/
theorem yearOfEra_dayOfEra {year day : Int} (h : InEra year day) :
    (dayOfEra year day - dayOfEra year day / 1460 + dayOfEra year day / 36524 -
      dayOfEra year day / 146096) / 365 = year := by
  obtain ⟨hnonneg, hle, hday, hday', hleap⟩ := h
  obtain ⟨century, four, rest, hyear, hcentury, hfour, hrest⟩ :
      ∃ century four rest : Int, year = 100 * century + 4 * four + rest ∧
        (0 ≤ century ∧ century ≤ 3) ∧ (0 ≤ four ∧ four ≤ 24) ∧ 0 ≤ rest ∧ rest ≤ 3 :=
    ⟨year / 100, year % 100 / 4, year % 4, by omega, by omega, by omega, by omega⟩
  have hdays : dayOfEra year day = 36524 * century + 1461 * four + 365 * rest + day := by
    unfold dayOfEra
    omega
  have hfull : day = 365 → rest = 3 ∧ (four = 24 → century = 3) := by
    intro hday365
    obtain ⟨hfours, hcenturies⟩ := hleap hday365
    omega
  generalize dayOfEra year day = days at hdays ⊢
  by_cases hlast : days = 146096
  · subst hlast
    omega
  · have hhigh : days < 36524 * (century + 1) := by
      by_cases hday365 : day = 365
      · obtain ⟨rfl, hcentury3⟩ := hfull hday365
        omega
      · omega
    have hcenturies : days / 36524 = century :=
      (Int.ediv_eq_iff_of_pos (by decide)).mpr ⟨by omega, by omega⟩
    have hera : days / 146096 = 0 := Int.ediv_eq_zero_of_lt (by omega) (by omega)
    -- The leap days that lie in front of a day, but for one that the day of the year makes up for.
    obtain ⟨extra, hfours, hless, hmore⟩ : ∃ extra,
        days / 1460 = 25 * century + four + extra ∧ extra ≤ day ∧ day ≤ extra + 364 := by
      by_cases hlate : 1460 ≤ 24 * century + four + 365 * rest + day
      · refine ⟨1, (Int.ediv_eq_iff_of_pos (by decide)).mpr ⟨by omega, by omega⟩, ?_, ?_⟩
        · omega
        · omega
      · refine ⟨0, (Int.ediv_eq_iff_of_pos (by decide)).mpr ⟨by omega, by omega⟩, by omega, ?_⟩
        by_cases hday365 : day = 365
        · obtain ⟨rfl, -⟩ := hfull hday365
          omega
        · omega
    rw [hcenturies, hera, hfours]
    exact (Int.ediv_eq_iff_of_pos (by decide)).mpr ⟨by omega, by omega⟩

/-! ## Numbers of days -/

namespace Date
variable (d : Date)

/-- The year that a day lies in if years begin in March. -/
def marchYear : Int :=
  if d.month ≤ 2 then d.year - 1 else d.year

/-- The month of a day, counted from March. -/
def marchMonth : Int :=
  (d.month + 9) % 12

theorem month_bounds : 1 ≤ d.month ∧ d.month ≤ 12 := by
  obtain ⟨-, -, hday, hlength⟩ := d.isDay
  have hdays : 1 ≤ daysIn d.year d.month := Nat.le_trans hday hlength
  unfold daysIn at hdays
  split at hdays <;> omega

theorem day_bounds : 1 ≤ d.day ∧ d.day ≤ 31 := by
  obtain ⟨-, -, hday, hlength⟩ := d.isDay
  have hdays : daysIn d.year d.month ≤ 31 := by
    unfold daysIn
    split <;> try split
    all_goals omega
  exact ⟨hday, Nat.le_trans hlength hdays⟩

theorem inMonth : InMonth d.marchMonth d.day := by
  obtain ⟨-, -, hday, hlength⟩ := d.isDay
  have hmarch : d.marchMonth = (d.month + 9) % 12 := rfl
  unfold daysIn at hlength
  split at hlength
  case h_12 hmonth =>
    have hfebruary : d.day ≤ 29 := by
      split at hlength <;> omega
    constructor <;> omega
  case h_13 => omega
  all_goals constructor <;> omega

theorem isLeap_of_february (hmonth : d.month = 2) (hday : d.day = 29) : isLeap d.year = true := by
  obtain ⟨-, -, -, hlength⟩ := d.isDay
  cases hleap : isLeap d.year with
  | true => rfl
  | false => simp [hmonth, hday, daysIn, hleap] at hlength

/-- The year of a day in its era, and the day in its year. -/
theorem inEra : InEra (d.marchYear - d.marchYear / 400 * 400) (dayOfYear d.marchMonth d.day) := by
  have hmarch : d.marchMonth = (d.month + 9) % 12 := rfl
  obtain ⟨hnonneg, hle, hday, hlength, hfebruary⟩ := d.inMonth
  refine ⟨by omega, by omega, ?nonneg, ?le, ?leap⟩
  case nonneg =>
    unfold dayOfYear
    omega
  case le =>
    unfold dayOfYear
    omega
  case leap =>
    intro hlast
    unfold dayOfYear at hlast
    have hmonth : d.month = 2 := by
      have hbounds := d.month_bounds
      omega
    have hleap := d.isLeap_of_february hmonth (by omega)
    have hyear : d.marchYear = d.year - 1 := if_pos (by omega)
    simp only [isLeap, Bool.and_eq_true, Bool.or_eq_true, decide_eq_true_eq] at hleap
    omega

theorem dayNumber_add_epoch : d.dayNumber + epoch = d.marchYear / 400 * 146097 +
    dayOfEra (d.marchYear - d.marchYear / 400 * 400) (dayOfYear d.marchMonth d.day) := by
  have hfdiv : d.marchYear.fdiv 400 = d.marchYear / 400 :=
    Int.fdiv_eq_ediv_of_nonneg _ (by decide)
  rw [← hfdiv]
  simp only [dayNumber, dayOfEra, dayOfYear, marchYear, marchMonth]
  omega

/-- A day is found by its number. -/
theorem ofDayNumber?_dayNumber : ofDayNumber? d.dayNumber = some d := by
  have hinEra := d.inEra
  have hinMonth := d.inMonth
  have hdayOfEra := dayOfEra_bounds hinEra
  have hyearOfEra := yearOfEra_dayOfEra hinEra
  have hmonth := month_dayOfYear hinMonth
  have hera : (d.dayNumber + epoch).fdiv 146097 = d.marchYear / 400 := by
    rw [Int.fdiv_eq_ediv_of_nonneg _ (by decide), dayNumber_add_epoch]
    exact (Int.ediv_eq_iff_of_pos (by decide)).mpr ⟨by omega, by omega⟩
  have hdays : d.dayNumber + epoch - d.marchYear / 400 * 146097 =
      dayOfEra (d.marchYear - d.marchYear / 400 * 400) (dayOfYear d.marchMonth d.day) := by
    rw [dayNumber_add_epoch]
    omega
  have hdayOfYear (year day : Int) :
      dayOfEra year day - (365 * year + year / 4 - year / 100) = day := by
    unfold dayOfEra
    omega
  have hjanuary :
      (if d.marchMonth < 10 then d.marchMonth + 3 else d.marchMonth - 9) = d.month := by
    have hmarch : d.marchMonth = (d.month + 9) % 12 := rfl
    have hbounds := d.month_bounds
    split <;> omega
  simp only [ofDayNumber?, hera, hdays, hyearOfEra, hdayOfYear, hmonth, hjanuary]
  refine of?_eq_some_iff.mpr ⟨?year, (Int.toNat_natCast d.month).symm, ?day⟩
  case year =>
    have hmarch : d.marchYear = if d.month ≤ 2 then d.year - 1 else d.year := rfl
    split at hmarch <;> split <;> omega
  case day =>
    unfold dayOfYear
    omega

/-- The number of a day is a word of four bytes. -/
theorem dayNumber_bounds :
    Int32.minValue.toInt ≤ d.dayNumber ∧ d.dayNumber ≤ Int32.maxValue.toInt := by
  obtain ⟨hfirst, hlast, -, -⟩ := d.isDay
  have hdayOfEra := dayOfEra_bounds d.inEra
  have hnumber := d.dayNumber_add_epoch
  have hmarch : d.marchYear = d.year - 1 ∨ d.marchYear = d.year := by
    unfold marchYear
    split <;> simp
  unfold firstYear at hfirst
  unfold lastYear at hlast
  unfold epoch at hnumber
  rw [Int32.toInt_minValue, Int32.toInt_maxValue]
  omega

end Date

end BoundSql.Calendar
