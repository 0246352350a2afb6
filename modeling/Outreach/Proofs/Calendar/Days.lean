import Mathlib.Tactic.Ring
import Outreach.Calendar.Instant

/-!
# Day numbers

A day number counts the days since 1970-01-01, over the ends of months and years, so no two days
have the same one. The calendar repeats after 400 years, so the numbers of days in any year, which
are read off a like year of the second round, are the same ones.
-/

namespace Outreach

namespace Date

/-! ## Months -/

theorem isLeap_add_round (year rounds : Nat) : isLeap (year + 400 * rounds) = isLeap year := by
  have four : (year + 400 * rounds) % 4 = year % 4 := by omega
  have hundred : (year + 400 * rounds) % 100 = year % 100 := by omega
  have round : (year + 400 * rounds) % 400 = year % 400 := by omega
  simp only [isLeap, four, hundred, round]

theorem daysInMonth_add_round (year rounds month : Nat) :
    daysInMonth (year + 400 * rounds) month = daysInMonth year month := by
  unfold daysInMonth
  rw [isLeap_add_round]

theorem daysBeforeMonth_add_round (year rounds month : Nat) :
    daysBeforeMonth (year + 400 * rounds) month = daysBeforeMonth year month := by
  unfold daysBeforeMonth
  simp only [daysInMonth_add_round]

theorem daysBeforeMonth_succ (year : Nat) {month : Nat} (first : 1 ≤ month) :
    daysBeforeMonth year (month + 1) = daysBeforeMonth year month + daysInMonth year month := by
  unfold daysBeforeMonth
  rw [List.range_succ, List.drop_append_of_le_length (by simpa using first), List.foldl_append]
  rfl

theorem daysInMonth_le (year month : Nat) : daysInMonth year month ≤ 31 := by
  unfold daysInMonth
  split
  · split <;> omega
  · omega
  · omega
  · omega
  · omega
  · omega

theorem daysBeforeMonth_le (year month : Nat) : daysBeforeMonth year month ≤ 31 * month := by
  induction month with
  | zero => exact Nat.le_of_eq rfl
  | succ month ih =>
      rcases Nat.eq_zero_or_pos month with rfl | first
      · exact Nat.zero_le _
      · rw [daysBeforeMonth_succ year first]
        have length := daysInMonth_le year month
        omega

/-- The months before a month lie before every later one. -/
theorem daysBeforeMonth_le_of_lt (year : Nat) {month later : Nat} (first : 1 ≤ month)
    (lt : month < later) :
    daysBeforeMonth year month + daysInMonth year month ≤ daysBeforeMonth year later := by
  induction lt with
  | refl => rw [daysBeforeMonth_succ year first]
  | @step later lt ih =>
      rw [daysBeforeMonth_succ year (Nat.le_trans first (Nat.le_of_lt lt))]
      omega

/-! ## Years -/

/-- The days of a year. -/
def daysInYear (year : Nat) : Nat := if isLeap year then 366 else 365

theorem daysBeforeMonth_end (year : Nat) :
    daysBeforeMonth year 12 + daysInMonth year 12 = daysInYear year := by
  have months : daysBeforeMonth year 12 + daysInMonth year 12 = 337 + daysInMonth year 2 := by
    simp only [daysBeforeMonth, List.range_succ]
    simp [daysInMonth]
    omega
  rw [months]
  change 337 + (if isLeap year then 29 else 28) = if isLeap year then 366 else 365
  split <;> rfl

theorem daysBeforeYear_eq (year : Nat) : daysBeforeYear year =
    365 * (year - 1) + (year - 1) / 4 - (year - 1) / 100 + (year - 1) / 400 := rfl

theorem daysBeforeYear_succ {year : Nat} (first : 1 ≤ year) :
    daysBeforeYear (year + 1) = daysBeforeYear year + daysInYear year := by
  obtain ⟨before, rfl⟩ := Nat.exists_eq_add_of_le' first
  have fewer : before / 100 ≤ before / 4 := Nat.div_le_div_left (by decide) (by decide)
  have inYear : daysInYear (before + 1) = 365 + (if 4 ∣ before + 1 then 1 else 0) -
      (if 100 ∣ before + 1 then 1 else 0) + (if 400 ∣ before + 1 then 1 else 0) := by
    have hundred : 100 ∣ before + 1 → 4 ∣ before + 1 := Nat.dvd_trans (by decide)
    have round : 400 ∣ before + 1 → 100 ∣ before + 1 := Nat.dvd_trans (by decide)
    simp only [daysInYear, isLeap, Nat.dvd_iff_mod_eq_zero] at hundred round ⊢
    grind
  rw [daysBeforeYear_eq, daysBeforeYear_eq, inYear]
  simp only [Nat.add_sub_cancel, Nat.succ_div]
  split <;> split <;> split <;> omega

/-- The years before a year lie before every later one. -/
theorem daysBeforeYear_le_of_lt {year later : Nat} (first : 1 ≤ year) (lt : year < later) :
    daysBeforeYear year + daysInYear year ≤ daysBeforeYear later := by
  induction lt with
  | refl => rw [daysBeforeYear_succ first]
  | @step later lt ih =>
      rw [daysBeforeYear_succ (Nat.le_trans first (Nat.le_of_lt lt))]
      omega

theorem daysBeforeYear_add_round {year : Nat} (first : 1 ≤ year) (rounds : Nat) :
    daysBeforeYear (year + 400 * rounds) = daysBeforeYear year + 146097 * rounds := by
  rw [daysBeforeYear_eq, daysBeforeYear_eq]
  omega

/-! ## Days -/

/-- What there is to know of a day that exists. -/
theorem isValid_iff {d : Date} : d.isValid = true ↔ (1 ≤ d.year ∧ d.year ≤ 9999) ∧
    (1 ≤ d.month ∧ d.month ≤ 12) ∧ 1 ≤ d.day ∧ d.day ≤ daysInMonth d.year d.month := by
  simp [isValid, and_assoc]

/-- The days of a year before a day and up to it. -/
theorem dayOfYear_bounds {d : Date} (valid : d.isValid = true) :
    1 ≤ daysBeforeMonth d.year d.month + d.day ∧
      daysBeforeMonth d.year d.month + d.day ≤ daysInYear d.year := by
  obtain ⟨-, ⟨monthPos, monthLe⟩, dayPos, dayLe⟩ := isValid_iff.mp valid
  rw [← daysBeforeMonth_end]
  rcases Nat.lt_or_eq_of_le monthLe with earlier | december
  · have passed := daysBeforeMonth_le_of_lt d.year monthPos earlier
    omega
  · rw [december] at dayLe ⊢
    omega

/-- Days that exist are told by their numbers. -/
theorem eq_of_dayNumber_eq {d e : Date} (valid : d.isValid = true) (otherValid : e.isValid = true)
    (same : d.dayNumber = e.dayNumber) : d = e := by
  have inYear := dayOfYear_bounds valid
  have otherInYear := dayOfYear_bounds otherValid
  obtain ⟨⟨yearPos, -⟩, ⟨monthPos, -⟩, dayPos, dayLe⟩ := isValid_iff.mp valid
  obtain ⟨⟨otherYearPos, -⟩, ⟨otherMonthPos, -⟩, otherDayPos, otherDayLe⟩ :=
    isValid_iff.mp otherValid
  have counted : daysBeforeYear d.year + daysBeforeMonth d.year d.month + d.day =
      daysBeforeYear e.year + daysBeforeMonth e.year e.month + e.day := by
    unfold dayNumber at same
    omega
  have sameYear : d.year = e.year := by
    rcases Nat.lt_trichotomy d.year e.year with before | same | after
    · have passed := daysBeforeYear_le_of_lt yearPos before
      omega
    · exact same
    · have passed := daysBeforeYear_le_of_lt otherYearPos after
      omega
  rw [sameYear] at counted dayLe
  have sameMonth : d.month = e.month := by
    rcases Nat.lt_trichotomy d.month e.month with before | same | after
    · have passed := daysBeforeMonth_le_of_lt e.year monthPos before
      omega
    · exact same
    · have passed := daysBeforeMonth_le_of_lt e.year otherMonthPos after
      omega
  rw [sameMonth] at counted
  have sameDay : d.day = e.day := by omega
  cases d
  cases e
  simp_all

example : (⟨1970, 1, 1⟩ : Date).dayNumber = 0 := by decide

/-- A bound for the day numbers of all days that exist. -/
theorem natAbs_dayNumber_le {d : Date} (valid : d.isValid = true) :
    d.dayNumber.natAbs ≤ 10000 * 366 := by
  obtain ⟨⟨yearPos, yearLe⟩, ⟨monthPos, monthLe⟩, dayPos, dayLe⟩ := isValid_iff.mp valid
  have monthDays := daysBeforeMonth_le d.year d.month
  have length := daysInMonth_le d.year d.month
  rw [dayNumber, daysBeforeYear_eq]
  omega

/-! ## Days in any year -/

theorem likeYear_eq (year : Nat) : likeYear year = year % 400 + 400 := by
  rw [likeYear, yearsPerRound, Int.fmod_eq_emod_of_nonneg _ (by decide)]
  omega

/-- A year and its like year are whole rounds apart. -/
theorem likeYear_add_rounds (year : Nat) : likeYear year + 400 * (year / 400) = year + 400 * 1 := by
  rw [likeYear_eq]
  omega

theorem daysInMonth_likeYear (year month : Nat) :
    daysInMonth (likeYear year) month = daysInMonth year month := by
  rw [← daysInMonth_add_round _ (year / 400), likeYear_add_rounds, daysInMonth_add_round]

theorem daysBeforeMonth_likeYear (year month : Nat) :
    daysBeforeMonth (likeYear year) month = daysBeforeMonth year month := by
  rw [← daysBeforeMonth_add_round _ (year / 400), likeYear_add_rounds, daysBeforeMonth_add_round]

/-- From the year 1 on, a day has the same number as a day of any year as it has as a date. -/
theorem dayNumberIn_eq {d : Date} (first : 1 ≤ d.year) :
    dayNumberIn d.year d.month d.day = d.dayNumber := by
  have likeFirst : 1 ≤ likeYear d.year := by
    rw [likeYear_eq]
    omega
  have apart := daysBeforeYear_add_round likeFirst (d.year / 400)
  rw [likeYear_add_rounds, daysBeforeYear_add_round first] at apart
  rw [dayNumberIn, dayNumber, dayNumber, daysBeforeMonth_likeYear, yearsPerRound, daysPerRound,
    Int.fdiv_eq_ediv_of_nonneg _ (by decide)]
  dsimp only
  omega

theorem isDayIn_of_isValid {d : Date} (valid : d.isValid = true) :
    isDayIn d.year d.month d.day = true := by
  obtain ⟨-, ⟨monthPos, monthLe⟩, dayPos, dayLe⟩ := isValid_iff.mp valid
  simp [isDayIn, daysInMonth_likeYear, monthPos, monthLe, dayPos, dayLe]

end Date

/-! ## Wall clocks -/

namespace DateTime

/-- The wall clock shows a time of a day that exists. -/
structure IsWallClock (t : DateTime) : Prop where
  date : t.date.isValid = true
  hour : t.hour < 24
  minute : t.minute < 60
  second : t.second < 60
  micro : t.micro < 10 ^ 6

theorem IsWallClock.naive {t : DateTime} (wall : t.IsWallClock) : t.naive.IsWallClock :=
  ⟨wall.date, wall.hour, wall.minute, wall.second, wall.micro⟩

/-- A time that is the same as one without a zone shows the same on its clock. -/
theorem eq_naive_of_sameTime {s t : DateTime} (wall : s.IsWallClock) (otherWall : t.IsWallClock)
    (same : s.sameTime t.naive = true) : s = t.naive := by
  obtain ⟨noZone, micros⟩ := Bool.and_eq_true_iff.mp same
  have zone : s.offset = none := by simpa [DateTime.naive] using noZone
  obtain ⟨day, hour, minute, second, micro⟩ := wall
  obtain ⟨otherDay, otherHour, otherMinute, otherSecond, otherMicro⟩ := otherWall
  simp only [epochMicros, wallSeconds, zone, DateTime.naive, Option.getD_none, beq_iff_eq] at micros
  have sameDay : s.date = t.date := Date.eq_of_dayNumber_eq day otherDay (by omega)
  rw [sameDay] at micros
  cases s
  cases t
  simp only [DateTime.naive, mk.injEq] at *
  exact ⟨sameDay, by omega, by omega, by omega, by omega, zone⟩

end DateTime

end Outreach
