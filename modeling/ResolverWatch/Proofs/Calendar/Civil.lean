import Mathlib.Tactic.Common
import Mathlib.Tactic.IntervalCases
import ResolverWatch.Calendar.Date

/-!
# The days of the calendar

Every number of a day names a day that the calendar has (`valid_ofDay`), and the named day has that number
(`toDay_ofDay`). A later day has a greater number (`toDay_lt_toDay`), so days are numbered in their order
(`before_ofDay`).
-/

namespace ResolverWatch.Calendar

/-- A day that the calendar has. -/
structure Date.Valid (d : Date) : Prop where
  month : 1 ≤ d.month ∧ d.month ≤ 12
  day : 1 ≤ d.day ∧ d.day ≤ daysInMonth d.year d.month

/-- A day in an earlier year, or in an earlier month of the same year, or earlier in the same month. -/
def Date.Before (d e : Date) : Prop :=
  d.year < e.year ∨ d.year = e.year ∧ (d.month < e.month ∨ d.month = e.month ∧ d.day < e.day)

theorem Date.before_trichotomy (d e : Date) : d.Before e ∨ d = e ∨ e.Before d := by
  obtain ⟨year, month, day⟩ := d
  obtain ⟨year', month', day'⟩ := e
  simp only [Date.Before, Date.mk.injEq]
  omega

theorem isLeapYear_iff (year : Int) : isLeapYear year = true ↔ year % 4 = 0 ∧ (year % 100 ≠ 0 ∨ year % 400 = 0) := by
  simp [isLeapYear]

theorem daysInMonth_le (year : Int) (month : Nat) : daysInMonth year month ≤ 31 := by
  unfold daysInMonth
  split_ifs <;> decide

/-! ## Days within 400 years -/

/-- The place of a day in 400 years that start in March: the century and the four years that it lies in, the year of
these, and the day of that year. Only the last of four years has 366 days, and only the last century ends with one. -/
structure OfEra (n c f y d : Nat) : Prop where
  century : c < 4
  four : f < 25
  year : y < 4
  day : d ≤ 365
  leap : d = 365 → y = 3 ∧ (f = 24 → c = 3)
  number : n = 36524 * c + 1461 * f + 365 * y + d

theorem exists_ofEra {n : Nat} (small : n < 146097) : ∃ c f y d, OfEra n c f y d := by
  obtain ⟨c, atMost⟩ : ∃ c, c = min (n / 36524) 3 := ⟨_, rfl⟩
  obtain ⟨f, atMost'⟩ : ∃ f, f = min ((n - 36524 * c) / 1461) 24 := ⟨_, rfl⟩
  obtain ⟨y, atMost''⟩ : ∃ y, y = min ((n - 36524 * c - 1461 * f) / 365) 3 := ⟨_, rfl⟩
  refine ⟨c, f, y, n - 36524 * c - 1461 * f - 365 * y, ?_, ?_, ?_, ?_, ?_, ?_⟩ <;> omega

section OfEra

variable {n c f y d : Nat} (ofEra : OfEra n c f y d)
include ofEra

/-- The year of a day: the leap days before it are taken off, and the rest is cut into years of 365 days. -/
theorem OfEra.year_eq : (n - n / 1460 + n / 36524 - n / 146096) / 365 = 100 * c + 4 * f + y := by
  obtain ⟨century, four, year, day, leap, number⟩ := ofEra
  have fours : n / 1460 = 25 * c + f ∨ n / 1460 = 25 * c + f + 1 := by omega
  rcases Nat.lt_or_ge n 146096 with inside | last
  · have centuries : n / 36524 = c := by omega
    have none : n / 146096 = 0 := by omega
    rw [centuries, none]
    rcases fours with before | after
    · rw [before]
      omega
    · rw [after]
      omega
  · have centuries : n / 36524 = 4 := by omega
    omega

theorem OfEra.day_eq :
    n - (365 * (100 * c + 4 * f + y) + (100 * c + 4 * f + y) / 4 - (100 * c + 4 * f + y) / 100) = d := by
  obtain ⟨century, four, year, -, -, number⟩ := ofEra
  have fours : (100 * c + 4 * f + y) / 4 = 25 * c + f := by omega
  have centuries : (100 * c + 4 * f + y) / 100 = c := by omega
  rw [fours, centuries]
  omega

end OfEra

/-- The date of a day by its place in 400 years; months are counted from March. -/
theorem Date.exists_ofDay (n : Int) :
    ∃ (era : Int) (c f y d m : Nat), OfEra (36524 * c + 1461 * f + 365 * y + d) c f y d ∧
      n + 719468 = era * 146097 + (36524 * c + 1461 * f + 365 * y + d : Nat) ∧ m = (5 * d + 2) / 153 ∧
      Date.ofDay n = ⟨era * 400 + (100 * c + 4 * f + y : Nat) + (if m < 10 then 0 else 1),
        if m < 10 then m + 3 else m - 9, d - (153 * m + 2) / 5 + 1⟩ := by
  have whole := Int.fdiv_eq_ediv_of_nonneg (n + 719468) (b := 146097) (by decide)
  obtain ⟨k, rest⟩ : ∃ k : Nat, (n + 719468 - (n + 719468).fdiv 146097 * 146097).toNat = k := ⟨_, rfl⟩
  obtain ⟨c, f, y, d, ofEra⟩ := exists_ofEra (n := k) (by omega)
  have number := ofEra.number
  refine ⟨(n + 719468).fdiv 146097, c, f, y, d, _, number ▸ ofEra, by omega, rfl, ?_⟩
  unfold Date.ofDay
  dsimp only
  rw [rest, ofEra.year_eq, ofEra.day_eq]
  have months : (5 * d + 2) / 153 ≤ 11 := by
    have := ofEra.day
    omega
  generalize (5 * d + 2) / 153 = m at months
  by_cases early : m < 10
  · rw [if_pos early, if_pos early, if_neg (by omega)]
  · rw [if_neg early, if_neg early, if_pos (by omega)]

/-! ## Months from March -/

/-- The month that comes `m` months after March. -/
def monthFromMarch (m : Nat) : Nat :=
  if m < 10 then m + 3 else m - 9

/-- The days from the start of March to the start of a month. -/
def daysFromMarch (m : Nat) : Nat :=
  (153 * m + 2) / 5

/-- Any month but February has the same length in all years. -/
theorem daysInMonth_of_le (year : Int) {m : Nat} (early : m ≤ 10) :
    daysFromMarch m + daysInMonth year (monthFromMarch m) = daysFromMarch (m + 1) := by
  interval_cases m <;> rfl

/-- February is the last month from March. -/
theorem daysInMonth_february (year : Int) :
    daysFromMarch 11 + daysInMonth year (monthFromMarch 11) = if isLeapYear year then 366 else 365 := by
  show 337 + (if isLeapYear year then 29 else 28) = _
  split <;> rfl

theorem Date.valid_ofDay (n : Int) : (Date.ofDay n).Valid := by
  obtain ⟨era, c, f, y, d, m, ⟨century, four, year, day, leap, -⟩, -, months, named⟩ := Date.exists_ofDay n
  have most : m ≤ 11 := by omega
  have first : daysFromMarch m ≤ d := by
    unfold daysFromMarch
    omega
  have last : d - daysFromMarch m + 1 ≤ daysInMonth (Date.ofDay n).year (monthFromMarch m) := by
    rcases Nat.lt_or_eq_of_le most with early | rfl
    · have length := daysInMonth_of_le (Date.ofDay n).year (Nat.le_of_lt_succ early)
      have before : d < daysFromMarch (m + 1) := by
        unfold daysFromMarch
        omega
      omega
    · have length := daysInMonth_february (Date.ofDay n).year
      have number := isLeapYear_iff (Date.ofDay n).year
      have named' : (Date.ofDay n).year = era * 400 + (100 * c + 4 * f + y : Nat) + 1 := congrArg Date.year named
      rw [named'] at number
      split at length
      · omega
      · next common =>
        rw [named', number] at common
        omega
  rw [named] at last ⊢
  refine ⟨?_, Nat.le_add_left 1 _, last⟩
  dsimp only
  split <;> omega

/-! ## Numbers of days -/

/-- The days before a year that starts in March, from the year zero on. -/
def daysBefore (year : Int) : Int :=
  365 * year + year / 4 - year / 100 + year / 400

/-- A year that starts in March ends with the leap day of the next year. -/
theorem daysBefore_succ (year : Int) :
    daysBefore (year + 1) = daysBefore year + (if isLeapYear (year + 1) then 366 else 365) := by
  have fours : (year + 1) / 4 = year / 4 + (if (year + 1) % 4 = 0 then 1 else 0) := by
    split <;> omega
  have centuries : (year + 1) / 100 = year / 100 + (if (year + 1) % 100 = 0 then 1 else 0) := by
    split <;> omega
  have eras : (year + 1) / 400 = year / 400 + (if (year + 1) % 400 = 0 then 1 else 0) := by
    split <;> omega
  unfold daysBefore
  rw [fours, centuries, eras]
  simp only [isLeapYear_iff]
  split_ifs <;> omega

theorem daysBefore_le {year year' : Int} (le : year ≤ year') : daysBefore year ≤ daysBefore year' := by
  unfold daysBefore
  omega

/-- The number of a day, by a month that is counted from March. -/
theorem Date.toDay_fromMarch (year : Int) {m : Nat} (most : m ≤ 11) (day : Nat) :
    Date.toDay ⟨year + (if m < 10 then 0 else 1), monthFromMarch m, day⟩ =
      daysBefore year + daysFromMarch m + day - 719469 := by
  have start : (if monthFromMarch m ≤ 2 then year + (if m < 10 then 0 else 1) - 1 else
      year + (if m < 10 then 0 else 1)) = year := by
    unfold monthFromMarch
    split_ifs <;> omega
  have months : (if monthFromMarch m > 2 then (monthFromMarch m : Int) - 3 else monthFromMarch m + 9) = m := by
    unfold monthFromMarch
    split_ifs <;> omega
  unfold Date.toDay daysBefore daysFromMarch
  dsimp only
  rw [start, months]
  simp only [Int.fdiv_eq_ediv_of_nonneg _ (show (0 : Int) ≤ 400 by decide),
    Int.fdiv_eq_ediv_of_nonneg _ (show (0 : Int) ≤ 100 by decide),
    Int.fdiv_eq_ediv_of_nonneg _ (show (0 : Int) ≤ 5 by decide),
    Int.fdiv_eq_ediv_of_nonneg _ (show (0 : Int) ≤ 4 by decide)]
  have fours : (year - year / 400 * 400) / 4 = year / 4 - 100 * (year / 400) := by omega
  have centuries : (year - year / 400 * 400) / 100 = year / 100 - 4 * (year / 400) := by omega
  omega

/-- The day of a number has that number. -/
theorem Date.toDay_ofDay (n : Int) : (Date.ofDay n).toDay = n := by
  obtain ⟨era, c, f, y, d, m, ⟨century, four, year, day, -, -⟩, number, months, named⟩ := Date.exists_ofDay n
  have first : daysFromMarch m ≤ d := by
    unfold daysFromMarch
    omega
  rw [named]
  show Date.toDay ⟨_, monthFromMarch m, d - daysFromMarch m + 1⟩ = n
  rw [Date.toDay_fromMarch _ (by omega)]
  unfold daysBefore
  omega

/-- A date by the month from March and the year that starts then. -/
theorem Date.Valid.exists_fromMarch {d : Date} (valid : d.Valid) :
    ∃ (year : Int) (m : Nat), m ≤ 11 ∧ d = ⟨year + (if m < 10 then 0 else 1), monthFromMarch m, d.day⟩ := by
  obtain ⟨year, month, day⟩ := d
  obtain ⟨least, most⟩ : 1 ≤ month ∧ month ≤ 12 := valid.month
  unfold monthFromMarch
  by_cases early : month ≤ 2
  · refine ⟨year - 1, month + 9, by omega, ?_⟩
    rw [if_neg (by omega), if_neg (by omega)]
    simp only [Date.mk.injEq, and_true]
    omega
  · refine ⟨year, month - 3, by omega, ?_⟩
    rw [if_pos (by omega), if_pos (by omega)]
    simp only [Date.mk.injEq, and_true]
    omega

section FromMarch

variable {year year' : Int} {m m' day day' : Nat} (most : m ≤ 11)
  (valid : Date.Valid ⟨year + (if m < 10 then 0 else 1), monthFromMarch m, day⟩)
include most valid

theorem Date.Valid.le_nextMonth (later : m < m') (most' : m' ≤ 11) : daysFromMarch m + day ≤ daysFromMarch m' := by
  have length := daysInMonth_of_le (year + (if m < 10 then 0 else 1)) (m := m) (by omega)
  have next : daysFromMarch (m + 1) ≤ daysFromMarch m' := by
    unfold daysFromMarch
    omega
  have last : day ≤ daysInMonth (year + (if m < 10 then 0 else 1)) (monthFromMarch m) := valid.day.2
  omega

theorem Date.Valid.le_nextYear : daysBefore year + daysFromMarch m + day ≤ daysBefore (year + 1) := by
  have last : day ≤ daysInMonth (year + (if m < 10 then 0 else 1)) (monthFromMarch m) := valid.day.2
  rw [daysBefore_succ]
  rcases Nat.lt_or_eq_of_le most with early | rfl
  · have before := valid.le_nextMonth most (Nat.lt_add_one m) (by omega)
    have latest : daysFromMarch (m + 1) ≤ 337 := by
      unfold daysFromMarch
      omega
    split <;> omega
  · have length := daysInMonth_february (year + 1)
    change day ≤ daysInMonth (year + 1) (monthFromMarch 11) at last
    split_ifs at length ⊢ <;> omega

end FromMarch

/-- A later day has a greater number. -/
theorem Date.toDay_lt_toDay {d e : Date} (valid : d.Valid) (valid' : e.Valid) (before : d.Before e) :
    d.toDay < e.toDay := by
  obtain ⟨year, m, most, named⟩ := valid.exists_fromMarch
  obtain ⟨year', m', most', named'⟩ := valid'.exists_fromMarch
  have positive := valid'.day.1
  have order : year < year' ∨ year = year' ∧ (m < m' ∨ m = m' ∧ d.day < e.day) := by
    rw [named, named'] at before
    unfold Date.Before monthFromMarch at before
    dsimp only at before
    split_ifs at before <;> omega
  rw [named] at valid
  rw [named, named', Date.toDay_fromMarch _ most, Date.toDay_fromMarch _ most']
  rcases order with years | ⟨rfl, months | ⟨rfl, days⟩⟩
  · have last := valid.le_nextYear most
    have next : daysBefore (year + 1) ≤ daysBefore year' := daysBefore_le years
    omega
  · have last := valid.le_nextMonth most months most'
    omega
  · omega

/-- Days are numbered in their order. -/
theorem Date.before_ofDay {m n : Int} (less : m < n) : (Date.ofDay m).Before (Date.ofDay n) := by
  rcases Date.before_trichotomy (Date.ofDay m) (Date.ofDay n) with before | same | after
  · exact before
  · have numbers := congrArg Date.toDay same
    rw [Date.toDay_ofDay, Date.toDay_ofDay] at numbers
    omega
  · have numbers := Date.toDay_lt_toDay (Date.valid_ofDay n) (Date.valid_ofDay m) after
    rw [Date.toDay_ofDay, Date.toDay_ofDay] at numbers
    omega

end ResolverWatch.Calendar
