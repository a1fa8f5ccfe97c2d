/-!
# The Gregorian calendar

Days are numbered from 1 January 1970. `Date.ofDay` names a day in the Gregorian calendar, which
is extended to all years; the count of days starts in March, so that the leap day comes last
in its year, and 400 years have 146097 days.
-/

namespace ResolverWatch.Calendar

/-- A day by year, month and day of the month. -/
structure Date where
  year : Int
  month : Nat
  day : Nat
  deriving DecidableEq, Repr

/-- Years divisible by four are leap years, except centuries not divisible by 400. -/
def isLeapYear (year : Int) : Bool :=
  year % 4 == 0 && (year % 100 != 0 || year % 400 == 0)

/-- The number of days of a month. -/
def daysInMonth (year : Int) (month : Nat) : Nat :=
  if month = 2 then if isLeapYear year then 29 else 28
  else if month = 4 ∨ month = 6 ∨ month = 9 ∨ month = 11 then 30
  else 31

/-- The day of the given number. -/
def Date.ofDay (n : Int) : Date :=
  let shifted := n + 719468
  let era := shifted.fdiv 146097
  let ofEra := (shifted - era * 146097).toNat
  let yearOfEra := (ofEra - ofEra / 1460 + ofEra / 36524 - ofEra / 146096) / 365
  let ofYear := ofEra - (365 * yearOfEra + yearOfEra / 4 - yearOfEra / 100)
  let fromMarch := (5 * ofYear + 2) / 153
  let day := ofYear - (153 * fromMarch + 2) / 5 + 1
  let month := if fromMarch < 10 then fromMarch + 3 else fromMarch - 9
  let year := era * 400 + yearOfEra + (if month ≤ 2 then 1 else 0)
  ⟨year, month, day⟩

/-- The number of a day. -/
def Date.toDay (d : Date) : Int :=
  let year := if d.month ≤ 2 then d.year - 1 else d.year
  let era := year.fdiv 400
  let yearOfEra := year - era * 400
  let fromMarch : Int := if d.month > 2 then (d.month : Int) - 3 else d.month + 9
  let ofYear := (153 * fromMarch + 2).fdiv 5 + d.day - 1
  let ofEra := yearOfEra * 365 + yearOfEra.fdiv 4 - yearOfEra.fdiv 100 + ofYear
  era * 146097 + ofEra - 719468

example : Date.ofDay 0 = ⟨1970, 1, 1⟩ := by decide
example : Date.ofDay (-719162) = ⟨1, 1, 1⟩ := by decide
example : Date.ofDay 11016 = ⟨2000, 2, 29⟩ := by decide
example : Date.toDay ⟨2000, 2, 29⟩ = 11016 := by decide

end ResolverWatch.Calendar
