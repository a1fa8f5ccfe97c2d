import Mathlib.Tactic.Common
import ResolverWatch.Log.Timestamp

/-!
# Times that have a text

The years of the calendar lie far within the numbers that seconds and years are kept as. So a time has a text iff it
has a whole second whose date is in the years 1 to 9999 (`exists_timeText_iff`).
-/

namespace ResolverWatch

open Calendar Log

/-- A day lies in the 400 years that it is counted from, or in the first months after them. -/
theorem Calendar.Date.year_bounds (day : Int) :
    400 * (day + 719468).fdiv 146097 ≤ (Date.ofDay day).year ∧
      (Date.ofDay day).year ≤ 400 * (day + 719468).fdiv 146097 + 402 := by
  unfold Date.ofDay
  dsimp only
  rw [Int.fdiv_eq_ediv_of_nonneg _ (by decide)]
  have small : (day + 719468 - (day + 719468) / 146097 * 146097).toNat < 146097 := by omega
  generalize (day + 719468 - (day + 719468) / 146097 * 146097).toNat = n at small ⊢
  generalize (day + 719468) / 146097 = era
  have years : (n - n / 1460 + n / 36524 - n / 146096) / 365 ≤ 401 := by omega
  generalize (n - n / 1460 + n / 36524 - n / 146096) / 365 = yearOfEra at years ⊢
  split_ifs <;> omega

namespace Log

/-- The whole second of a time, after rounding, lies in the years 1 to 9999. -/
def InCalendar (time : Float) : Prop :=
  ∃ second, wholeSecond? time = some second ∧ 1 ≤ (Date.ofDay (second.fdiv 86400)).year ∧
    (Date.ofDay (second.fdiv 86400)).year ≤ 9999

theorem isNaN_of_wholeSecond? {time : Float} {second : Int} (whole : wholeSecond? time = some second) :
    time.isNaN = false := by
  rw [← Bool.not_eq_true]
  intro undefined
  have none : Decimal.truncate? time = none := by
    change time.toModel.unpack.isNaN = true at undefined
    unfold Decimal.truncate?
    revert undefined
    cases time.toModel.unpack with
    | notANumber => exact fun _ => rfl
    | infinity | zero | finite => exact fun number => absurd number Bool.false_ne_true
  unfold wholeSecond? at whole
  rw [none] at whole
  contradiction

/-- A second in the years 1 to 9999 is within all other bounds. -/
theorem timeText_of_year {time : Float} {second : Int} (whole : wholeSecond? time = some second)
    (least : 1 ≤ (Date.ofDay (second.fdiv 86400)).year) (most : (Date.ofDay (second.fdiv 86400)).year ≤ 9999) :
    timeText time = .ok (secondText second (Date.ofDay (second.fdiv 86400))) := by
  have bounds := Date.year_bounds (second.fdiv 86400)
  rw [Int.fdiv_eq_ediv_of_nonneg _ (by decide)] at bounds
  have day : -1000000 ≤ second.fdiv 86400 ∧ second.fdiv 86400 ≤ 4000000 := by omega
  rw [Int.fdiv_eq_ediv_of_nonneg _ (by decide)] at day
  unfold timeText
  rw [isNaN_of_wholeSecond? whole, whole]
  dsimp only
  rw [if_neg Bool.false_ne_true, if_neg, if_neg, if_neg]
  · omega
  · unfold yearBound
    omega
  · unfold secondBound
    omega

theorem exists_timeText_iff (time : Float) : (∃ text, timeText time = .ok text) ↔ InCalendar time := by
  constructor
  · rintro ⟨text, written⟩
    unfold timeText at written
    unfold InCalendar
    split_ifs at written
    split at written
    · contradiction
    · next second whole =>
      dsimp only at written
      split_ifs at written with _ _ outside
      exact ⟨second, whole, by omega⟩
  · rintro ⟨second, whole, least, most⟩
    exact ⟨_, timeText_of_year whole least most⟩

end Log

end ResolverWatch
