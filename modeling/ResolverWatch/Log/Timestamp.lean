import ResolverWatch.Calendar.Date
import ResolverWatch.Decimal.Layout
import ResolverWatch.Decimal.Whole

/-!
# Times in the log

A record's time is a double, in seconds from the start of 1970. It is rounded to microseconds,
cut to whole seconds, and written as a UTC date and time. The calendar of the log has the years
1 to 9999, whose numbers are not padded.
-/

namespace ResolverWatch.Log

open Calendar Decimal

/-- Why a time cannot be written. -/
inductive TimeFault
  | undefinedTime
  | beyondSeconds
  | beyondCalendar
  | year (shown : Int)
  deriving DecidableEq, Repr

/-- The wording of a fault. -/
def TimeFault.message : TimeFault → String
  | .undefinedTime => "Invalid value NaN (not a number)"
  | .beyondSeconds => "timestamp out of range for platform time_t"
  | .beyondCalendar => "[Errno 75] Value too large for defined data type"
  | .year shown => s!"year {shown} is out of range"

/-- The whole second of a time that is rounded to microseconds, a half going to the even one. The
product with a million is rounded to a double first. -/
def wholeSecond? (time : Float) : Option Int := do
  let seconds ← truncate? time
  let micros ← nearestEven? ((time - Float.ofInt seconds) * 1000000.0)
  return if 1000000 ≤ micros then seconds + 1 else if micros < 0 then seconds - 1 else seconds

/-- A number of two digits. -/
def twoDigits (n : Nat) : List Char :=
  if n < 10 then '0' :: natDigits n else natDigits n

/-- Seconds are kept as 64-bit numbers. -/
def secondBound : Int :=
  0x8000000000000000

/-- Years since 1900 are kept as 32-bit numbers, and so is the year that a fault shows. -/
def yearBound : Int :=
  0x80000000

/-- The text of a whole second, with its date. -/
def secondText (second : Int) (date : Date) : List Char :=
  let ofDay := (second - second.fdiv 86400 * 86400).toNat
  natDigits date.year.toNat ++ '-' :: twoDigits date.month ++ '-' :: twoDigits date.day ++
    'T' :: twoDigits (ofDay / 3600) ++ ':' :: twoDigits (ofDay / 60 % 60) ++
    ':' :: twoDigits (ofDay % 60) ++ ['Z']

/-- The text of a time. -/
def timeText (time : Float) : Except TimeFault (List Char) :=
  if time.isNaN then .error .undefinedTime
  else match wholeSecond? time with
    | none => .error .beyondSeconds
    | some second =>
      if second < -secondBound ∨ secondBound ≤ second then .error .beyondSeconds
      else
        let date := Date.ofDay (second.fdiv 86400)
        if date.year - 1900 < -yearBound ∨ yearBound ≤ date.year - 1900 then .error .beyondCalendar
        else if date.year < 1 ∨ 9999 < date.year then .error (.year (date.year.bmod 0x100000000))
        else .ok (secondText second date)

end ResolverWatch.Log
