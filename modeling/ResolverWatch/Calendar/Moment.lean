import ResolverWatch.Calendar.Date
import ResolverWatch.Decimal.Layout

/-!
# Moments

A moment is a day, or a day and a time of day, which may be given relative to UTC. Two moments
with an offset are the same when they are the same instant; a moment without one is only the
same as another without one.
-/

namespace ResolverWatch.Calendar

open Decimal

/-- A time of day, with the minutes that it is ahead of UTC if they are known. -/
structure TimeOfDay where
  hour : Nat
  minute : Nat
  second : Nat
  microsecond : Nat
  offset : Option Int
  deriving DecidableEq, Repr

/-- A day, or a time on it. -/
structure Moment where
  date : Date
  time : Option TimeOfDay
  deriving DecidableEq, Repr

/-- The microseconds from the start of 1970, by a clock that is `offset` minutes ahead of UTC. -/
def Moment.instant (date : Date) (time : TimeOfDay) (offset : Int) : Int :=
  let minutes := (date.toDay * 24 + time.hour) * 60 + time.minute - offset
  (minutes * 60 + time.second) * 1000000 + time.microsecond

/-- Two moments are the same day, or the same time. -/
def Moment.same (a b : Moment) : Bool :=
  match a.time, b.time with
  | none, none => a.date == b.date
  | some s, some t =>
    match s.offset, t.offset with
    | none, none => instant a.date s 0 == instant b.date t 0
    | some m, some n => instant a.date s m == instant b.date t n
    | _, _ => false
  | _, _ => false

/-- Numbers with a comma and a space between them. -/
def listed (ns : List Nat) : String :=
  ", ".intercalate (ns.map fun n => String.ofList (natDigits n))

/-- A number of minutes, in days and seconds of which only the days may be negative. -/
def spanText (minutes : Int) : String :=
  let days := minutes.fdiv 1440
  let seconds := (minutes - days * 1440) * 60
  let parts :=
    (if days = 0 then [] else [s!"days={days}"]) ++ (if seconds = 0 then [] else [s!"seconds={seconds}"])
  let body := if parts.isEmpty then "0" else ", ".intercalate parts
  s!"datetime.timedelta({body})"

/-- An offset from UTC in minutes. -/
def offsetText (minutes : Int) : String :=
  if minutes = 0 then "datetime.timezone.utc" else s!"datetime.timezone({spanText minutes})"

/-- A moment as a message shows it. Seconds and microseconds are left out when they are zero and
nothing but the offset follows them. -/
def Moment.shown (m : Moment) : String :=
  let day := [m.date.year.toNat, m.date.month, m.date.day]
  match m.time with
  | none => s!"datetime.date({listed day})"
  | some t =>
    let tail :=
      if t.microsecond ≠ 0 then [t.second, t.microsecond] else if t.second ≠ 0 then [t.second] else []
    let numbers := day ++ [t.hour, t.minute] ++ tail
    let zone := match t.offset with
      | none => ""
      | some minutes => ", tzinfo=" ++ offsetText minutes
    s!"datetime.datetime({listed numbers}{zone})"

end ResolverWatch.Calendar
