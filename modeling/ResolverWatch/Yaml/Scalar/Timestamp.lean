import ResolverWatch.Decimal.Literal
import ResolverWatch.Yaml.Character
import ResolverWatch.Yaml.Fault

/-!
# Timestamps

A timestamp is a day, or a day, a time and possibly an offset from UTC, written in digits:
`2001-12-14`, `2001-12-14 21:59:43.10 -5:30`. `Timestamp.split?` says which texts have this form
and `Timestamp.moment` whether the parts are on the calendar.
-/

namespace ResolverWatch.Yaml

open Calendar Decimal Text

/-- The time of a timestamp: the digits of the fraction, and the minutes of the offset. -/
structure Timestamp.Time where
  hour : Nat
  minute : Nat
  second : Nat
  fraction : List Nat
  offset : Option Int
  deriving DecidableEq, Repr

/-- The parts of a timestamp; whether month and day have two digits. -/
structure Timestamp where
  year : Nat
  month : Nat
  day : Nat
  padded : Bool
  time : Option Timestamp.Time
  deriving DecidableEq, Repr

namespace Timestamp

/-- At least `least` and at most `most` digits at the start of a text, their values, and the rest. -/
def digits? (least most : Nat) (cs : List Char) : Option (List Nat × List Char) :=
  let (ds, _) := spanDigits asciiDigitValue? (cs.take most)
  if ds.length < least then none else some (ds, cs.drop ds.length)

/-- The text behind a given character. -/
def after? (c : Char) : List Char → Option (List Char)
  | d :: cs => if d = c then some cs else none
  | [] => none

/-- The offset at the end of a timestamp: nothing, or spaces and `Z` or a sign, hours and minutes. -/
def offset? (cs : List Char) : Option (Option Int) :=
  if cs.isEmpty then some none
  else match cs.dropWhile isGap with
    | ['Z'] => some (some 0)
    | sign :: cs =>
      if sign = '+' ∨ sign = '-' then do
        let (hour, cs) ← digits? 1 2 cs
        let minute ← match cs with
          | [] => some []
          | ':' :: cs => (digits? 2 2 cs).bind fun (ds, cs) => if cs.isEmpty then some ds else none
          | _ => none
        let minutes : Int := ofDigits 10 hour * 60 + ofDigits 10 minute
        return some (if sign = '-' then -minutes else minutes)
      else none
    | [] => none

/-- The time of a timestamp, behind what separates it from the day. -/
def time? (cs : List Char) : Option Time := do
  let (hour, cs) ← digits? 1 2 cs
  let (minute, cs) ← (after? ':' cs).bind (digits? 2 2)
  let (second, cs) ← (after? ':' cs).bind (digits? 2 2)
  let (fraction, cs) := match cs with
    | '.' :: cs => spanDigits asciiDigitValue? cs
    | cs => ([], cs)
  let offset ← offset? cs
  return ⟨ofDigits 10 hour, ofDigits 10 minute, ofDigits 10 second, fraction, offset⟩

/-- The text behind what separates a time from a day: a letter, or spaces. -/
def afterDay? : List Char → Option (List Char)
  | c :: cs =>
    if c = 'T' ∨ c = 't' then some cs else if isGap c then some (cs.dropWhile isGap) else none
  | [] => none

/-- Splits a text that has the form of a timestamp. -/
def split? (cs : List Char) : Option Timestamp := do
  let (year, cs) ← digits? 4 4 cs
  let (month, cs) ← (after? '-' cs).bind (digits? 1 2)
  let (day, cs) ← (after? '-' cs).bind (digits? 1 2)
  let time ← if cs.isEmpty then some none else ((afterDay? cs).bind time?).map some
  return ⟨ofDigits 10 year, ofDigits 10 month, ofDigits 10 day, month.length == 2 && day.length == 2, time⟩

/-- A plain scalar is a timestamp if it has the form of one; a day alone has to be padded. -/
def isPlain (cs : List Char) : Bool :=
  (split? cs).any fun t => t.padded || t.time.isSome

/-- The day of a timestamp. -/
def date (t : Timestamp) : Except Fault Date :=
  if t.year < 1 then .error .year
  else if t.month < 1 ∨ 12 < t.month then .error .month
  else if t.day < 1 ∨ daysInMonth t.year t.month < t.day then .error .day
  else .ok ⟨t.year, t.month, t.day⟩

/-- The microseconds that the digits of a fraction stand for; further digits are cut off. -/
def Time.microsecond (t : Time) : Nat :=
  ofDigits 10 ((t.fraction ++ List.replicate 6 0).take 6)

/-- An offset is less than a day. -/
def Time.checkOffset (t : Time) : Except Fault Unit :=
  match t.offset with
  | some minutes => if 1440 ≤ minutes.natAbs then .error (.offset minutes) else .ok ()
  | none => .ok ()

/-- The time of day. -/
def Time.ofDay (t : Time) : Except Fault TimeOfDay :=
  if 23 < t.hour then .error .hour
  else if 59 < t.minute then .error .minute
  else if 59 < t.second then .error .second
  else .ok ⟨t.hour, t.minute, t.second, t.microsecond, t.offset⟩

/-- The moment of a timestamp. Its offset is looked at first. -/
def moment (t : Timestamp) : Except Fault Moment :=
  match t.time with
  | none => t.date.map fun d => ⟨d, none⟩
  | some time => do
    time.checkOffset
    let d ← t.date
    let ofDay ← time.ofDay
    return ⟨d, some ofDay⟩

/-- The moment that a text spells; one line feed behind it is ignored. -/
def read (cs : List Char) : Except Fault Moment :=
  match split? (if cs.getLast? = some '\n' then cs.dropLast else cs) with
  | some t => t.moment
  | none => .error .noTimestamp

example : (split? "2001-12-14t21:59:43.10-05:30".toList).isSome := by decide +kernel
example : isPlain "2001-1-4".toList = false := by decide +kernel

end Timestamp

end ResolverWatch.Yaml
