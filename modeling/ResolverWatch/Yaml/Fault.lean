import ResolverWatch.Calendar.Moment
import ResolverWatch.Text.Quoted

/-!
# Faults of a YAML document

A document can be ill-formed (`invalid`), or be well-formed and hold a scalar that no value can be
made of: a character that does not exist, digits that are no number, or a time that is not on
the calendar. One whose parts stand too deep in each other may be given up (`tooDeep`).
-/

namespace ResolverWatch.Yaml

open Text

/-- Why a document cannot be read. -/
inductive Fault
  | invalid
  | tooDeep
  | charCode (code : Nat)
  | wholeText (base : Nat) (text : List Char)
  | wholeDigits (count : Nat)
  | realText (text : List Char)
  | emptyNumber
  | truthText (text : List Char)
  | noTimestamp
  | timestampNode
  | year
  | month
  | day
  | hour
  | minute
  | second
  | offset (minutes : Int)
  deriving DecidableEq, Repr

/-- Decimal numbers may have this many digits. -/
def longestDecimal : Nat :=
  4300

/-- Characters up to here exist. -/
def lastCharCode : Nat :=
  0x10ffff

/-- The wording of a fault. A quoted text is cut after 200 characters where it shows a number. -/
def Fault.message : Fault → String
  | .invalid => "invalid document"
  | .tooDeep => "maximum recursion depth exceeded"
  | .charCode code =>
    if code < 0x80000000 then "chr() arg not in range(0x110000)"
    else "Python int too large to convert to C int"
  | .wholeText base text =>
    let shown := String.ofList ((quoted text).take 200)
    s!"invalid literal for int() with base {base}: {shown}"
  | .wholeDigits count =>
    s!"Exceeds the limit ({longestDecimal} digits) for integer string conversion: value has {count} digits; " ++
      "use sys.set_int_max_str_digits() to increase the limit"
  | .realText text => "could not convert string to float: " ++ String.ofList (quoted text)
  | .emptyNumber => "string index out of range"
  | .truthText text => String.ofList (quoted text)
  | .noTimestamp => "'NoneType' object has no attribute 'groupdict'"
  | .timestampNode => "expected string or bytes-like object, got 'list'"
  | .year => "year 0 is out of range"
  | .month => "month must be in 1..12"
  | .day => "day is out of range for month"
  | .hour => "hour must be in 0..23"
  | .minute => "minute must be in 0..59"
  | .second => "second must be in 0..59"
  | .offset minutes =>
    "offset must be a timedelta strictly between -timedelta(hours=24) and timedelta(hours=24), not " ++
      Calendar.spanText minutes ++ "."

end ResolverWatch.Yaml
