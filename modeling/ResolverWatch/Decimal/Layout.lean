import ResolverWatch.Decimal.Shortest

/-!
# Decimal text of a double

The digits are the shortest that read back. Where they are placed, and how the values that have
no digits are called, is one `Layout`; the two that this library writes differ in those names
only.
-/

namespace ResolverWatch.Decimal

open Float.Model.UnpackedFloat

/-- How numbers are laid out: the decimal exponents from `leastFixed` up to but not including
`leastScientific` are written without a power of ten. -/
structure Layout where
  leastFixed : Int
  leastScientific : Int
  infinity : String
  undefinedValue : String

/-- The layout of numbers in messages. -/
def Layout.message : Layout where
  leastFixed := -4
  leastScientific := 16
  infinity := "inf"
  undefinedValue := "nan"

/-- The layout of numbers in documents. -/
def Layout.document : Layout where
  leastFixed := -4
  leastScientific := 16
  infinity := "Infinity"
  undefinedValue := "NaN"

/-- The decimal digits of a number. -/
def natDigits (n : Nat) : List Char :=
  Nat.toDigits 10 n

/-- Digits with a point after the first `point` of them, filled up with zeros where there are none,
and at least one digit on each side. -/
def fixedDigits (ds : List Char) (point : Int) : List Char :=
  if point ≤ 0 then '0' :: '.' :: List.replicate (-point).toNat '0' ++ ds
  else
    let n := point.toNat
    if ds.length ≤ n then ds ++ List.replicate (n - ds.length) '0' ++ ['.', '0']
    else ds.take n ++ '.' :: ds.drop n

/-- Digits with a point after the first, if there are more, and a power of ten of at least two
digits. -/
def scientificDigits (ds : List Char) (exponent : Int) : List Char :=
  let mantissa := match ds with
    | d :: e :: rest => d :: '.' :: e :: rest
    | ds => ds
  let power := natDigits exponent.natAbs
  let sign := if exponent < 0 then '-' else '+'
  mantissa ++ 'e' :: sign :: List.replicate (2 - power.length) '0' ++ power

/-- The text of a positive decimal. -/
def Scaled.text (layout : Layout) (s : Scaled) : List Char :=
  let ds := natDigits s.digits
  let exponent := s.exponent + ds.length - 1
  if layout.leastFixed ≤ exponent ∧ exponent < layout.leastScientific then
    fixedDigits ds (exponent + 1)
  else scientificDigits ds exponent

/-- A minus sign for a negative number. -/
def signText : Sign → List Char
  | .positive => []
  | .negative => ['-']

/-- The text of a double. -/
def floatText (layout : Layout) (x : Float) : List Char :=
  match x.toModel.unpack with
  | .notANumber => layout.undefinedValue.toList
  | .infinity s => signText s ++ layout.infinity.toList
  | .zero s => signText s ++ ['0', '.', '0']
  | .finite s m q _ => signText s ++ (shortest m q).text layout

end ResolverWatch.Decimal
