import ResolverWatch.Decimal.Literal
import ResolverWatch.Text.Lower
import ResolverWatch.Yaml.Character
import ResolverWatch.Yaml.Fault

/-!
# Numbers

Whole numbers are written in base 2, 8, 10, 16 or 60, reals in base 10 or 60, and underscores may
stand among the digits. The forms `isWhole` and `isReal` decide which plain scalars are numbers;
`whole` and `real` make the numbers, and fail on a few texts of these forms and on other texts that
are tagged as numbers.
-/

namespace ResolverWatch.Yaml.Number

open Decimal Text

/-- A text without its sign. -/
def unsigned (cs : List Char) : List Char :=
  (splitSign cs).2

/-- A digit of a base up to ten, or an underscore. -/
def isDigitOf (base : Nat) (c : Char) : Bool :=
  c = '_' || (asciiDigitValue? c).any (· < base)

/-- A hexadecimal digit or an underscore. -/
def isHexDigit (c : Char) : Bool :=
  c = '_' || (hexValue? c).isSome

/-- A nonempty text of characters of a class. -/
def isRun (p : Char → Bool) (cs : List Char) : Bool :=
  !cs.isEmpty && cs.all p

/-- A digit from `first` to `9`, then digits and underscores. -/
def isDecimal (first : Char) : List Char → Bool
  | c :: cs => decide (first ≤ c) && c.isDigit && cs.all (isDigitOf 10)
  | [] => false

/-- The pieces of a text between colons. -/
def splitColons : List Char → List (List Char)
  | [] => [[]]
  | c :: cs =>
    if c = ':' then [] :: splitColons cs
    else match splitColons cs with
      | [] => [[c]]
      | p :: ps => (c :: p) :: ps

/-- A digit of base 60: one or two decimal digits. -/
def isSixtieth : List Char → Bool
  | [c] => c.isDigit
  | [c, d] => decide ('0' ≤ c) && decide (c ≤ '5') && d.isDigit
  | _ => false

/-- A decimal number and at least one digit of base 60, with colons between them. -/
def isSexagesimal (first : Char) (cs : List Char) : Bool :=
  match splitColons cs with
  | p :: q :: ps => isDecimal first p && (q :: ps).all isSixtieth
  | _ => false

/-- Nothing, or a power of ten with a sign. -/
def isPower : List Char → Bool
  | [] => true
  | e :: sign :: ds => (e = 'e' || e = 'E') && (sign = '+' || sign = '-') && isRun Char.isDigit ds
  | _ => false

/-- Digits and underscores, then possibly a power of ten. -/
def isFraction (cs : List Char) : Bool :=
  isPower (cs.dropWhile (isDigitOf 10))

/-- A plain scalar of this form is a whole number. -/
def isWhole (cs : List Char) : Bool :=
  let cs := unsigned cs
  cs == ['0'] || isDecimal '1' cs || isSexagesimal '1' cs ||
    match cs with
    | '0' :: 'b' :: ds => isRun (isDigitOf 2) ds
    | '0' :: 'x' :: ds => isRun isHexDigit ds
    | '0' :: ds => isRun (isDigitOf 8) ds
    | _ => false

/-- A plain scalar of this form is a real number. A number without digits before its point takes no
sign, unless it is infinite. -/
def isReal (cs : List Char) : Bool :=
  let whole := (unsigned cs).takeWhile (· ≠ '.')
  match (unsigned cs).dropWhile (· ≠ '.') with
  | [] => false
  | _ :: fraction =>
    (isDecimal '0' whole && isFraction fraction) ||
    (isSexagesimal '0' whole && fraction.all (isDigitOf 10)) ||
    (whole.isEmpty && ["inf".toList, "Inf".toList, "INF".toList].contains fraction) ||
    (cs.head? == some '.' &&
      ((fraction.head?.any Char.isDigit && isFraction fraction) ||
        ["nan".toList, "NaN".toList, "NAN".toList].contains fraction))

/-- The value of a letter or a digit in bases above ten; digits of every script are admitted. -/
def digit? (c : Char) : Option Nat :=
  (digitValue? c).or (hexValue? c)

/-- A text without the two characters that mark a base. -/
def dropMark (base : Nat) (cs : List Char) : List Char :=
  match cs with
  | '0' :: m :: ds =>
    let marks := if base = 2 then "bB" else if base = 8 then "oO" else if base = 16 then "xX" else ""
    if marks.contains m then ds else cs
  | cs => cs

/-- The whole number that a text spells in a base. -/
def wholeIn (base : Nat) (text : List Char) : Except Fault Int :=
  let (negative, cs) := splitSign (trimBy isSpace text)
  let (ds, rest) := spanDigits (fun c => (digit? c).filter (· < base)) (dropMark base cs)
  if base = 10 ∧ longestDecimal < ds.length then .error (.wholeDigits ds.length)
  else if ds.isEmpty || !rest.isEmpty then .error (.wholeText base text)
  else
    let n : Int := ofDigits base ds
    .ok (if negative then -n else n)

/-- The value of digits of base 60. -/
def sixtieths (ds : List Int) : Int :=
  ds.foldl (fun n d => n * 60 + d) 0

/-- The whole number that a text without sign and underscores spells. -/
def wholeMagnitude (cs : List Char) : Except Fault Int :=
  match cs with
  | [] => .error .emptyNumber
  | ['0'] => .ok 0
  | '0' :: 'b' :: ds => wholeIn 2 ds
  | '0' :: 'x' :: ds => wholeIn 16 ds
  | '0' :: _ => wholeIn 8 cs
  | _ =>
    if cs.contains ':' then ((splitColons cs).mapM (wholeIn 10)).map sixtieths else wholeIn 10 cs

/-- The whole number that a text spells. -/
def whole (text : List Char) : Except Fault Int :=
  let cs := text.filter (· ≠ '_')
  match cs with
  | [] => .error .emptyNumber
  | '-' :: ds => (wholeMagnitude ds).map (- ·)
  | _ => wholeMagnitude (unsigned cs)

/-- The real number that a text spells in base 10. -/
def realPart (text : List Char) : Except Fault Float :=
  match number? text with
  | some x => .ok x
  | none => .error (.realText text)

/-- The value of digits of base 60, least significant first, the first of which counts `unit`. -/
def realSixtieths (total : Float) (unit : Int) : List Float → Float
  | [] => total
  | d :: ds => realSixtieths (total + d * Float.ofInt unit) (unit * 60) ds

/-- The real number that a text without sign and underscores spells. -/
def realMagnitude (cs : List Char) : Except Fault Float :=
  if cs = ".inf".toList then .ok (1.0 / 0.0)
  else if cs = ".nan".toList then .ok (0.0 / 0.0)
  else if cs.contains ':' then
    ((splitColons cs).mapM realPart).map fun ds => realSixtieths 0.0 1 ds.reverse
  else realPart cs

/-- The real number that a text spells. -/
def real (text : List Char) : Except Fault Float :=
  let cs := lower (text.filter (· ≠ '_'))
  match cs with
  | [] => .error .emptyNumber
  | '-' :: ds => (realMagnitude ds).map (-1.0 * ·)
  | _ => realMagnitude (unsigned cs)

end ResolverWatch.Yaml.Number
