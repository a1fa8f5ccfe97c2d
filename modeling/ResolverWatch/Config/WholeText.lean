import ResolverWatch.Config.Problem
import ResolverWatch.Decimal.Literal
import ResolverWatch.Text.Infix

/-!
# Whole numbers written as text

A setting that is a whole number may be given as a text: space around it, a plus sign, zeros in
front, a fraction of zeros and underscores between digits do not matter. What is left has to be
the plain form of a number, a minus sign or not and digits without zeros in front. A negative
number admits no zeros in front from the start.
-/

namespace ResolverWatch.Config

open Text Decimal

/-- Texts of whole numbers may be this long. -/
def longestWhole : Nat :=
  4300

/-- Drops the rest of the zeros and underscores in front of a number, where `last` is the one just
read. The last of them stays if no digit follows. -/
def dropMoreZeros? (last : Char) : List Char → Option (List Char)
  | [] => some [last]
  | c :: cs =>
    if c = '0' || c = '_' then dropMoreZeros? c cs
    else if c.isDigit then some (c :: cs)
    else if c = '.' then some (last :: '.' :: cs)
    else none

/-- Drops the zeros in front of a number. -/
def dropZeros? : List Char → Option (List Char)
  | [] => none
  | c :: cs =>
    if c = '0' then dropMoreZeros? c cs
    else if c.isDigit || c = '-' then some (c :: cs)
    else none

/-- Drops a point and the zeros after it at the end of a number. -/
def dropZeroFraction (cs : List Char) : List Char :=
  match cs.dropWhile (· ≠ '.') with
  | _ :: fraction =>
    if !fraction.isEmpty && fraction.all (· = '0') then cs.takeWhile (· ≠ '.') else cs
  | [] => cs

/-- Drops the underscores of a text in which each stands alone between two other characters. -/
def dropUnderscores (cs : List Char) : List Char :=
  if cs.head? = some '_' || cs.getLast? = some '_' || occursIn ['_', '_'] cs then cs
  else cs.filter (· ≠ '_')

/-- The number whose plain form is the text: digits with no zero in front of others. -/
def plainNat? (cs : List Char) : Option Nat :=
  let (ds, rest) := spanDigits asciiDigitValue? cs
  if rest.isEmpty && !ds.isEmpty && (ds.head? ≠ some 0 || ds.length = 1) then some (ofDigits 10 ds)
  else none

/-- The number whose plain form is the text. -/
def plainInt? : List Char → Option Int
  | '-' :: cs => (plainNat? cs).map fun n => -(n : Int)
  | cs => (plainNat? cs).map fun n => (n : Int)

/-- What stands for the number in a text. -/
def wholeCore? (cs : List Char) : Option (List Char) :=
  let core := match trimBy isSpace cs with
    | '+' :: '-' :: _ => none
    | '+' :: cs => dropZeros? cs
    | cs => dropZeros? cs
  core.map fun cs => dropUnderscores (dropZeroFraction cs)

/-- The whole number that a text spells. -/
def wholeText (cs : List Char) : Except Problem Int :=
  match wholeCore? cs with
  | none => .error .unreadableWhole
  | some core =>
    if longestWhole < (String.ofList core).utf8ByteSize then .error .oversized
    else match plainInt? core with
      | some n => .ok n
      | none => .error .unreadableWhole

example : (wholeText "+007_0.00".toList).toOption = some 70 := by decide +kernel
example : (wholeText "-07".toList).toOption = none := by decide +kernel

end ResolverWatch.Config
