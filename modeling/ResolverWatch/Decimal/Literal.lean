import ResolverWatch.Text.Digit
import ResolverWatch.Text.Blank

/-!
# Reading decimal numbers

A literal is an optional sign, digits with an optional point, and an optional power of ten. Which
characters are digits is a parameter, for some inputs admit the digits of every script. The value
of a literal is the double nearest to it, with ties to the even one. `number?` is the loose form
that a command-line option takes: blanks around it, underscores between digits, and the names
of infinity and of the undefined value.
-/

namespace ResolverWatch.Decimal

open ResolverWatch.Text

/-- A sign, the number that the digits spell, and the power of ten that it is scaled by. -/
structure Literal where
  negative : Bool
  digits : Nat
  exponent : Int
  deriving DecidableEq, Repr

/-- The double nearest to a literal. -/
def Literal.toFloat (l : Literal) : Float :=
  let x := Float.ofScientific l.digits (decide (l.exponent < 0)) l.exponent.natAbs
  if l.negative then -x else x

/-- The digits at the start of a text, with their values, and what follows them. -/
def spanDigits (value : Char → Option Nat) : List Char → List Nat × List Char
  | [] => ([], [])
  | c :: cs =>
    match value c with
    | some d => let (ds, rest) := spanDigits value cs; (d :: ds, rest)
    | none => ([], c :: cs)

/-- The number that digits spell in the given base, most significant first. -/
def ofDigits (base : Nat) (ds : List Nat) : Nat :=
  ds.foldl (fun n d => n * base + d) 0

/-- An optional sign, as whether it is a minus, and what follows it. -/
def splitSign : List Char → Bool × List Char
  | '-' :: cs => (true, cs)
  | '+' :: cs => (false, cs)
  | cs => (false, cs)

/-- The power of ten at the end of a literal: nothing, or a mark, a sign and digits. -/
def exponent? (value : Char → Option Nat) : List Char → Option Int
  | [] => some 0
  | c :: cs =>
    if c = 'e' ∨ c = 'E' then
      let (negative, cs) := splitSign cs
      let (ds, rest) := spanDigits value cs
      if ds.isEmpty || !rest.isEmpty then none
      else
        let n : Int := ofDigits 10 ds
        some (if negative then -n else n)
    else none

/-- A literal without its sign: digits on at least one side of an optional point, then the power
of ten. -/
def unsigned? (value : Char → Option Nat) (negative : Bool) (cs : List Char) : Option Literal :=
  let (whole, rest) := spanDigits value cs
  let (fraction, rest) := match rest with
    | '.' :: rest => spanDigits value rest
    | _ => ([], rest)
  if whole.isEmpty && fraction.isEmpty then none
  else (exponent? value rest).map fun e =>
    ⟨negative, ofDigits 10 (whole ++ fraction), e - fraction.length⟩

/-- Reads a whole text as a literal. -/
def literal? (value : Char → Option Nat) (cs : List Char) : Option Literal :=
  let (negative, cs) := splitSign cs
  unsigned? value negative cs

/-- The names of infinity and of the undefined value, in any case. -/
def special? (cs : List Char) : Option Float :=
  let (negative, cs) := splitSign cs
  let name := String.ofList (cs.map Char.toLower)
  if name = "inf" ∨ name = "infinity" then some (if negative then -1.0 / 0.0 else 1.0 / 0.0)
  else if name = "nan" then some (0.0 / 0.0)
  else none

/-- The double that a text names or spells. -/
def float? (value : Char → Option Nat) (cs : List Char) : Option Float :=
  (special? cs).or ((literal? value cs).map Literal.toFloat)

/-- A text without its underscores, each of which has to stand between two digits; `afterDigit`
says whether a digit precedes. -/
def dropUnderscores? (value : Char → Option Nat) (afterDigit : Bool) : List Char → Option (List Char)
  | [] => some []
  | c :: cs =>
    if c = '_' then
      if afterDigit && cs.head?.any fun d => (value d).isSome then dropUnderscores? value false cs
      else none
    else (dropUnderscores? value (value c).isSome cs).map (c :: ·)

/-- The double that a text spells: space around it, underscores between its digits, and digits of
every script are admitted. -/
def number? (cs : List Char) : Option Float :=
  (dropUnderscores? digitValue? false (trimBy isSpace cs)).bind (float? digitValue?)

end ResolverWatch.Decimal
