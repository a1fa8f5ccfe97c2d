import ResolverWatch.Decimal.Literal
import ResolverWatch.Labels

/-!
# Sample lines

A sample line is a metric name, an optional block of labels in braces, a number, and an optional
whole-number time that is not kept: `name{key="value",…} number time`. Between the last three
stands blank space. `Sample.parse?` cuts the line at these borders, each of which is forced by
the class of the character behind it, so a line can be read in one way only.
-/

namespace ResolverWatch

open Text Decimal

/-- A metric name, its labels and a finite value. -/
structure Sample where
  name : String
  labels : Labels
  value : Float

/-- The text between braces at the start of `cs`, empty without braces, and what follows it. -/
def splitBlock? : List Char → Option (List Char × List Char)
  | '{' :: cs =>
    match cs.dropWhile (· ≠ '}') with
    | _ :: rest => some (cs.takeWhile (· ≠ '}'), rest)
    | [] => none
  | cs => some ([], cs)

/-- Nothing, or blanks and a whole number. -/
def isTimeTail (cs : List Char) : Bool :=
  cs.isEmpty ||
    (let digits := match cs.dropWhile isBlank with
      | '-' :: ds => ds
      | ds => ds
    !digits.isEmpty && digits.all isDigit)

namespace Sample

/-- Reads a sample line, with or without blanks around it. -/
def parse? (line : List Char) : Option Sample := do
  let text := trim line
  let name := text.takeWhile isWord
  guard (!name.isEmpty)
  let (block, rest) ← splitBlock? (text.dropWhile isWord)
  guard (rest.head?.any isBlank)
  let rest := rest.dropWhile isBlank
  guard (isTimeTail (rest.dropWhile fun c => !isBlank c))
  let literal ← literal? digitValue? (rest.takeWhile fun c => !isBlank c)
  let value := literal.toFloat
  guard value.isFinite
  return ⟨String.ofList name, Labels.ofBlock block, value⟩

end Sample

end ResolverWatch
