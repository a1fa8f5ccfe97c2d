import ResolverWatch.Config.WholeText
import ResolverWatch.Text.Utf8
import ResolverWatch.Yaml.Value

/-!
# Reading settings

Settings are read leniently: a number may be written as text, a truth value as a word or as one of
the numbers zero and one, a whole number as a double without a fraction, and a text as bytes in
UTF-8. Every other mixture of types is refused.
-/

namespace ResolverWatch.Config

open Text Decimal Yaml

/-- The characters of a text, or of bytes that have to be one. -/
def characters? (unreadable : Problem) : Value → Option (Except Problem (List Char))
  | .scalar (.text s) =>
    match s.chars? with
    | some cs => some (.ok cs)
    | none => some (.error .notUnicode)
  | .scalar (.bytes bs) =>
    match Utf8.decode bs with
    | .ok cs => some (.ok cs)
    | .error _ => some (.error unreadable)
  | _ => none

/-- A text, which may hold halves of pairs. -/
def readText : Value → Except Problem Points
  | .scalar (.text s) => .ok s
  | v =>
    match characters? .notUnicode v with
    | some cs => cs.map pointsOf
    | none => .error .notText

/-- A text, or nothing. -/
def readOptional : Value → Except Problem (Option Points)
  | .scalar .null => .ok none
  | v => (readText v).map some

/-- The words for false. -/
def falseWords : List String :=
  ["0", "off", "f", "false", "n", "no"]

/-- The words for true. -/
def trueWords : List String :=
  ["1", "on", "t", "true", "y", "yes"]

/-- The truth value that a word names, in any case. -/
def truthWord (cs : List Char) : Except Problem Bool :=
  let word := String.ofList (cs.map Char.toLower)
  if falseWords.contains word then .ok false
  else if trueWords.contains word then .ok true
  else .error .unreadableTruth

/-- The truth value of a number. -/
def truthNumber (n : Int) : Except Problem Bool :=
  if n = 0 then .ok false else if n = 1 then .ok true else .error .unreadableTruth

/-- The first number that does not fit into 64 bits. -/
def wordBound : Int :=
  0x8000000000000000

/-- Numbers that fit into 64 bits. -/
def isWord64 (n : Int) : Bool :=
  decide (-wordBound ≤ n) && decide (n < wordBound)

/-- A whole number that a double stands for. The least number of 64 bits is not one of them. -/
def wholeReal (x : Float) : Except Problem Int :=
  match truncate? x with
  | none => .error .notFinite
  | some n =>
    if !isWhole x then .error .fractional
    else if -wordBound < n ∧ n < wordBound then .ok n
    else .error .oversized

/-- A truth value. -/
def readTruth (v : Value) : Except Problem Bool :=
  match characters? .unreadableTruth v, v with
  | some cs, _ => cs.bind truthWord
  | none, .scalar (.bool b) => .ok b
  | none, .scalar (.int n) => if isWord64 n then truthNumber n else .error .notTruth
  | none, .scalar (.real x) =>
    match wholeReal x with
    | .ok n => truthNumber n
    | .error _ => .error .notTruth
  | none, _ => .error .notTruth

/-- A whole number. -/
def readWhole (v : Value) : Except Problem Int :=
  match characters? .unreadableWhole v, v with
  | some cs, _ => cs.bind wholeText
  | none, .scalar (.bool b) => .ok (if b then 1 else 0)
  | none, .scalar (.int n) => .ok n
  | none, .scalar (.real x) => wholeReal x
  | none, _ => .error .notWhole

/-- The double that a text spells. Space around it is ignored, unless there are underscores. -/
def numberText (cs : List Char) : Except Problem Float :=
  match float? asciiDigitValue? (trimBy isSpace cs) with
  | some x => .ok x
  | none =>
    match float? asciiDigitValue? (dropUnderscores cs) with
    | some x => .ok x
    | none => .error .unreadableNumber

/-- A double. -/
def readNumber (v : Value) : Except Problem Float :=
  match characters? .unreadableNumber v, v with
  | some cs, _ => cs.bind numberText
  | none, .scalar (.bool b) => .ok (if b then 1.0 else 0.0)
  | none, .scalar (.int n) => if (Float.ofInt n).isFinite then .ok (Float.ofInt n) else .error .notNumber
  | none, .scalar (.real x) => .ok x
  | none, _ => .error .notNumber

end ResolverWatch.Config
