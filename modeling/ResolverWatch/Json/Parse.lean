import ResolverWatch.Json.Basic
import ResolverWatch.Decimal.Literal

/-!
# Reading JSON

`parse?` accepts the documents of the JSON standard and nothing else. A number without point
and power of ten is an integer of any size, any other one a double. A UTF-16 unit that is half
of no pair stays a half. Every step consumes a character, so the length of the text bounds
the depth of the recursion.
-/

namespace ResolverWatch.Json

open ResolverWatch.Text ResolverWatch.Decimal

/-- The white space of JSON. -/
def isJsonSpace (c : Char) : Bool :=
  c = ' ' || c = '\t' || c = '\n' || c = '\r'

/-- The value of a hexadecimal digit. -/
def hexValue? (c : Char) : Option Nat :=
  if c.isDigit then some (c.toNat - '0'.toNat)
  else if 'a' ≤ c ∧ c ≤ 'f' then some (c.toNat - 'a'.toNat + 10)
  else if 'A' ≤ c ∧ c ≤ 'F' then some (c.toNat - 'A'.toNat + 10)
  else none

/-- The number that exactly four hexadecimal digits spell, and what follows them. -/
def hexUnit? : List Char → Option (Nat × List Char)
  | a :: b :: c :: d :: rest => do
    let a ← hexValue? a
    let b ← hexValue? b
    let c ← hexValue? c
    let d ← hexValue? d
    return (((a * 16 + b) * 16 + c) * 16 + d, rest)
  | _ => none

/-- The character after a backslash that stands for itself or for a control character. -/
def shortEscape? (c : Char) : Option Char :=
  if c = '"' ∨ c = '\\' ∨ c = '/' then some c
  else if c = 'n' then some '\n'
  else if c = 'r' then some '\r'
  else if c = 't' then some '\t'
  else if c = 'b' then some '\x08'
  else if c = 'f' then some '\x0c'
  else none

/-- The low half that the text goes on with, and what follows it. -/
def lowUnit? : List Char → Option (Nat × List Char)
  | '\\' :: 'u' :: rest => do
    let (low, rest) ← hexUnit? rest
    guard (0xdc00 ≤ low ∧ low < 0xe000)
    return (low, rest)
  | _ => none

/-- A code point from a UTF-16 unit and, after a high half, the low one that follows. -/
def unitPoint (unit : Nat) (rest : List Char) : Point × List Char :=
  if 0xd800 ≤ unit ∧ unit < 0xdc00 then
    match lowUnit? rest with
    | some (low, rest) => (.char (Char.ofNat (0x10000 + (unit - 0xd800) * 0x400 + (low - 0xdc00))), rest)
    | none => (.ofNat unit, rest)
  else (.ofNat unit, rest)

/-- The rest of a string after its opening quote, and what follows the closing one. -/
def parseString : Nat → List Char → Option (Points × List Char)
  | 0, _ => none
  | _, [] => none
  | _, '"' :: rest => some ([], rest)
  | fuel + 1, '\\' :: 'u' :: rest => do
    let (unit, rest) ← hexUnit? rest
    let (p, rest) := unitPoint unit rest
    let (ps, rest) ← parseString fuel rest
    return (p :: ps, rest)
  | fuel + 1, '\\' :: e :: rest => do
    let c ← shortEscape? e
    let (ps, rest) ← parseString fuel rest
    return (.char c :: ps, rest)
  | fuel + 1, c :: rest =>
    if c.toNat < 0x20 ∨ c = '\\' then none
    else (parseString fuel rest).map fun (ps, rest) => (.char c :: ps, rest)

/-- The characters that a number may hold. -/
def isNumberChar (c : Char) : Bool :=
  c.isDigit || c = '-' || c = '+' || c = '.' || c = 'e' || c = 'E'

/-- The digits before the point start with zero only if they are the number zero, and the point has
digits on both sides. -/
def standardNumber (cs : List Char) : Bool :=
  let cs := match cs with
    | '-' :: cs => cs
    | cs => cs
  let (whole, rest) := spanDigits asciiDigitValue? cs
  let fractionOk := match rest with
    | '.' :: c :: _ => c.isDigit
    | '.' :: [] => false
    | _ => true
  !whole.isEmpty && (whole.length == 1 || whole.head? != some 0) && fractionOk

/-- The value of a number. -/
def number? (cs : List Char) : Option Json := do
  guard (standardNumber cs)
  let l ← literal? asciiDigitValue? cs
  if cs.any fun c => c = '.' || c = 'e' || c = 'E' then return .real l.toFloat
  else return .int (if l.negative then -(l.digits : Int) else l.digits)

mutual

/-- A value at the start of a text, and what follows it. -/
def parseValue : Nat → List Char → Option (Json × List Char)
  | 0, _ => none
  | fuel + 1, cs =>
    match cs.dropWhile isJsonSpace with
    | 'n' :: 'u' :: 'l' :: 'l' :: rest => some (.null, rest)
    | 't' :: 'r' :: 'u' :: 'e' :: rest => some (.bool true, rest)
    | 'f' :: 'a' :: 'l' :: 's' :: 'e' :: rest => some (.bool false, rest)
    | '"' :: rest =>
      (parseString (rest.length + 1) rest).map fun (ps, rest) => (.text ps, rest)
    | '[' :: rest =>
      match rest.dropWhile isJsonSpace with
      | ']' :: rest => some (.array [], rest)
      | rest => (parseItems fuel rest).map fun (vs, rest) => (.array vs, rest)
    | '{' :: rest =>
      match rest.dropWhile isJsonSpace with
      | '}' :: rest => some (.object [], rest)
      | rest => (parseMembers fuel rest).map fun (ms, rest) => (.object ms, rest)
    | cs => (number? (cs.takeWhile isNumberChar)).map fun v => (v, cs.dropWhile isNumberChar)

/-- The items of an array up to its closing bracket. -/
def parseItems : Nat → List Char → Option (List Json × List Char)
  | 0, _ => none
  | fuel + 1, cs => do
    let (v, rest) ← parseValue fuel cs
    match rest.dropWhile isJsonSpace with
    | ',' :: rest =>
      let (vs, rest) ← parseItems fuel rest
      return (v :: vs, rest)
    | ']' :: rest => return ([v], rest)
    | _ => none

/-- The members of an object up to its closing brace. -/
def parseMembers : Nat → List Char → Option (List (Points × Json) × List Char)
  | 0, _ => none
  | fuel + 1, cs =>
    match cs.dropWhile isJsonSpace with
    | '"' :: rest => do
      let (key, rest) ← parseString (rest.length + 1) rest
      match rest.dropWhile isJsonSpace with
      | ':' :: rest =>
        let (v, rest) ← parseValue fuel rest
        match rest.dropWhile isJsonSpace with
        | ',' :: rest =>
          let (ms, rest) ← parseMembers fuel rest
          return ((key, v) :: ms, rest)
        | '}' :: rest => return ([(key, v)], rest)
        | _ => none
      | _ => none
    | _ => none

end

/-- Reads a whole text as one JSON document. -/
def parse? (cs : List Char) : Option Json := do
  let (v, rest) ← parseValue (2 * cs.length + 2) cs
  guard (rest.all isJsonSpace)
  return v

end ResolverWatch.Json
