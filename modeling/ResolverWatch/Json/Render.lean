import ResolverWatch.Json.Basic
import ResolverWatch.Text.Quoted
import ResolverWatch.Decimal.Layout

/-!
# The text of a JSON value

A value is written on one line without spaces. Strings are ASCII: every character outside
U+0020 to U+007E is escaped by its UTF-16 units, unless it has a short escape, and a half of a pair
by its number. A double is written with the fewest digits that read back; infinities and the
undefined value, for which JSON has no number, are written by name.
-/

namespace ResolverWatch.Json

open ResolverWatch.Text ResolverWatch.Decimal

/-- The escape of one UTF-16 unit. -/
def unitEscape (n : Nat) : List Char :=
  '\\' :: 'u' :: hexDigits 4 n

/-- A character inside a string. -/
def stringChar (c : Char) : List Char :=
  if c = '"' then ['\\', '"']
  else if c = '\\' then ['\\', '\\']
  else if c = '\n' then ['\\', 'n']
  else if c = '\r' then ['\\', 'r']
  else if c = '\t' then ['\\', 't']
  else if c = '\x08' then ['\\', 'b']
  else if c = '\x0c' then ['\\', 'f']
  else if 0x20 ≤ c.toNat ∧ c.toNat < 0x7f then [c]
  else if c.toNat < 0x10000 then unitEscape c.toNat
  else
    let n := c.toNat - 0x10000
    unitEscape (0xd800 + n / 0x400) ++ unitEscape (0xdc00 + n % 0x400)

/-- A code point inside a string. -/
def stringPoint : Point → List Char
  | .char c => stringChar c
  | .half n => unitEscape (Point.firstHalf + n)

/-- A string in quotes. -/
def renderString (s : Points) : List Char :=
  '"' :: s.flatMap stringPoint ++ ['"']

/-- An integer. -/
def renderInt (n : Int) : List Char :=
  if n < 0 then '-' :: natDigits n.natAbs else natDigits n.natAbs

/-- Texts with commas between them. -/
def commaJoin : List (List Char) → List Char
  | [] => []
  | [t] => t
  | t :: ts => t ++ ',' :: commaJoin ts

mutual

/-- The text of a value. -/
def render : Json → List Char
  | .null => "null".toList
  | .bool b => if b then "true".toList else "false".toList
  | .int n => renderInt n
  | .real x => floatText .document x
  | .text s => renderString s
  | .array items => '[' :: commaJoin (renderItems items) ++ [']']
  | .object members => '{' :: commaJoin (renderMembers members) ++ ['}']

/-- The texts of the items of an array. -/
def renderItems : List Json → List (List Char)
  | [] => []
  | v :: vs => render v :: renderItems vs

/-- The texts of the members of an object. -/
def renderMembers : List (Points × Json) → List (List Char)
  | [] => []
  | (k, v) :: rest => (renderString k ++ ':' :: render v) :: renderMembers rest

end

/-- The text of a value as a string. -/
def toText (v : Json) : String :=
  String.ofList v.render

end ResolverWatch.Json
