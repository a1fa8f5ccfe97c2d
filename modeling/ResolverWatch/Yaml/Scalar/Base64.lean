/-!
# Bytes as base 64

Bytes are written three at a time as four characters of six bits each. Characters of no value are
passed over. An equals sign fills up the last four, and reading ends when they are full.
-/

namespace ResolverWatch.Yaml.Base64

/-- The six bits that a character stands for. -/
def value? (c : Char) : Option Nat :=
  if 'A' ≤ c ∧ c ≤ 'Z' then some (c.toNat - 'A'.toNat)
  else if 'a' ≤ c ∧ c ≤ 'z' then some (c.toNat - 'a'.toNat + 26)
  else if c.isDigit then some (c.toNat - '0'.toNat + 52)
  else if c = '+' then some 62
  else if c = '/' then some 63
  else none

/-- The bytes of a text from inside a group of four: the values of the group so far (last first) and
the number of equals signs behind them. A group may not be left unfinished. -/
def bytesFrom : List Nat → Nat → List Char → Option (List UInt8)
  | [], _, [] => some []
  | _ :: _, _, [] => none
  | group, pads, c :: cs =>
    if c = '=' then
      if 2 ≤ group.length then
        if 4 ≤ group.length + pads + 1 then some (unfinished group) else bytesFrom group (pads + 1) cs
      else bytesFrom group pads cs
    else match value? c, group with
      | none, _ => bytesFrom group pads cs
      | some n, [c₂, c₁, c₀] =>
        let bits := ((c₀ * 64 + c₁) * 64 + c₂) * 64 + n
        (bytesFrom [] 0 cs).map fun bs =>
          (bits / 65536).toUInt8 :: (bits / 256 % 256).toUInt8 :: (bits % 256).toUInt8 :: bs
      | some n, group => bytesFrom (n :: group) 0 cs
where
  /-- The bytes of a group that equals signs fill up. -/
  unfinished : List Nat → List UInt8
    | [c₁, c₀] => [(c₀ * 4 + c₁ / 16).toUInt8]
    | [c₂, c₁, c₀] => [(c₀ * 4 + c₁ / 16).toUInt8, (c₁ % 16 * 16 + c₂ / 4).toUInt8]
    | _ => []

/-- The bytes that a text stands for. -/
def bytes? (cs : List Char) : Option (List UInt8) :=
  bytesFrom [] 0 cs

example : bytes? "YQ==".toList = some [97] := by decide +kernel
example : bytes? "YWJj".toList = some [97, 98, 99] := by decide +kernel
example : bytes? "YQ".toList = none := by decide +kernel

end ResolverWatch.Yaml.Base64
