import Mathlib.Data.Option.Basic
import Mathlib.Tactic.SplitIfs
import ResolverWatch.Json.Parse
import ResolverWatch.Json.Render
import ResolverWatch.Proofs.Text.Pairs

/-!
# A string is read back from its text

The reader undoes each way in which a character is written: as it is, by a short escape, by the escape of its unit, or
by the escapes of its two halves (`parseString_stringChar`). A half is written by its unit, so the reader joins it to a
low half that follows (`unitPoint_half`). In this way a string in quotes tells the string but for its pairs of halves,
and where it ends (`renderString_append_inj`).
-/

namespace ResolverWatch.Json

open Text

theorem hexUnit?_hexDigits {n : Nat} (unit : n < 0x10000) (rest : List Char) :
    hexUnit? (hexDigits 4 n ++ rest) = some (n, rest) := by
  have digit : ∀ d < 16, hexValue? (Nat.digitChar d) = some d := by decide
  have value (k : Nat) : hexValue? (Nat.digitChar (k % 16)) = some (k % 16) := digit _ (Nat.mod_lt k (by decide))
  simp only [hexDigits, List.nil_append, List.cons_append, hexUnit?, value, Option.bind_eq_bind, Option.bind_some,
    Option.pure_def, Option.some.injEq, Prod.mk.injEq, and_true]
  omega

theorem parseString_unitEscape {n : Nat} (unit : n < 0x10000) (fuel : Nat) (rest : List Char) :
    parseString (fuel + 1) (unitEscape n ++ rest) =
      (parseString fuel (unitPoint n rest).2).map fun (ps, after) => ((unitPoint n rest).1 :: ps, after) := by
  show parseString (fuel + 1) ('\\' :: 'u' :: (hexDigits 4 n ++ rest)) = _
  rw [parseString, hexUnit?_hexDigits unit]
  dsimp only [Option.bind_eq_bind, Option.bind_some]
  cases parseString fuel (unitPoint n rest).2 <;> rfl

theorem parseString_short {e d : Char} (escape : shortEscape? e = some d) (other : e ≠ 'u') (fuel : Nat)
    (rest : List Char) :
    parseString (fuel + 1) (['\\', e] ++ rest) =
      (parseString fuel rest).map fun (ps, after) => (.char d :: ps, after) := by
  show parseString (fuel + 1) ('\\' :: e :: rest) = _
  rw [parseString, escape]
  · cases parseString fuel rest <;> rfl
  · exact other

theorem parseString_plain {c : Char} (quote : c ≠ '"') (backslash : c ≠ '\\') (printed : 0x20 ≤ c.toNat) (fuel : Nat)
    (rest : List Char) :
    parseString (fuel + 1) ([c] ++ rest) = (parseString fuel rest).map fun (ps, after) => (.char c :: ps, after) := by
  show parseString (fuel + 1) (c :: rest) = _
  rw [parseString, if_neg]
  · simp [backslash, printed]
  · exact quote
  · exact fun _ same => absurd same backslash
  · exact fun _ _ same => absurd same backslash

/-- A character is no half of a pair. -/
theorem not_surrogate (c : Char) : c.toNat < 0xd800 ∨ 0xdfff < c.toNat ∧ c.toNat < 0x110000 :=
  c.valid

theorem pointOfNat_toNat (c : Char) : Point.ofNat c.toNat = .char c := by
  have whole := not_surrogate c
  have first : Point.firstHalf = 0xd800 := rfl
  rw [Point.ofNat, dif_neg (by omega), Char.ofNat_toNat]

theorem half_lt (n : Fin 0x800) : Point.firstHalf + n < 0x10000 := by
  have first : Point.firstHalf = 0xd800 := rfl
  omega

theorem pointOfNat_half (n : Fin 0x800) : Point.ofNat (Point.firstHalf + n) = .half n := by
  rw [Point.ofNat, dif_pos (by omega)]
  simp only [Nat.add_sub_cancel_left]

theorem unitPoint_toNat (c : Char) (rest : List Char) : unitPoint c.toNat rest = (.char c, rest) := by
  have whole := not_surrogate c
  rw [unitPoint, if_neg (by omega), pointOfNat_toNat]

/-! ## Low halves -/

theorem lowUnit?_unitEscape {n : Nat} (unit : n < 0x10000) (rest : List Char) :
    lowUnit? (unitEscape n ++ rest) = if 0xdc00 ≤ n ∧ n < 0xe000 then some (n, rest) else none := by
  show lowUnit? ('\\' :: 'u' :: (hexDigits 4 n ++ rest)) = _
  rw [lowUnit?, hexUnit?_hexDigits unit]
  dsimp only [Option.bind_eq_bind, Option.bind_some]
  split_ifs with low
  · rw [guard, if_pos low]
    rfl
  · rw [guard, if_neg low]
    rfl

theorem lowUnit?_short {e : Char} (other : e ≠ 'u') (rest : List Char) : lowUnit? (['\\', e] ++ rest) = none := by
  show lowUnit? ('\\' :: e :: rest) = _
  rw [lowUnit?]
  exact fun _ same => other (List.cons.inj (List.cons.inj same).2).1

theorem lowUnit?_plain {c : Char} (backslash : c ≠ '\\') (rest : List Char) : lowUnit? (c :: rest) = none := by
  rw [lowUnit?]
  exact fun _ same => backslash (List.cons.inj same).1

/-- A character is not written as a low half. -/
theorem lowUnit?_stringChar (c : Char) (rest : List Char) : lowUnit? (stringChar c ++ rest) = none := by
  have whole := not_surrogate c
  unfold stringChar
  dsimp only
  split_ifs with quote backslash _ _ _ _ _ printed unit
  · exact lowUnit?_short (by decide) rest
  · exact lowUnit?_short (by decide) rest
  · exact lowUnit?_short (by decide) rest
  · exact lowUnit?_short (by decide) rest
  · exact lowUnit?_short (by decide) rest
  · exact lowUnit?_short (by decide) rest
  · exact lowUnit?_short (by decide) rest
  · exact lowUnit?_plain backslash rest
  · rw [lowUnit?_unitEscape unit, if_neg (by omega)]
  · rw [List.append_assoc, lowUnit?_unitEscape (by omega), if_neg (by omega)]

/-- A half, and what is written behind it: it is joined to a low half there. -/
theorem unitPoint_half (n : Fin 0x800) (p : Point) (rest : List Char) :
    unitPoint (Point.firstHalf + n) (stringPoint p ++ rest) =
      match (Point.half n).pair? p with
      | some c => (.char c, rest)
      | none => (.half n, stringPoint p ++ rest) := by
  have first : Point.firstHalf = 0xd800 := rfl
  unfold unitPoint
  rw [pointOfNat_half]
  cases p with
  | char c =>
    rw [stringPoint, lowUnit?_stringChar]
    exact ite_self _
  | half m =>
    have code : 0x10000 + (Point.firstHalf + n - 0xd800) * 0x400 + (Point.firstHalf + m - 0xdc00) =
        0x10000 + n * 0x400 + (m - 0x400) := by omega
    rw [stringPoint, lowUnit?_unitEscape (half_lt m), Point.pair?]
    by_cases pair : n.val < 0x400 ∧ 0x400 ≤ m.val
    · rw [if_pos (by omega), if_pos (by omega), if_pos pair]
      dsimp only
      rw [code]
    · rw [if_neg pair]
      split_ifs with high low
      · exact absurd pair (by omega)
      · rfl
      · rfl

theorem unitPoint_half_quote (n : Fin 0x800) (rest : List Char) :
    unitPoint (Point.firstHalf + n) ('"' :: rest) = (.half n, '"' :: rest) := by
  rw [unitPoint, pointOfNat_half, lowUnit?_plain (by decide)]
  exact ite_self _

/-! ## Strings -/

/-- A pair of units is read as the character that they are the halves of. -/
theorem unitPoint_pair {high low : Nat} (isHigh : high < 0x400) (isLow : low < 0x400) (rest : List Char) :
    unitPoint (0xd800 + high) (unitEscape (0xdc00 + low) ++ rest) =
      (.char (Char.ofNat (0x10000 + high * 0x400 + low)), rest) := by
  rw [unitPoint, lowUnit?_unitEscape (by omega), if_pos (by omega), if_pos (by omega)]
  show (Point.char (Char.ofNat _), rest) = _
  rw [Nat.add_sub_cancel_left, Nat.add_sub_cancel_left]

/-- A character is read back from what it is written as. -/
theorem parseString_stringChar (c : Char) (fuel : Nat) (rest : List Char) :
    parseString (fuel + 1) (stringChar c ++ rest) =
      (parseString fuel rest).map fun (ps, after) => (.char c :: ps, after) := by
  unfold stringChar
  dsimp only
  split_ifs with quote backslash newline carriage tab backspace feed printed unit
  · rw [quote]
    exact parseString_short (by decide) (by decide) ..
  · rw [backslash]
    exact parseString_short (by decide) (by decide) ..
  · rw [newline]
    exact parseString_short (by decide) (by decide) ..
  · rw [carriage]
    exact parseString_short (by decide) (by decide) ..
  · rw [tab]
    exact parseString_short (by decide) (by decide) ..
  · rw [backspace]
    exact parseString_short (by decide) (by decide) ..
  · rw [feed]
    exact parseString_short (by decide) (by decide) ..
  · exact parseString_plain quote backslash printed.1 ..
  · rw [parseString_unitEscape unit, unitPoint_toNat]
  · have whole := not_surrogate c
    have halves : 0x10000 + (c.toNat - 0x10000) / 0x400 * 0x400 + (c.toNat - 0x10000) % 0x400 = c.toNat := by omega
    rw [List.append_assoc, parseString_unitEscape (by omega), unitPoint_pair (by omega) (by omega), halves,
      Char.ofNat_toNat]

/-- A code point is read back unless it makes a pair with the one behind it. -/
theorem parseString_stringPoint {p q : Point} (single : p.pair? q = none) (fuel : Nat) (rest : List Char) :
    parseString (fuel + 1) (stringPoint p ++ (stringPoint q ++ rest)) =
      (parseString fuel (stringPoint q ++ rest)).map fun (ps, after) => (p :: ps, after) := by
  cases p with
  | char c => exact parseString_stringChar c fuel _
  | half n =>
    rw [stringPoint, parseString_unitEscape (half_lt n), unitPoint_half, single]

/-- The last code point of a string is read back. -/
theorem parseString_last (p : Point) (fuel : Nat) (rest : List Char) :
    parseString (fuel + 2) (stringPoint p ++ '"' :: rest) = some ([p], rest) := by
  cases p with
  | char c =>
    rw [stringPoint, parseString_stringChar]
    rfl
  | half n =>
    rw [stringPoint, parseString_unitEscape (half_lt n), unitPoint_half_quote]
    rfl

/-- A pair of halves is read as their character. -/
theorem parseString_pair {p q : Point} {c : Char} (pair : p.pair? q = some c) (fuel : Nat) (rest : List Char) :
    parseString (fuel + 1) (stringPoint p ++ (stringPoint q ++ rest)) =
      (parseString fuel rest).map fun (ps, after) => (.char c :: ps, after) := by
  cases p with
  | char d => exact absurd pair nofun
  | half n =>
    rw [stringPoint, parseString_unitEscape (half_lt n), unitPoint_half, pair]

/-- A string is read back with its pairs of halves joined, up to the quote behind it. -/
theorem parseString_flatMap {ps : Points} {fuel : Nat} (enough : ps.length < fuel) (rest : List Char) :
    parseString fuel (ps.flatMap stringPoint ++ '"' :: rest) = some (ps.joined, rest) := by
  obtain ⟨fuel, rfl⟩ : ∃ n, fuel = n + 1 := ⟨fuel - 1, by omega⟩
  induction ps using Points.joined.induct generalizing fuel with
  | case1 p q ps c pair ih =>
    rw [List.length_cons, List.length_cons] at enough
    obtain ⟨fuel, rfl⟩ : ∃ n, fuel = n + 1 := ⟨fuel - 1, by omega⟩
    rw [Points.joined, pair, List.flatMap_cons, List.flatMap_cons, List.append_assoc, List.append_assoc,
      parseString_pair pair, ih fuel (by omega)]
    rfl
  | case2 p q ps single ih =>
    rw [List.length_cons, List.length_cons] at enough
    obtain ⟨fuel, rfl⟩ : ∃ n, fuel = n + 1 := ⟨fuel - 1, by omega⟩
    have others := ih fuel (by rw [List.length_cons]; omega)
    rw [List.flatMap_cons, List.append_assoc] at others
    rw [Points.joined, single, List.flatMap_cons, List.flatMap_cons, List.append_assoc, List.append_assoc,
      parseString_stringPoint single, others]
    rfl
  | case3 ps short =>
    cases ps with
    | nil => rfl
    | cons p ps =>
      cases ps with
      | nil =>
        rw [List.length_singleton] at enough
        obtain ⟨fuel, rfl⟩ : ∃ n, fuel = n + 1 := ⟨fuel - 1, by omega⟩
        rw [List.flatMap_singleton, parseString_last]
        rfl
      | cons q ps => exact absurd rfl (short p q ps)

/-- The text of a string tells the string but for its pairs of halves, and where it ends. -/
theorem renderString_append_inj {s t : Points} {rest rest' : List Char}
    (same : renderString s ++ rest = renderString t ++ rest') : s.joined = t.joined ∧ rest = rest' := by
  have inner : s.flatMap stringPoint ++ '"' :: rest = t.flatMap stringPoint ++ '"' :: rest' := by
    simpa [renderString] using same
  have read := parseString_flatMap (by omega : s.length < s.length + t.length + 1) rest
  have read' := parseString_flatMap (by omega : t.length < s.length + t.length + 1) rest'
  rw [inner, read', Option.some.injEq, Prod.mk.injEq] at read
  exact ⟨read.1.symm, read.2.symm⟩

end ResolverWatch.Json
