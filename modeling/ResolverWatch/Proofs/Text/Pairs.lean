import Mathlib.Data.List.Basic
import ResolverWatch.Text.Points

/-!
# Pairs of halves

A high half and a low half one behind the other are two code points, but what writes a text by UTF-16 units writes them
as it writes the character that they are the pair of. `Points.joined` puts that character in their place; it changes no
text without such a pair (`Points.joined_of_unpaired`).
-/

namespace ResolverWatch.Text

/-- The character of a high half and the low half behind it. -/
def Point.pair? : Point → Point → Option Char
  | .half a, .half b =>
    if a.val < 0x400 ∧ 0x400 ≤ b.val then some (Char.ofNat (0x10000 + a * 0x400 + (b - 0x400))) else none
  | _, _ => none

namespace Points

/-- A text with the character in the place of each pair of halves. -/
def joined : Points → Points
  | p :: q :: ps =>
    match p.pair? q with
    | some c => .char c :: joined ps
    | none => p :: joined (q :: ps)
  | ps => ps

/-- No high half has a low one behind it. -/
def Unpaired (ps : Points) : Prop :=
  ∀ as p q bs, ps = as ++ p :: q :: bs → p.pair? q = none

theorem Unpaired.tail {p : Point} {ps : Points} (unpaired : Unpaired (p :: ps)) : Unpaired ps :=
  fun as q r bs same => unpaired (p :: as) q r bs (congrArg (p :: ·) same)

theorem joined_of_unpaired {ps : Points} (unpaired : Unpaired ps) : joined ps = ps := by
  fun_induction joined ps with
  | case1 p q ps c pair _ => exact absurd (unpaired [] p q ps rfl) (by rw [pair]; exact nofun)
  | case2 p q ps _ ih => rw [ih unpaired.tail]
  | case3 => rfl

theorem unpaired_pointsOf (cs : List Char) : Unpaired (pointsOf cs) := by
  intro as p q bs same
  have mem : p ∈ pointsOf cs := by simp [same]
  obtain ⟨c, -, rfl⟩ := List.mem_map.1 mem
  rfl

end Points

end ResolverWatch.Text
