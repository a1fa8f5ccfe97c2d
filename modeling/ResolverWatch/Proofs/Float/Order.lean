import Mathlib.Data.Nat.Basic

/-!
# The order of doubles

A comparison of doubles compares what they unpack to: an infinity, a zero, or a sign with a
mantissa and an exponent. Read the other way round it is the swapped comparison, so `x ≤ y` and
`y < x` exclude each other. Both fail when a side is undefined.
-/

namespace ResolverWatch.Double

open Float.Model

theorem sign_swap (s t : UnpackedFloat.Sign) : (compare s t).swap = compare t s := by
  cases s <;> cases t <;> rfl

/-- Magnitudes are compared by exponent and then by mantissa. -/
theorem magnitude_swap (m n : Nat) (e f : Int) :
    ((compare e f).then (compare m n)).swap = (compare f e).then (compare n m) := by
  rw [Ordering.swap_then, Int.compare_swap, Nat.compare_swap]

theorem compare_swap (a b : UnpackedFloat) : b.compare a = (a.compare b).map Ordering.swap := by
  cases a with
  | notANumber => cases b <;> rfl
  | infinity s =>
    cases b with
    | infinity t => exact congrArg some (sign_swap s t).symm
    | _ => cases s <;> rfl
  | zero s =>
    cases b with
    | finite t => cases t <;> rfl
    | infinity t => cases t <;> rfl
    | _ => rfl
  | finite s m e =>
    cases b with
    | finite t n f =>
      cases s with
      | positive =>
        cases t with
        | positive => exact congrArg some (magnitude_swap m n e f).symm
        | negative => rfl
      | negative =>
        cases t with
        | positive => rfl
        | negative => exact congrArg (fun o => some o.swap) (magnitude_swap m n e f).symm
    | infinity t => cases t <;> rfl
    | zero t => cases s <;> rfl
    | notANumber => rfl

theorem lt_iff (x y : Float) : x < y ↔ x.toModel.unpack.compare y.toModel.unpack = some .lt := by
  show decide ((x.toModel.unpack.compare y.toModel.unpack == some .lt) = true) = true ↔ _
  simp

theorem le_iff (x y : Float) :
    x ≤ y ↔ ∃ o, x.toModel.unpack.compare y.toModel.unpack = some o ∧ o.isLE = true := by
  show decide ((x.toModel.unpack.compare y.toModel.unpack).any (·.isLE) = true) = true ↔ _
  simp [Option.any_eq_true]

theorem le_of_lt {x y : Float} (less : x < y) : x ≤ y :=
  (le_iff x y).2 ⟨.lt, (lt_iff x y).1 less, rfl⟩

theorem not_lt_of_le {x y : Float} (le : x ≤ y) : ¬ y < x := by
  rw [lt_iff, compare_swap]
  obtain ⟨o, compared, notAbove⟩ := (le_iff x y).1 le
  rw [compared]
  cases o <;> simp_all

end ResolverWatch.Double
