import Mathlib

/-!
# The nearest number of a grid

A double is rounded in two steps. A number is cut at some binary place, and two residual bits tell what was cut off
(`Marks`). Then the mantissa is rounded to the nearest whole number, with ties to the even one
(`Marks.nearestEven`). If the place leaves 53 digits, or is the last one that a double has, then no number that a
double can be is closer (`NearestEven.closest_onGrid`), not even one with a smaller exponent.
-/

namespace ResolverWatch.Double

open Float.Model UnpackedFloat

/-- A whole number nearest to `x`; of two, the even one. -/
def NearestEven (n : Nat) (x : ℚ) : Prop :=
  |(n : ℚ) - x| ≤ 1 / 2 ∧ (|(n : ℚ) - x| = 1 / 2 → Even n)

/-- The number that a mantissa with its residual bits tells of, in units of the mantissa. -/
def Marks (em : ExtendedMantissa) (x : ℚ) : Prop :=
  match em.roundBit, em.stickyBit with
  | false, false => x = em.mantissa
  | false, true => em.mantissa < x ∧ x < em.mantissa + 1 / 2
  | true, false => x = em.mantissa + 1 / 2
  | true, true => em.mantissa + 1 / 2 < x ∧ x < em.mantissa + 1

theorem Marks.nearestEven {em : ExtendedMantissa} {x : ℚ} (marks : Marks em x) : NearestEven em.roundedMantissa x := by
  obtain ⟨m, round, sticky⟩ := em
  unfold NearestEven
  cases round with
  | false =>
    cases sticky with
    | false =>
      obtain rfl : x = m := marks
      show |(m : ℚ) - m| ≤ 1 / 2 ∧ (|(m : ℚ) - m| = 1 / 2 → Even m)
      norm_num
    | true =>
      obtain ⟨above, below⟩ : (m : ℚ) < x ∧ x < m + 1 / 2 := marks
      show |(m : ℚ) - x| ≤ 1 / 2 ∧ (|(m : ℚ) - x| = 1 / 2 → Even m)
      rw [abs_of_neg (by linarith)]
      exact ⟨by linarith, fun tie => by linarith⟩
  | true =>
    cases sticky with
    | false =>
      obtain rfl : x = m + 1 / 2 := marks
      show |((m + m % 2 : Nat) : ℚ) - (m + 1 / 2)| ≤ 1 / 2 ∧ (_ → Even (m + m % 2))
      have even : Even (m + m % 2) := by
        rw [Nat.even_iff]
        omega
      refine ⟨?_, fun _ => even⟩
      rcases Nat.mod_two_eq_zero_or_one m with zero | one
      · rw [zero]
        norm_num
      · rw [one]
        push_cast
        rw [abs_le]
        constructor <;> linarith
    | true =>
      obtain ⟨above, below⟩ : (m : ℚ) + 1 / 2 < x ∧ x < m + 1 := marks
      show |((m + 1 : Nat) : ℚ) - x| ≤ 1 / 2 ∧ (|((m + 1 : Nat) : ℚ) - x| = 1 / 2 → Even (m + 1))
      push_cast
      rw [abs_of_pos (by linarith)]
      exact ⟨by linarith, fun tie => by linarith⟩

/-- Shifting by one keeps what the residual bits tell of. -/
theorem Marks.shiftRightOne {em : ExtendedMantissa} {x : ℚ} (marks : Marks em x) : Marks em.shiftRightOne (x / 2) := by
  obtain ⟨m, round, sticky⟩ := em
  have split : (m : ℚ) = 2 * ((m / 2 : Nat) : ℚ) + ((m % 2 : Nat) : ℚ) := by
    exact_mod_cast (Nat.div_add_mod m 2).symm
  rcases Nat.mod_two_eq_zero_or_one m with zero | one
  · rw [zero] at split
    cases round <;> cases sticky <;> simp [Marks, ExtendedMantissa.shiftRightOne, zero] at marks ⊢
    all_goals push_cast at split
    · linarith
    · constructor <;> linarith
    · constructor <;> linarith
    · constructor <;> linarith
  · rw [one] at split
    cases round <;> cases sticky <;> simp [Marks, ExtendedMantissa.shiftRightOne, one] at marks ⊢
    all_goals push_cast at split
    · linarith
    · constructor <;> linarith
    · constructor <;> linarith
    · constructor <;> linarith

theorem Marks.shiftRight {em : ExtendedMantissa} {x : ℚ} (marks : Marks em x) (n : Nat) :
    Marks (em >>> n) (x / 2 ^ n) := by
  induction n with
  | zero =>
    rw [pow_zero, div_one]
    exact marks
  | succ n ih =>
    rw [pow_succ, ← div_div]
    exact ih.shiftRightOne

/-! ## The nearest number of a grid -/

/-- No whole number is closer than a nearest one, and another that is as close meets an even one. -/
theorem NearestEven.closest {n : Nat} {x : ℚ} (nearest : NearestEven n x) (j : ℤ) :
    |(n : ℚ) - x| ≤ |(j : ℚ) - x| ∧ (|(j : ℚ) - x| = |(n : ℚ) - x| → j ≠ n → Even n) := by
  by_cases same : j = n
  · rw [same]
    exact ⟨le_rfl, fun _ other => absurd rfl other⟩
  · have apart : (1 : ℚ) ≤ |(j : ℚ) - n| := by
      have whole : 1 ≤ |j - (n : ℤ)| := Int.one_le_abs (sub_ne_zero.2 same)
      exact_mod_cast whole
    have detour : |(j : ℚ) - n| ≤ |(j : ℚ) - x| + |(n : ℚ) - x| := by
      rw [abs_sub_comm (n : ℚ) x]
      exact abs_sub_le (j : ℚ) x n
    obtain ⟨half, tie⟩ := nearest
    exact ⟨by linarith, fun equal _ => tie (by linarith)⟩

/-- A number that a double can be if its exponent may be as great as it needs to. -/
def OnGrid (g : ℚ) : Prop :=
  ∃ k e : ℤ, |k| < 2 ^ 53 ∧ -1074 ≤ e ∧ g = k * 2 ^ e

theorem two_zpow_pos (e : ℤ) : (0 : ℚ) < 2 ^ e :=
  zpow_pos (by norm_num) e

theorem two_zpow_add (e f : ℤ) : (2 : ℚ) ^ (e + f) = 2 ^ e * 2 ^ f :=
  zpow_add₀ (by norm_num) e f

/-- What is left when a number is brought to units of `2 ^ t` and back. -/
theorem abs_scaled_sub (a q : ℚ) (t : ℤ) : |a * 2 ^ t - q| = |a - q / 2 ^ t| * 2 ^ t := by
  have pos := two_zpow_pos t
  have scaled : a * 2 ^ t - q = (a - q / 2 ^ t) * 2 ^ t := by
    field_simp
  rw [scaled, abs_mul, abs_of_pos pos]

section Closest

variable {q : ℚ} {t : ℤ} {n : Nat}

/-- The multiple of `2 ^ t` that is nearest to a number is the nearest of the grid, provided that the number has
53 digits above that unit, or no smaller unit is left. -/
theorem NearestEven.closest_onGrid (nearest : NearestEven n (q / 2 ^ t))
    (digits : t = -1074 ∨ (2 : ℚ) ^ (52 + t) ≤ q) {g : ℚ} (onGrid : OnGrid g) :
    |(n : ℚ) * 2 ^ t - q| ≤ |g - q| ∧ (|g - q| = |(n : ℚ) * 2 ^ t - q| → g ≠ n * 2 ^ t → Even n) := by
  obtain ⟨k, e, small, least, rfl⟩ := onGrid
  have unit := two_zpow_pos t
  by_cases fine : t ≤ e
  · -- The number of the grid is a multiple of the unit, too.
    obtain ⟨d, rfl⟩ : ∃ d : ℕ, e = d + t := ⟨(e - t).toNat, by omega⟩
    have multiple : (k : ℚ) * 2 ^ ((d : ℤ) + t) = ((k * 2 ^ d : ℤ) : ℚ) * 2 ^ t := by
      rw [two_zpow_add, zpow_natCast]
      push_cast
      ring
    obtain ⟨closest, tie⟩ := nearest.closest (k * 2 ^ d)
    rw [multiple, abs_scaled_sub, abs_scaled_sub]
    refine ⟨mul_le_mul_of_nonneg_right closest unit.le, fun equal other => tie ?_ ?_⟩
    · exact mul_right_cancel₀ unit.ne' equal
    · intro same
      apply other
      rw [same]
      norm_num
  · -- The number of the grid lies below all numbers with 53 digits above the unit, the least of which is between.
    have least' : (2 : ℚ) ^ (52 + t) ≤ q := by
      rcases digits with lowest | digits
      · omega
      · exact digits
    have below : (k : ℚ) * 2 ^ e < 2 ^ (52 + t) := by
      have mantissa : (k : ℚ) < 2 ^ (53 : ℤ) := by
        have whole : k < 2 ^ 53 := (le_abs_self k).trans_lt small
        exact_mod_cast whole
      calc (k : ℚ) * 2 ^ e < 2 ^ (53 : ℤ) * 2 ^ e := mul_lt_mul_of_pos_right mantissa (two_zpow_pos e)
        _ = 2 ^ (53 + e) := (two_zpow_add 53 e).symm
        _ ≤ 2 ^ (52 + t) := zpow_le_zpow_right₀ (by norm_num) (by omega)
    have between : |(n : ℚ) * 2 ^ t - q| ≤ q - 2 ^ (52 + t) := by
      have closest := (nearest.closest (2 ^ 52)).1
      calc |(n : ℚ) * 2 ^ t - q| = |(n : ℚ) - q / 2 ^ t| * 2 ^ t := abs_scaled_sub ..
        _ ≤ |((2 ^ 52 : ℤ) : ℚ) - q / 2 ^ t| * 2 ^ t := mul_le_mul_of_nonneg_right closest unit.le
        _ = |((2 ^ 52 : ℤ) : ℚ) * 2 ^ t - q| := (abs_scaled_sub ..).symm
        _ = |(2 : ℚ) ^ (52 + t) - q| := by
          rw [two_zpow_add]
          norm_num
        _ = q - 2 ^ (52 + t) := by
          rw [abs_sub_comm]
          exact abs_of_nonneg (sub_nonneg.2 least')
    have farther : |(k : ℚ) * 2 ^ e - q| = q - k * 2 ^ e := by
      rw [abs_sub_comm]
      exact abs_of_nonneg (by linarith)
    rw [farther]
    exact ⟨by linarith, fun equal => by linarith⟩

end Closest

end ResolverWatch.Double
