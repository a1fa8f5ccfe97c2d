import ResolverWatch.Decimal.Whole
import ResolverWatch.Proofs.Float.Monotone

/-!
# Whole numbers near a double

The whole part of a finite double that is not negative is its floor (`truncate?_eq_floor`), and the whole number that it
is rounded to is the nearest one, of two the even one (`exists_nearestEven?`). Greater numbers are rounded to greater
whole numbers or to the same one (`NearestEven.mono`).
-/

namespace ResolverWatch

open Float.Model UnpackedFloat

namespace Double

/-- Rounding to whole numbers keeps the order. -/
theorem NearestEven.mono {m n : Nat} {x y : ℚ} (first : NearestEven m x) (second : NearestEven n y) (le : x ≤ y) :
    m ≤ n := by
  obtain ⟨close, tie⟩ := first
  obtain ⟨close', tie'⟩ := second
  by_contra above
  have next : (n : ℚ) + 1 ≤ m := by exact_mod_cast Nat.lt_of_not_le above
  have most := (abs_le.1 close).2
  have least := (abs_le.1 close').1
  -- Both numbers can only be the middle between neighbours, which are not both even.
  have even : Even m := tie (by rw [abs_of_nonneg (by linarith)]; linarith)
  have even' : Even n := tie' (by rw [abs_of_nonpos (by linarith)]; linarith)
  have same : n + 1 = m := by
    have equal : (n : ℚ) + 1 = m := by linarith
    exact_mod_cast equal
  rw [← same, Nat.even_add_one] at even
  exact even even'

/-- There is one nearest whole number. -/
theorem NearestEven.unique {m n : Nat} {x : ℚ} (first : NearestEven m x) (second : NearestEven n x) : m = n :=
  le_antisymm (first.mono second le_rfl) (second.mono first le_rfl)

/-- An even number of units makes no difference to rounding. -/
theorem NearestEven.even_add {k n : Nat} {x : ℚ} (nearest : NearestEven n x) (even : Even k) :
    NearestEven (k + n) (k + x) := by
  have distance : ((k + n : Nat) : ℚ) - (k + x) = n - x := by
    push_cast
    ring
  unfold NearestEven
  rw [distance]
  exact ⟨nearest.1, fun tie => even.add (nearest.2 tie)⟩

end Double

namespace Decimal

open Double

/-- A quotient of natural numbers is rounded to the nearest whole number. -/
theorem nearestEven_div (n : Nat) {d : Nat} (pos : 0 < d) : NearestEven (divNearestEven n d) ((n : ℚ) / d) := by
  have nearest := (marks_quotient n pos).nearestEven
  have rounded : (ExtendedMantissa.ofMantissaAndAccuracy (n / d) (accuracyOfFraction (n % d) d)).roundedMantissa =
      divNearestEven n d := by
    unfold accuracyOfFraction divNearestEven
    dsimp only
    generalize n / d = quotient
    generalize n % d = rest
    simp only [Bool.or_eq_true, Bool.and_eq_true, decide_eq_true_eq, beq_iff_eq]
    split_ifs with zero below below
    · rfl
    · omega
    · rcases below with less | ⟨half, even⟩
      · rw [Nat.compare_eq_lt.2 less]
        rfl
      · rw [Nat.compare_eq_eq.2 half]
        show quotient + quotient % 2 = quotient
        omega
    · rcases Nat.lt_or_eq_of_le (show d ≤ 2 * rest by omega) with more | half
      · rw [Nat.compare_eq_gt.2 more]
        rfl
      · rw [Nat.compare_eq_eq.2 half.symm]
        show quotient + quotient % 2 = quotient + 1
        omega
  rwa [rounded] at nearest

theorem exists_nearestEven {x : ℚ} (nonneg : 0 ≤ x) : ∃ n, NearestEven n x := by
  have nearest := nearestEven_div x.num.toNat x.pos
  have same : ((x.num.toNat : Nat) : ℚ) / x.den = x := by
    have whole : ((x.num.toNat : Nat) : ℤ) = x.num := Int.toNat_of_nonneg (Rat.num_nonneg.2 nonneg)
    have cast : ((x.num.toNat : Nat) : ℚ) = (x.num : ℚ) := by exact_mod_cast congrArg (Int.cast : ℤ → ℚ) whole
    rw [cast, Rat.num_div_den]
  exact ⟨_, same ▸ nearest⟩

/-- A power of two as a quotient of whole numbers. -/
theorem mul_two_zpow (m : Nat) (e : Int) :
    (m : ℚ) * 2 ^ e = ((m * Nat.pow 2 e.toNat : Nat) : ℚ) / ((Nat.pow 2 (-e).toNat : Nat) : ℚ) := by
  rcases le_total 0 e with whole | point
  · obtain ⟨k, rfl⟩ := Int.eq_ofNat_of_zero_le whole
    have none : (-(k : ℤ)).toNat = 0 := by omega
    rw [none, zpow_natCast]
    simp
  · obtain ⟨k, rfl⟩ : ∃ k : ℕ, e = -(k : ℤ) := ⟨(-e).toNat, by omega⟩
    have none : (-(k : ℤ)).toNat = 0 := by omega
    rw [none, neg_neg, Int.toNat_natCast, zpow_neg, zpow_natCast]
    simp [div_eq_mul_inv]

section NonNegative

variable {x : Float} (finite : x.isFinite = true) (nonneg : 0 ≤ value x)
include finite nonneg

/-- A finite double whose number is not negative is a zero or has no minus sign. -/
theorem unpack_of_nonneg :
    (∃ s, x.toModel.unpack = .zero s ∧ value x = 0) ∨
      ∃ m e pos, x.toModel.unpack = .finite .positive m e pos ∧ value x = m * 2 ^ e := by
  rcases unpack_signed finite with zero | ⟨s, m, e, pos, unpacked, -, size, large⟩
  · exact .inl zero
  · cases s with
    | positive => exact .inr ⟨m, e, pos, unpacked, size⟩
    | negative =>
      change value x = -(m * 2 ^ e) at size
      linarith

/-- The whole part is the floor. -/
theorem truncate?_eq_floor : truncate? x = some ⌊value x⌋ := by
  unfold truncate?
  rcases unpack_of_nonneg finite nonneg with ⟨s, unpacked, size⟩ | ⟨m, e, pos, unpacked, size⟩
  · rw [unpacked, size, Int.floor_zero]
  · rw [unpacked, size, mul_two_zpow, Rat.floor_natCast_div_natCast]
    rfl

theorem exists_nearestEven? : ∃ n : Nat, nearestEven? x = some (n : ℤ) ∧ NearestEven n (value x) := by
  unfold nearestEven?
  rcases unpack_of_nonneg finite nonneg with ⟨s, unpacked, size⟩ | ⟨m, e, pos, unpacked, size⟩
  · rw [unpacked, size]
    exact ⟨0, rfl, by norm_num [NearestEven]⟩
  · rw [unpacked, size, mul_two_zpow]
    exact ⟨_, rfl, nearestEven_div _ (Nat.two_pow_pos _)⟩

end NonNegative

end Decimal

end ResolverWatch
