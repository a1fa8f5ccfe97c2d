import ResolverWatch.Proofs.Float.Scientific

/-!
# There is one nearest double

A mantissa and an exponent that a double has are told by their number (`Canonical.inj`), and so a double is told by its
number and its sign (`eq_of_rational`). Of two neighbouring doubles one has an odd mantissa, so no number has two
nearest doubles (`Nearest.unique`).
-/

namespace ResolverWatch.Double

open Float.Model UnpackedFloat

theorem eq_of_unpack {x y : Float} (same : x.toModel.unpack = y.toModel.unpack) : x = y := by
  have bits := (unpack_inj_of_valid x.toModel.valid y.toModel.valid).1 same
  exact Float.toBits_inj.1 (UInt64.toBitVec_inj.1 bits)

/-! ## Neighbours -/

section Canonical

variable {m n : Nat} {e f : Int}

/-- The greater of two numbers has the greater exponent. -/
theorem Canonical.exponent_le (first : Canonical m e) (second : Canonical n f)
    (le : (m : ℚ) * 2 ^ e ≤ n * 2 ^ f) : e ≤ f := by
  by_contra less
  have digits : 2 ^ 52 ≤ m := first.digits.resolve_left (by have := second.least; omega)
  have size : (n : ℚ) < 2 ^ (53 : ℤ) := by
    have below := second.below
    exact_mod_cast below
  have greater : n * (2 : ℚ) ^ f < m * 2 ^ e :=
    calc n * (2 : ℚ) ^ f < 2 ^ (53 : ℤ) * 2 ^ f := mul_lt_mul_of_pos_right size (two_zpow_pos f)
      _ = 2 ^ (53 + f) := (two_zpow_add ..).symm
      _ ≤ 2 ^ (52 + e) := zpow_le_zpow_right₀ (by norm_num) (by omega)
      _ = 2 ^ (52 : ℤ) * 2 ^ e := two_zpow_add ..
      _ ≤ m * 2 ^ e := mul_le_mul_of_nonneg_right (by exact_mod_cast digits) (two_zpow_pos e).le
  exact absurd le (not_le.2 greater)

/-- A mantissa and an exponent that a double has are told by their number. -/
theorem Canonical.inj (first : Canonical m e) (second : Canonical n f) (same : (m : ℚ) * 2 ^ e = n * 2 ^ f) :
    m = n ∧ e = f := by
  obtain rfl : e = f := le_antisymm (first.exponent_le second same.le) (second.exponent_le first same.ge)
  have equal := mul_right_cancel₀ (two_zpow_pos e).ne' same
  exact ⟨by exact_mod_cast equal, rfl⟩

/-- A greater number is at least the one with the next mantissa. -/
theorem Canonical.next_le (first : Canonical m e) (second : Canonical n f) (less : (m : ℚ) * 2 ^ e < n * 2 ^ f) :
    ((m + 1 : Nat) : ℚ) * 2 ^ e ≤ n * 2 ^ f := by
  have exponent := first.exponent_le second less.le
  obtain ⟨k, rfl⟩ : ∃ k : ℕ, f = k + e := ⟨(f - e).toNat, by omega⟩
  have units : (n : ℚ) * 2 ^ ((k : ℤ) + e) = ((n * 2 ^ k : Nat) : ℚ) * 2 ^ e := by
    rw [two_zpow_add, zpow_natCast]
    push_cast
    ring
  rw [units] at less ⊢
  have below : m < n * 2 ^ k := by exact_mod_cast lt_of_mul_lt_mul_right less (two_zpow_pos e).le
  exact mul_le_mul_of_nonneg_right (by exact_mod_cast below) (two_zpow_pos e).le

end Canonical

theorem abs_rational_finite (s : Sign) {m : Nat} (e : Int) (pos : 0 < m) :
    |rational (.finite s m e pos)| = m * 2 ^ e := by
  have nonneg : 0 ≤ (m : ℚ) * 2 ^ e := mul_nonneg (Nat.cast_nonneg m) (two_zpow_pos e).le
  rw [rational_finite, abs_signed, abs_of_nonneg nonneg]

/-- A finite double by the size of its number. -/
theorem exists_canonical {x : Float} (finite : x.isFinite = true) :
    ∃ e, Canonical (mantissa x.toModel.unpack) e ∧ e ≤ 971 ∧
      |rational x.toModel.unpack| = mantissa x.toModel.unpack * 2 ^ e := by
  change x.toModel.unpack.isFinite = true at finite
  cases unpacked : x.toModel.unpack with
  | notANumber | infinity =>
    rw [unpacked] at finite
    contradiction
  | zero s => exact ⟨-1074, ⟨Nat.two_pow_pos 53, le_rfl, .inl rfl⟩, by decide, by simp [rational, mantissa]⟩
  | finite s m e pos =>
    have range := inRange_unpack x
    rw [unpacked] at range
    exact ⟨e, canonical_of_unpack_bits unpacked, range.2.2, abs_rational_finite s e pos⟩

/-- There is a double for a mantissa and an exponent. -/
theorem exists_float {m : Nat} {e : Int} (canonical : Canonical m e) (most : e ≤ 971) (pos : 0 < m) :
    ∃ x : Float, x.isFinite = true ∧ rational x.toModel.unpack = m * 2 ^ e := by
  have unpacked : (pack (.finite .positive m e pos)).unpack = .finite .positive m e pos := by
    rw [unpack_pack_canonical canonical, if_pos most]
  refine ⟨.ofModel (pack (.finite .positive m e pos)), ?_, ?_⟩
  · show (pack (.finite .positive m e pos)).unpack.isFinite = true
    rw [unpacked]
    rfl
  · show rational (pack (.finite .positive m e pos)).unpack = _
    rw [unpacked]
    simp [rational, Sign.apply]

/-! ## The nearest double -/

namespace Nearest

variable {x y : Float} {b c : Bool} {q : ℚ}

/-- No double lies strictly between two that are nearest to one number. -/
theorem not_between (first : Nearest x b q) (second : Nearest y c q) (finite : x.isFinite = true)
    (finite' : y.isFinite = true) {z : Float} (number : z.isFinite = true)
    (above : rational x.toModel.unpack < rational z.toModel.unpack) :
    ¬ rational z.toModel.unpack < rational y.toModel.unpack := by
  intro below
  have close := first.closest finite z number
  have close' := second.closest finite' z number
  rcases le_total (rational z.toModel.unpack) q with less | more
  · rw [abs_of_nonpos (by linarith), abs_of_nonpos (by linarith)] at close
    linarith
  · rw [abs_of_nonneg (by linarith), abs_of_nonneg (by linarith)] at close'
    linarith

/-- Two that are nearest to one number are equally far from it. -/
theorem tie (first : Nearest x b q) (second : Nearest y c q) (finite : x.isFinite = true)
    (finite' : y.isFinite = true) :
    |rational x.toModel.unpack - q| = |rational y.toModel.unpack - q| :=
  le_antisymm (first.closest finite y finite') (second.closest finite' x finite)

theorem not_lt_of_nonneg (first : Nearest x b q) (second : Nearest y c q) (finite : x.isFinite = true)
    (finite' : y.isFinite = true) (nonneg : 0 ≤ rational x.toModel.unpack) :
    ¬ rational x.toModel.unpack < rational y.toModel.unpack := by
  intro less
  have tie := first.tie second finite finite'
  have even := first.even finite y finite' tie.symm less.ne'
  have even' := second.even finite' x finite tie less.ne
  have between {z : Float} (number : z.isFinite = true) := first.not_between second finite finite' number
  obtain ⟨e, canonical, -, size⟩ := exists_canonical finite
  obtain ⟨f, canonical', most, size'⟩ := exists_canonical finite'
  rw [abs_of_nonneg nonneg] at size
  rw [abs_of_pos (nonneg.trans_lt less)] at size'
  rw [size, size'] at less
  -- Both mantissas are even, so the next one belongs to a double that is neither of them.
  have next := canonical.next_le canonical' less
  have exponent := canonical.exponent_le canonical' less.le
  have range : mantissa x.toModel.unpack + 1 < 2 ^ 53 := by
    obtain ⟨half, double⟩ := even
    have below := canonical.below
    omega
  have following : Canonical (mantissa x.toModel.unpack + 1) e :=
    ⟨range, canonical.least, canonical.digits.imp_right Nat.le_succ_of_le⟩
  obtain ⟨z, number, value⟩ := exists_float following (exponent.trans most) (Nat.succ_pos _)
  have above : rational x.toModel.unpack < rational z.toModel.unpack := by
    rw [size, value]
    apply mul_lt_mul_of_pos_right _ (two_zpow_pos e)
    exact_mod_cast Nat.lt_succ_self _
  rcases next.lt_or_eq with less' | same
  · rw [← size', ← value] at less'
    exact between number above less'
  · have odd := (following.inj canonical' same).1
    rw [← odd, Nat.even_add_one] at even'
    exact even' even

theorem rational_le (first : Nearest x b q) (second : Nearest y c q) (finite : x.isFinite = true)
    (finite' : y.isFinite = true) : rational y.toModel.unpack ≤ rational x.toModel.unpack := by
  refine not_lt.1 fun less => ?_
  rcases le_or_gt 0 (rational x.toModel.unpack) with nonneg | negative
  · exact first.not_lt_of_nonneg second finite finite' nonneg less
  · rcases lt_or_ge 0 (rational y.toModel.unpack) with positive | nonpos
    · exact first.not_between second finite finite' (z := 0.0) (by rfl) negative positive
    · -- Both are not positive, so their opposites are nearest to the opposite number.
      refine second.neg.not_lt_of_nonneg first.neg ?_ ?_ ?_ ?_
      · rwa [isFinite_neg]
      · rwa [isFinite_neg]
      · rw [unpack_neg, rational_neg]
        linarith
      · rw [unpack_neg, rational_neg, unpack_neg, rational_neg]
        linarith

end Nearest

theorem sign_inj {s t : Sign} (same : (s == .negative) = (t == .negative)) : s = t := by
  cases s <;> cases t <;> first | rfl | contradiction

/-- A finite double is told by its number and its sign. -/
theorem eq_of_rational {x y : Float} (finite : x.isFinite = true) (finite' : y.isFinite = true)
    (sign : isNegative x.toModel.unpack = isNegative y.toModel.unpack)
    (same : rational x.toModel.unpack = rational y.toModel.unpack) : x = y := by
  apply eq_of_unpack
  have size : |rational x.toModel.unpack| = |rational y.toModel.unpack| := by rw [same]
  have zero (s : Sign) : |rational (.zero s)| = 0 := abs_zero
  have positive {m : Nat} (e : Int) (pos : 0 < m) : (m : ℚ) * 2 ^ e ≠ 0 :=
    mul_ne_zero (Nat.cast_ne_zero.2 pos.ne') (two_zpow_pos e).ne'
  change x.toModel.unpack.isFinite = true at finite
  change y.toModel.unpack.isFinite = true at finite'
  cases first : x.toModel.unpack with
  | notANumber | infinity =>
    rw [first] at finite
    contradiction
  | zero s =>
    cases second : y.toModel.unpack with
    | notANumber | infinity =>
      rw [second] at finite'
      contradiction
    | zero t =>
      rw [first, second] at sign
      rw [sign_inj sign]
    | finite t n f pos' =>
      rw [first, second, zero, abs_rational_finite] at size
      exact absurd size.symm (positive f pos')
  | finite s m e pos =>
    cases second : y.toModel.unpack with
    | notANumber | infinity =>
      rw [second] at finite'
      contradiction
    | zero t =>
      rw [first, second, zero, abs_rational_finite] at size
      exact absurd size (positive e pos)
    | finite t n f pos' =>
      rw [first, second] at sign
      rw [first, second, abs_rational_finite, abs_rational_finite] at size
      obtain ⟨rfl, rfl⟩ := (canonical_of_unpack_bits first).inj (canonical_of_unpack_bits second) size
      obtain rfl := sign_inj sign
      rfl

/-- There is one nearest double. -/
theorem Nearest.unique {x y : Float} {negative : Bool} {q : ℚ} (first : Nearest x negative q)
    (second : Nearest y negative q) : x = y := by
  have sign := first.sign.trans second.sign.symm
  by_cases finite : x.isFinite = true
  · have finite' : y.isFinite = true := second.finite_iff.2 (first.finite_iff.1 finite)
    apply eq_of_rational finite finite' sign
    exact le_antisymm (second.rational_le first finite' finite) (first.rational_le second finite finite')
  · have infinite {z : Float} (number : z.isNaN = false) (infinite : ¬ z.isFinite = true) :
        ∃ s, z.toModel.unpack = .infinity s := by
      change z.toModel.unpack.isNaN = false at number
      change ¬ z.toModel.unpack.isFinite = true at infinite
      cases unpacked : z.toModel.unpack with
      | infinity s => exact ⟨s, rfl⟩
      | notANumber =>
        rw [unpacked] at number
        contradiction
      | zero | finite =>
        rw [unpacked] at infinite
        exact absurd rfl infinite
    have finite' : ¬ y.isFinite = true := fun finite' => finite (first.finite_iff.2 (second.finite_iff.1 finite'))
    obtain ⟨s, unpacked⟩ := infinite first.number finite
    obtain ⟨t, unpacked'⟩ := infinite second.number finite'
    apply eq_of_unpack
    rw [unpacked, unpacked'] at sign ⊢
    rw [sign_inj sign]

end ResolverWatch.Double
