import ResolverWatch.Proofs.Float.Unique

/-!
# Sums of whole numbers

The sum of two finite doubles is their exact sum, rounded to the nearest double (`nearest_add`), so it is exact where
the exact sum is a double. The whole numbers up to `2 ^ 53` all are. Hence doubles that are whole numbers add up
exactly, in any order, as long as their sum does not exceed that (`value_sum`, `sum_eq_of_value`).
-/

namespace ResolverWatch.Double

open Float.Model UnpackedFloat

/-- The number that a finite double is. -/
def value (x : Float) : ℚ :=
  rational x.toModel.unpack

/-! ## Exact numbers -/

/-- An exact number is rounded to the nearest double. -/
theorem nearest_of_exact {x : Float} {s : Sign} {m : Nat} {e : Int} (pos : 0 < m)
    (rounded : x.toModel.unpack = (pack (UnpackedFloat.round Format.binary64 s m e)).unpack) :
    Nearest x (s == .negative) (signed s (m * 2 ^ e)) := by
  unfold UnpackedFloat.round decreaseExponent at rounded
  dsimp only at rounded
  rw [targetExponent_eq] at rounded
  generalize shift : (e - max ((m.log2 : ℤ) + e - 52) (-1074)).toNat = k at rounded
  -- The mantissa is first shifted to the left, so that it has all digits that a double can have.
  have enough : 52 ≤ (m <<< k).log2 ∨ e - (k : ℤ) ≤ -1074 := by
    by_cases low : e - (k : ℤ) ≤ -1074
    · exact .inr low
    · refine .inl ?_
      have digits : 52 ≤ m.log2 + k := by omega
      have large : 2 ^ 52 ≤ m <<< k := by
        rw [Nat.shiftLeft_eq]
        calc 2 ^ 52 ≤ 2 ^ (m.log2 + k) := Nat.pow_le_pow_right (by decide) digits
          _ = 2 ^ m.log2 * 2 ^ k := Nat.pow_add ..
          _ ≤ m * 2 ^ k := Nat.mul_le_mul_right _ (Nat.log2_self_le pos.ne')
      exact (Nat.le_log2 (by omega)).2 large
  have nearest := nearest_of_round (marks_exact _) enough rounded
  have same : ((m <<< k : Nat) : ℚ) * 2 ^ (e - (k : ℤ)) = m * 2 ^ e := by
    obtain ⟨f, rfl⟩ : ∃ f : ℤ, e = f + k := ⟨e - k, by omega⟩
    rw [Nat.shiftLeft_eq, add_sub_cancel_right, two_zpow_add, zpow_natCast]
    push_cast
    ring
  rwa [same] at nearest

theorem unpack_pack_unpack (x : Float) : (pack x.toModel.unpack).unpack = x.toModel.unpack :=
  congrArg (UnpackedFloat.unpack Format.binary64) (pack_unpack_of_valid x.toModel.valid)

/-- A finite double is a zero, or a number with a sign. -/
theorem unpack_cases {x : Float} (finite : x.isFinite = true) :
    (∃ s, x.toModel.unpack = .zero s ∧ value x = 0) ∨
      ∃ s m e pos, x.toModel.unpack = .finite s m e pos ∧ value x = (s.apply (m : ℤ) : ℤ) * 2 ^ e := by
  change x.toModel.unpack.isFinite = true at finite
  unfold value
  cases unpacked : x.toModel.unpack with
  | notANumber | infinity =>
    rw [unpacked] at finite
    contradiction
  | zero s => exact .inl ⟨s, rfl, rfl⟩
  | finite s m e pos => exact .inr ⟨s, m, e, pos, rfl, rfl⟩

/-- A finite double whose number is zero is a zero. -/
theorem exists_unpack_eq_zero {x : Float} (finite : x.isFinite = true) (zero : value x = 0) :
    ∃ s, x.toModel.unpack = .zero s := by
  rcases unpack_cases finite with ⟨s, unpacked, -⟩ | ⟨s, m, e, pos, unpacked, size⟩
  · exact ⟨s, unpacked⟩
  · have nonzero : s.apply (m : ℤ) ≠ 0 := by
      cases s with
      | positive => exact Int.natCast_ne_zero.2 pos.ne'
      | negative => exact neg_ne_zero.2 (Int.natCast_ne_zero.2 pos.ne')
    rw [size] at zero
    exact absurd zero (mul_ne_zero (Int.cast_ne_zero.2 nonzero) (two_zpow_pos e).ne')

/-- A finite double without a minus sign is zero, or greater than zero. -/
theorem eq_zero_or_pos {x : Float} (finite : x.isFinite = true) (positive : isNegative x.toModel.unpack = false) :
    x = 0.0 ∨ 0.0 < x ∧ (x == 0.0) = false := by
  have zero : (0.0 : Float).toModel.unpack = .zero .positive := by rfl
  rcases unpack_cases finite with ⟨s, unpacked, -⟩ | ⟨s, m, e, pos, unpacked, -⟩
  · left
    rw [unpacked] at positive
    obtain rfl : s = .positive := by cases s <;> trivial
    exact eq_of_unpack (unpacked.trans zero.symm)
  · right
    rw [unpacked] at positive
    obtain rfl : s = .positive := by cases s <;> trivial
    constructor
    · rw [lt_iff, zero, unpacked]
      rfl
    · show (x.toModel.unpack.compare (0.0 : Float).toModel.unpack == some .eq) = false
      rw [zero, unpacked]
      rfl

/-- The size of a finite double is below the numbers that are too great for one. -/
theorem abs_value_lt_overflow {x : Float} (finite : x.isFinite = true) : |value x| < overflow := by
  obtain ⟨e, canonical, most, size⟩ := exists_canonical finite
  have digits : ((mantissa x.toModel.unpack : Nat) : ℚ) + 1 ≤ 2 ^ 53 := by
    have below : mantissa x.toModel.unpack + 1 ≤ 2 ^ 53 := canonical.below
    exact_mod_cast below
  show |rational x.toModel.unpack| < overflow
  rw [size, overflow_eq]
  calc (mantissa x.toModel.unpack : ℚ) * 2 ^ e ≤ (2 ^ 53 - 1) * 2 ^ (971 : ℤ) :=
        mul_le_mul (by linarith) (zpow_le_zpow_right₀ (by norm_num) most) (two_zpow_pos e).le (by norm_num)
    _ < (2 ^ 53 - 1 / 2) * 2 ^ (971 : ℤ) := mul_lt_mul_of_pos_right (by norm_num) (two_zpow_pos 971)

/-- A finite double is the nearest to its own number. -/
theorem nearest_value {x : Float} (finite : x.isFinite = true) : Nearest x (isNegative x.toModel.unpack) (value x) where
  sign := rfl
  number := isNaN_of_isFinite finite
  finite_iff := iff_of_true finite (abs_value_lt_overflow finite)
  closest _ y _ := by
    rw [value, sub_self, abs_zero]
    exact abs_nonneg _
  even _ y _ tie other := by
    rw [value, sub_self, abs_zero, abs_eq_zero, sub_eq_zero] at tie
    exact absurd tie other

/-- A double that is nearest to the number of a double is that number. -/
theorem Nearest.value_eq {x z : Float} {negative : Bool} {q : ℚ} (nearest : Nearest x negative q)
    (finite : z.isFinite = true) (same : value z = q) : x.isFinite = true ∧ value x = q := by
  subst same
  have finite' : x.isFinite = true := nearest.finite_iff.2 (abs_value_lt_overflow finite)
  have distance := nearest.closest finite' z finite
  unfold value at distance ⊢
  rw [sub_self, abs_zero] at distance
  exact ⟨finite', sub_eq_zero.1 (abs_nonpos_iff.1 distance)⟩

/-! ## One addition -/

/-- A signed number of units is rounded to the nearest double. -/
theorem exists_nearest_of_normalize {x : Float} {m : Int} {e : Int} {u : Sign}
    (rounded : x.toModel.unpack = (pack (UnpackedFloat.normalize Format.binary64 m e u)).unpack) :
    ∃ negative, Nearest x negative (m * 2 ^ e) := by
  unfold UnpackedFloat.normalize at rounded
  split at rounded
  · next below =>
    have less : m < 0 := Int.compare_eq_lt.1 below
    obtain ⟨k, rfl⟩ : ∃ k : ℕ, m = -(k : ℤ) := ⟨(-m).toNat, by omega⟩
    rw [neg_neg, Int.toNat_natCast] at rounded
    have nearest := nearest_of_exact (by omega) rounded
    have same : signed .negative ((k : ℚ) * 2 ^ e) = ((-(k : ℤ) : ℤ) : ℚ) * 2 ^ e := by
      show -((k : ℚ) * 2 ^ e) = _
      push_cast
      ring
    exact ⟨true, same ▸ nearest⟩
  · next equal =>
    obtain rfl : m = 0 := Int.compare_eq_eq.1 equal
    have zero : (pack (.zero u)).unpack = .zero u := by cases u <;> rfl
    have nearest := nearest_zero le_rfl (two_zpow_pos _) (rounded.trans zero)
    have same : signed u 0 = ((0 : ℤ) : ℚ) * 2 ^ e := by cases u <;> simp [signed]
    exact ⟨_, same ▸ nearest⟩
  · next above =>
    have more : 0 < m := Int.compare_eq_gt.1 above
    obtain ⟨k, rfl⟩ : ∃ k : ℕ, m = k := ⟨m.toNat, by omega⟩
    rw [Int.toNat_natCast] at rounded
    exact ⟨false, nearest_of_exact (by omega) rounded⟩

/-- A number brought to a smaller exponent. -/
theorem apply_shiftLeft (s : Sign) (m : Nat) {e f : Int} (le : f ≤ e) :
    ((s.apply ((m <<< (e - f).toNat : Nat) : ℤ) : ℤ) : ℚ) * 2 ^ f = (s.apply (m : ℤ) : ℤ) * 2 ^ e := by
  obtain ⟨k, rfl⟩ : ∃ k : ℕ, e = f + k := ⟨(e - f).toNat, by omega⟩
  have amount : (f + (k : ℤ) - f).toNat = k := by omega
  rw [amount, Nat.shiftLeft_eq, two_zpow_add, zpow_natCast]
  cases s with
  | positive =>
    show (((m * 2 ^ k : Nat) : ℤ) : ℚ) * 2 ^ f = ((m : ℤ) : ℚ) * (2 ^ f * 2 ^ k)
    push_cast
    ring
  | negative =>
    show ((-((m * 2 ^ k : Nat) : ℤ) : ℤ) : ℚ) * 2 ^ f = ((-(m : ℤ) : ℤ) : ℚ) * (2 ^ f * 2 ^ k)
    push_cast
    ring

/-- The sum of finite doubles is the nearest double to their exact sum. -/
theorem nearest_add {x y : Float} (finite : x.isFinite = true) (finite' : y.isFinite = true) :
    ∃ negative, Nearest (x + y) negative (value x + value y) := by
  have added := unpack_add x y
  rcases unpack_cases finite with ⟨s, unpacked, nothing⟩ | ⟨s, m, e, pos, unpacked, size⟩
  · rw [nothing, zero_add]
    rcases unpack_cases finite' with ⟨t, unpacked', nothing'⟩ | ⟨t, n, f, pos', unpacked', -⟩
    · rw [unpacked, unpacked'] at added
      have zero : ∃ u, (x + y).toModel.unpack = .zero u := by
        cases s <;> cases t <;> exact ⟨_, added⟩
      obtain ⟨u, same⟩ := zero
      have nearest := nearest_zero le_rfl (two_zpow_pos _) same
      have none : signed u 0 = 0 := by cases u <;> simp [signed]
      rw [nothing']
      exact ⟨_, none ▸ nearest⟩
    · have same : (x + y).toModel.unpack = y.toModel.unpack := by
        have packed := unpack_pack_unpack y
        rw [unpacked'] at packed ⊢
        rw [unpacked, unpacked'] at added
        exact added.trans packed
      rw [eq_of_unpack same]
      exact ⟨_, nearest_value finite'⟩
  · rcases unpack_cases finite' with ⟨t, unpacked', nothing⟩ | ⟨t, n, f, pos', unpacked', size'⟩
    · have same : (x + y).toModel.unpack = x.toModel.unpack := by
        have packed := unpack_pack_unpack x
        rw [unpacked] at packed ⊢
        rw [unpacked, unpacked'] at added
        exact added.trans packed
      rw [eq_of_unpack same, nothing, add_zero]
      exact ⟨_, nearest_value finite⟩
    · rw [unpacked, unpacked'] at added
      obtain ⟨negative, nearest⟩ := exists_nearest_of_normalize added
      have sum := congrArg₂ (· + ·) (apply_shiftLeft s m (min_le_left e f)) (apply_shiftLeft t n (min_le_right e f))
      rw [← add_mul, ← Int.cast_add, ← size, ← size'] at sum
      exact ⟨negative, sum ▸ nearest⟩

/-! ## Whole numbers -/

/-- The double is a whole number that is not negative. Either zero is one. -/
structure IsWhole (x : Float) : Prop where
  finite : x.isFinite = true
  whole : ∃ n : ℕ, value x = n

theorem IsWhole.nonneg {x : Float} (whole : IsWhole x) : 0 ≤ value x := by
  obtain ⟨n, same⟩ := whole.whole
  rw [same]
  exact Nat.cast_nonneg n

theorem value_zero : value 0.0 = 0 := by
  decide +kernel

theorem isWhole_zero : IsWhole 0.0 :=
  ⟨by decide +kernel, 0, value_zero⟩

/-- The whole numbers up to `2 ^ 53` are doubles. -/
theorem exists_isWhole {n : Nat} (most : n ≤ 2 ^ 53) : ∃ x : Float, x.isFinite = true ∧ value x = n := by
  rcases Nat.eq_zero_or_pos n with rfl | pos
  · exact ⟨0.0, by decide +kernel, value_zero⟩
  · rcases most.lt_or_eq with below | rfl
    · obtain ⟨m, e, pos', unpacked, -, same⟩ := unpack_toFloat pos below
      refine ⟨n.toUInt64.toFloat, ?_, ?_⟩
      · show n.toUInt64.toFloat.toModel.unpack.isFinite = true
        rw [unpacked]
        rfl
      · rw [value, unpacked]
        exact same
    · obtain ⟨x, finite, same⟩ := exists_float (m := 2 ^ 52) (e := 1) ⟨by decide, by decide, .inr le_rfl⟩ (by decide)
        (by decide)
      refine ⟨x, finite, same.trans ?_⟩
      norm_num

/-- Whole numbers are added exactly if their sum is at most `2 ^ 53`. -/
theorem IsWhole.add {x y : Float} (first : IsWhole x) (second : IsWhole y) (most : value x + value y ≤ 2 ^ 53) :
    IsWhole (x + y) ∧ value (x + y) = value x + value y := by
  obtain ⟨m, same⟩ := first.whole
  obtain ⟨n, same'⟩ := second.whole
  have bound : m + n ≤ 2 ^ 53 := by
    rw [same, same'] at most
    exact_mod_cast most
  obtain ⟨z, finite, exact⟩ := exists_isWhole bound
  obtain ⟨negative, nearest⟩ := nearest_add first.finite second.finite
  have sum : value z = value x + value y := by
    rw [exact, same, same']
    push_cast
    rfl
  obtain ⟨finite', equal⟩ := nearest.value_eq finite sum
  exact ⟨⟨finite', m + n, by rw [equal, ← sum, exact]⟩, equal⟩

theorem isNegative_of_pos {x : Float} (pos : 0 < value x) : isNegative x.toModel.unpack = false := by
  unfold value at pos
  cases unpacked : x.toModel.unpack with
  | notANumber => rfl
  | infinity | zero =>
    rw [unpacked] at pos
    exact absurd pos (lt_irrefl 0)
  | finite s m e pos' =>
    cases s with
    | positive => rfl
    | negative =>
      rw [unpacked, rational_finite] at pos
      have size : 0 ≤ (m : ℚ) * 2 ^ e := mul_nonneg (Nat.cast_nonneg m) (two_zpow_pos e).le
      change 0 < -((m : ℚ) * 2 ^ e) at pos
      linarith

/-- Adding a whole number to a whole number other than the negative zero never gives the negative zero. -/
theorem IsWhole.isNegative_add {x y : Float} (first : IsWhole x) (second : IsWhole y)
    (most : value x + value y ≤ 2 ^ 53) (positive : isNegative x.toModel.unpack = false) :
    isNegative (x + y).toModel.unpack = false := by
  have sum := (first.add second most).2
  rcases first.nonneg.lt_or_eq with pos | zero
  · exact isNegative_of_pos (by linarith [second.nonneg])
  · rcases second.nonneg.lt_or_eq with pos | zero'
    · exact isNegative_of_pos (by linarith)
    · obtain ⟨s, unpacked⟩ := exists_unpack_eq_zero first.finite zero.symm
      obtain ⟨t, unpacked'⟩ := exists_unpack_eq_zero second.finite zero'.symm
      rw [unpacked] at positive
      obtain rfl : s = .positive := by cases s <;> trivial
      have added := unpack_add x y
      rw [unpacked, unpacked'] at added
      rw [added]
      cases t <;> rfl

section Sum

variable {xs ys : List Float} (whole : ∀ x ∈ xs, IsWhole x) (most : (xs.map value).sum ≤ 2 ^ 53)
include whole most

/-- Whole numbers add up exactly if their sum is at most `2 ^ 53`. -/
theorem value_sum :
    IsWhole (sum xs) ∧ value (sum xs) = (xs.map value).sum ∧ isNegative (sum xs).toModel.unpack = false := by
  induction xs using List.reverseRecOn with
  | nil => exact ⟨isWhole_zero, value_zero, by decide +kernel⟩
  | append_singleton xs x ih =>
    have last : IsWhole x := whole x (by simp)
    have total : ((xs ++ [x]).map value).sum = (xs.map value).sum + value x := by simp
    rw [total] at most ⊢
    obtain ⟨before, exact, positive⟩ := ih (fun y mem => whole y (by simp [mem])) (by linarith [last.nonneg])
    rw [← exact] at most ⊢
    rw [sum_concat]
    obtain ⟨after, exact'⟩ := before.add last most
    exact ⟨after, exact', before.isNegative_add last most positive⟩

/-- Whole numbers with the same exact sum add up to the same double. -/
theorem sum_eq_of_value (whole' : ∀ y ∈ ys, IsWhole y) (same : (xs.map value).sum = (ys.map value).sum) :
    sum xs = sum ys := by
  obtain ⟨first, exact, positive⟩ := value_sum whole most
  obtain ⟨second, exact', positive'⟩ := value_sum whole' (same ▸ most)
  apply eq_of_rational first.finite second.finite
  · rw [positive, positive']
  · exact exact.trans (same.trans exact'.symm)

end Sum

end ResolverWatch.Double
