import ResolverWatch.Proofs.Float.Whole

/-!
# Comparison by number, and monotone rounding

Finite doubles are ordered as the numbers that they are (`compare_value`). A number is rounded to a double on the same
side of every other double (`Nearest.value_le`, `Nearest.le_value`), so rounding is monotone: a quotient of at most one
is rounded to a double of at most one.
-/

namespace ResolverWatch.Double

open Float.Model UnpackedFloat

/-! ## Comparison -/

/-- The lexicographic order of exponents and mantissas is that of the numbers. -/
theorem Canonical.compare {m n : Nat} {e f : Int} (first : Canonical m e) (second : Canonical n f) :
    (compare e f).then (compare m n) = compare ((m : ℚ) * 2 ^ e) (n * 2 ^ f) := by
  rcases lt_trichotomy e f with less | rfl | more
  · have below : (m : ℚ) * 2 ^ e < n * 2 ^ f := by
      refine not_le.1 fun above => ?_
      have := second.exponent_le first above
      omega
    rw [compare_lt_iff_lt.2 less, compare_lt_iff_lt.2 below]
    rfl
  · rw [compare_eq_iff_eq.2 rfl, ← cmp_eq_compare ((m : ℚ) * _), cmp_mul_pos_right (two_zpow_pos e),
      Nat.strictMono_cast.cmp_map_eq, cmp_eq_compare]
    rfl
  · have above : (n : ℚ) * 2 ^ f < m * 2 ^ e := by
      refine not_le.1 fun below => ?_
      have := first.exponent_le second below
      omega
    rw [compare_gt_iff_gt.2 more, compare_gt_iff_gt.2 above]
    rfl

/-- A finite double is a zero, or has a sign and a canonical mantissa and exponent. -/
theorem unpack_signed {x : Float} (finite : x.isFinite = true) :
    (∃ s, x.toModel.unpack = .zero s ∧ value x = 0) ∨
      ∃ s m e pos, x.toModel.unpack = .finite s m e pos ∧ Canonical m e ∧ value x = signed s (m * 2 ^ e) ∧
        (0 : ℚ) < m * 2 ^ e := by
  rcases unpack_cases finite with zero | ⟨s, m, e, pos, unpacked, -⟩
  · exact .inl zero
  · refine .inr ⟨s, m, e, pos, unpacked, canonical_of_unpack_bits unpacked, ?_, ?_⟩
    · unfold value
      rw [unpacked, rational_finite]
    · exact mul_pos (Nat.cast_pos.2 pos) (two_zpow_pos e)

/-- Finite doubles are compared as the numbers that they are. -/
theorem compare_value {x y : Float} (finite : x.isFinite = true) (finite' : y.isFinite = true) :
    x.toModel.unpack.compare y.toModel.unpack = some (compare (value x) (value y)) := by
  rcases unpack_signed finite with ⟨s, unpacked, size⟩ | ⟨s, m, e, pos, unpacked, canonical, size, large⟩ <;>
    rcases unpack_signed finite' with ⟨t, unpacked', size'⟩ | ⟨t, n, f, pos', unpacked', canonical', size', large'⟩ <;>
    rw [unpacked, unpacked', size, size']
  · rfl
  · cases t with
    | positive => exact congrArg some (compare_lt_iff_lt.2 large').symm
    | negative => exact congrArg some (compare_gt_iff_gt.2 (neg_lt_zero.2 large')).symm
  · cases s with
    | positive => exact congrArg some (compare_gt_iff_gt.2 large).symm
    | negative => exact congrArg some (compare_lt_iff_lt.2 (neg_lt_zero.2 large)).symm
  · cases s with
    | positive =>
      cases t with
      | positive => exact congrArg some (canonical.compare canonical')
      | negative => exact congrArg some (compare_gt_iff_gt.2 ((neg_lt_zero.2 large').trans large)).symm
    | negative =>
      cases t with
      | positive => exact congrArg some (compare_lt_iff_lt.2 ((neg_lt_zero.2 large).trans large')).symm
      | negative =>
        have opposite : StrictAnti fun q : ℚ => -q := fun _ _ => neg_lt_neg
        have swapped := opposite.cmp_map_eq ((m : ℚ) * 2 ^ e) (n * 2 ^ f)
        rw [cmp_eq_compare, cmp_eq_compare, ← canonical'.compare canonical, ← magnitude_swap] at swapped
        exact congrArg some swapped.symm

theorem lt_iff_value {x y : Float} (finite : x.isFinite = true) (finite' : y.isFinite = true) :
    x < y ↔ value x < value y := by
  rw [lt_iff, compare_value finite finite', Option.some_inj, compare_lt_iff_lt]

theorem le_iff_value {x y : Float} (finite : x.isFinite = true) (finite' : y.isFinite = true) :
    x ≤ y ↔ value x ≤ value y := by
  rw [le_iff, compare_value finite finite', ← compare_le_iff_le]
  simp [Ordering.isLE_iff_ne_gt]

/-! ## Positive doubles -/

/-- A positive double has no minus sign. -/
theorem isNegative_of_lt {x : Float} (pos : 0.0 < x) : isNegative x.toModel.unpack = false := by
  have zero : (0.0 : Float).toModel.unpack = .zero .positive := by rfl
  rw [lt_iff, zero] at pos
  revert pos
  cases x.toModel.unpack with
  | notANumber => exact fun _ => rfl
  | zero s => exact fun same => nomatch same
  | infinity s | finite s =>
    cases s with
    | positive => exact fun _ => rfl
    | negative => exact fun less => nomatch less

/-- A positive double is not equal to zero. -/
theorem beq_zero_of_lt {x : Float} (pos : 0.0 < x) : (x == 0.0) = false := by
  have zero : (0.0 : Float).toModel.unpack = .zero .positive := by rfl
  rw [lt_iff, compare_swap] at pos
  show (x.toModel.unpack.compare (0.0 : Float).toModel.unpack == some .eq) = false
  revert pos
  cases x.toModel.unpack.compare (0.0 : Float).toModel.unpack with
  | none => exact fun _ => rfl
  | some o => cases o <;> simp

/-- What is at least a number that is not negative is not negative. -/
theorem nonneg_of_le {x y : Float} (nonneg : 0.0 ≤ x) (le : x ≤ y) : 0.0 ≤ y := by
  rw [le_iff_nonNegative] at nonneg ⊢
  rw [le_iff] at le
  revert nonneg le
  cases y.toModel.unpack with
  | notANumber => cases x.toModel.unpack <;> simp [UnpackedFloat.compare]
  | zero t => exact fun _ _ => trivial
  | infinity t | finite t =>
    cases t with
    | positive => exact fun _ _ => rfl
    | negative =>
      cases x.toModel.unpack with
      | notANumber | zero => simp [NonNegative, UnpackedFloat.compare]
      | infinity s | finite s => cases s <;> simp [NonNegative, UnpackedFloat.compare, Ord.compare]

/-- What is at most a finite double, and not negative, is finite. -/
theorem isFinite_of_le {x y : Float} (nonneg : 0.0 ≤ x) (le : x ≤ y) (finite : y.isFinite = true) :
    x.isFinite = true := by
  rw [le_iff_nonNegative] at nonneg
  rw [le_iff] at le
  change y.toModel.unpack.isFinite = true at finite
  show x.toModel.unpack.isFinite = true
  revert nonneg le
  cases x.toModel.unpack with
  | notANumber => exact fun undefined => undefined.elim
  | zero | finite => exact fun _ _ => rfl
  | infinity s =>
    rintro (rfl : s = .positive)
    revert finite
    cases y.toModel.unpack <;> simp [UnpackedFloat.compare, UnpackedFloat.isFinite]

/-! ## Rounding -/

section Rounding

variable {x z : Float} {negative : Bool} {q : ℚ} (nearest : Nearest x negative q) (finite : x.isFinite = true)
  (finite' : z.isFinite = true)
include nearest finite finite'

/-- A number that is at most a double is rounded to one that is at most that double. -/
theorem Nearest.value_le (le : q ≤ value z) : value x ≤ value z := by
  have close := nearest.closest finite z finite'
  change |value x - q| ≤ |value z - q| at close
  rw [abs_of_nonneg (sub_nonneg.2 le)] at close
  linarith [le_abs_self (value x - q)]

/-- A number that is at least a double is rounded to one that is at least that double. -/
theorem Nearest.le_value (le : value z ≤ q) : value z ≤ value x := by
  have close := nearest.closest finite z finite'
  change |value x - q| ≤ |value z - q| at close
  rw [abs_sub_comm (value z), abs_of_nonneg (sub_nonneg.2 le)] at close
  linarith [neg_le_abs (value x - q)]

end Rounding

/-! ## Quotients -/

theorem unpack_packed_zero (s : Sign) : (pack (.zero s)).unpack = .zero s := by
  cases s <;> rfl

theorem signed_zero (s : Sign) : signed s 0 = 0 := by
  cases s with
  | positive => rfl
  | negative => exact neg_zero

theorem unpack_div (x y : Float) :
    (x / y).toModel.unpack = (pack (UnpackedFloat.div Format.binary64 x.toModel.unpack y.toModel.unpack)).unpack :=
  rfl

/-- The quotient of finite doubles is the nearest double to their exact quotient. -/
theorem nearest_quotient {x y : Float} (finite : x.isFinite = true) (finite' : y.isFinite = true)
    (nonzero : value y ≠ 0) : ∃ negative, Nearest (x / y) negative (value x / value y) := by
  have divided := unpack_div x y
  rcases unpack_signed finite' with ⟨t, -, nothing⟩ | ⟨t, n, f, pos', unpacked', -, size', -⟩
  · exact absurd nothing nonzero
  rw [unpacked'] at divided
  rcases unpack_signed finite with ⟨s, unpacked, nothing⟩ | ⟨s, m, e, pos, unpacked, -, size, -⟩
  · rw [unpacked] at divided
    have zero : (x / y).toModel.unpack = .zero (s / t) := by
      rw [divided]
      exact unpack_packed_zero _
    have nearest := nearest_zero le_rfl (two_zpow_pos _) zero
    rw [signed_zero] at nearest
    rw [nothing, zero_div]
    exact ⟨_, nearest⟩
  · rw [unpacked] at divided
    have quotient : signed (s / t) ((m : ℚ) * 2 ^ e / (n * 2 ^ f)) = value x / value y := by
      rw [size, size']
      cases s with
      | positive =>
        cases t with
        | positive => rfl
        | negative => exact (div_neg _).symm
      | negative =>
        cases t with
        | positive => exact (neg_div _ _).symm
        | negative => exact (neg_div_neg_eq _ _).symm
    exact ⟨_, quotient ▸ nearest_div pos pos' divided⟩

/-- A number without a minus sign is zero when it is divided by infinity. -/
theorem div_infinity {x y : Float} (finite : x.isFinite = true) (plain : isNegative x.toModel.unpack = false)
    (infinite : y.isInf = true) (nonneg : 0.0 ≤ y) : x / y = 0.0 := by
  change y.toModel.unpack.isInf = true at infinite
  rw [le_iff_nonNegative] at nonneg
  apply eq_of_unpack
  have divided := unpack_div x y
  cases unpacked' : y.toModel.unpack with
  | notANumber | zero | finite =>
    rw [unpacked'] at infinite
    contradiction
  | infinity t =>
    rw [unpacked'] at divided nonneg
    obtain rfl : t = .positive := nonneg
    rw [divided]
    rcases unpack_signed finite with ⟨s, unpacked, -⟩ | ⟨s, m, e, pos, unpacked, -⟩
    · rw [unpacked] at plain ⊢
      obtain rfl : s = .positive := by cases s <;> trivial
      rfl
    · rw [unpacked] at plain ⊢
      obtain rfl : s = .positive := by cases s <;> trivial
      rfl

end ResolverWatch.Double
