import ResolverWatch.Proofs.Float.Monotone

/-!
# Products, differences and fractions

The product and the difference of finite doubles are rounded to the nearest doubles (`nearest_product`, `nearest_sub`).
What stands behind the point of a double is a double itself, so the whole part is taken off exactly
(`value_sub_floor`).
-/

namespace ResolverWatch.Double

open Float.Model UnpackedFloat

/-! ## Products -/

theorem unpack_mul (x y : Float) :
    (x * y).toModel.unpack = (pack (UnpackedFloat.mul Format.binary64 x.toModel.unpack y.toModel.unpack)).unpack :=
  rfl

/-- Mantissas have enough digits for their product to be rounded, unless they belong to the least exponent. -/
theorem Canonical.enough_product {m n : Nat} {e f : Int} (first : Canonical m e) (second : Canonical n f) (pos : 0 < m)
    (pos' : 0 < n) : 52 ≤ (m * n).log2 ∨ e + f ≤ -1074 := by
  have large (le : 2 ^ 52 ≤ m * n) : 52 ≤ (m * n).log2 := (Nat.le_log2 (by omega)).2 le
  rcases first.digits with least | digits
  · rcases second.digits with least' | digits
    · exact .inr (by omega)
    · exact .inl (large (digits.trans (Nat.le_mul_of_pos_left n pos)))
  · exact .inl (large (digits.trans (Nat.le_mul_of_pos_right m pos')))

/-- The product of finite doubles is the nearest double to their exact product. -/
theorem nearest_product {x y : Float} (finite : x.isFinite = true) (finite' : y.isFinite = true) :
    ∃ negative, Nearest (x * y) negative (value x * value y) := by
  have multiplied := unpack_mul x y
  have zero {s : Sign} (none : value x * value y = 0) (unpacked : (x * y).toModel.unpack = (pack (.zero s)).unpack) :
      ∃ negative, Nearest (x * y) negative (value x * value y) := by
    have nearest := nearest_zero le_rfl (two_zpow_pos _) (unpacked.trans (unpack_packed_zero s))
    rw [signed_zero] at nearest
    exact ⟨_, none ▸ nearest⟩
  rcases unpack_signed finite with ⟨s, unpacked, nothing⟩ | ⟨s, m, e, pos, unpacked, canonical, size, -⟩
  · rw [unpacked] at multiplied
    rcases unpack_signed finite' with ⟨t, unpacked', -⟩ | ⟨t, n, f, pos', unpacked', -⟩ <;>
      rw [unpacked'] at multiplied <;>
      exact zero (by rw [nothing, zero_mul]) multiplied
  · rw [unpacked] at multiplied
    rcases unpack_signed finite' with ⟨t, unpacked', nothing⟩ | ⟨t, n, f, pos', unpacked', canonical', size', -⟩ <;>
      rw [unpacked'] at multiplied
    · exact zero (by rw [nothing, mul_zero]) multiplied
    · have nearest := nearest_of_round (marks_exact _) (canonical.enough_product canonical' pos pos') multiplied
      have product : signed (s * t) (((m * n : Nat) : ℚ) * 2 ^ (e + f)) = value x * value y := by
        have exact : ((m * n : Nat) : ℚ) * 2 ^ (e + f) = m * 2 ^ e * (n * 2 ^ f) := by
          rw [two_zpow_add]
          push_cast
          ring
        rw [size, size', exact]
        cases s with
        | positive =>
          cases t with
          | positive => rfl
          | negative => exact (mul_neg _ _).symm
        | negative =>
          cases t with
          | positive => exact (neg_mul _ _).symm
          | negative => exact (neg_mul_neg _ _).symm
      exact ⟨_, product ▸ nearest⟩

/-! ## Differences -/

theorem value_neg (x : Float) : value (-x) = -value x := by
  unfold value
  rw [unpack_neg, rational_neg]

theorem unpacked_sub_eq_add (a b : UnpackedFloat) :
    UnpackedFloat.sub Format.binary64 a b = UnpackedFloat.add Format.binary64 a b.neg := by
  cases a with
  | notANumber => cases b <;> rfl
  | infinity s =>
    cases b with
    | infinity t => cases s <;> cases t <;> rfl
    | _ => rfl
  | zero s =>
    cases b with
    | zero t => cases s <;> cases t <;> rfl
    | _ => rfl
  | finite s m e pos =>
    cases b with
    | finite t n f pos' =>
      cases t with
      | positive => rfl
      | negative =>
        show UnpackedFloat.normalize Format.binary64 (_ - -_) _ _ = UnpackedFloat.normalize Format.binary64 (_ + _) _ _
        rw [sub_neg_eq_add]
        rfl
    | _ => rfl

/-- Taking off is adding the opposite. -/
theorem sub_eq_add_opposite (x y : Float) : x - y = x + -y := by
  apply eq_of_unpack
  show (pack (UnpackedFloat.sub Format.binary64 x.toModel.unpack y.toModel.unpack)).unpack = _
  rw [unpack_add, unpack_neg, unpacked_sub_eq_add]

/-- The difference of finite doubles is the nearest double to their exact difference. -/
theorem nearest_sub {x y : Float} (finite : x.isFinite = true) (finite' : y.isFinite = true) :
    ∃ negative, Nearest (x - y) negative (value x - value y) := by
  obtain ⟨negative, nearest⟩ := nearest_add finite ((isFinite_neg y).trans finite')
  rw [value_neg, ← sub_eq_add_neg, ← sub_eq_add_opposite] at nearest
  exact ⟨negative, nearest⟩

/-! ## Fractions -/

/-- A number of at most 53 digits has a canonical mantissa. -/
theorem exists_canonical_of_lt {k : Nat} {e : Int} (below : k < 2 ^ 53) (least : -1074 ≤ e) :
    ∃ m f, Canonical m f ∧ f ≤ e ∧ (m : ℚ) * 2 ^ f = k * 2 ^ e := by
  obtain ⟨n, height⟩ : ∃ n : ℕ, e = -1074 + n := ⟨(e + 1074).toNat, by omega⟩
  induction n generalizing k e with
  | zero => exact ⟨k, e, ⟨below, least, .inl (by omega)⟩, le_rfl, rfl⟩
  | succ n ih =>
    rcases Nat.lt_or_ge k (2 ^ 52) with few | digits
    · obtain ⟨m, f, canonical, le, same⟩ := ih (k := 2 * k) (e := e - 1) (by omega) (by omega) (by omega)
      refine ⟨m, f, canonical, by omega, same.trans ?_⟩
      have unit : (2 : ℚ) ^ e = 2 * 2 ^ (e - 1) := by
        rw [← zpow_one_add₀ (by norm_num)]
        congr 1
        omega
      rw [unit]
      push_cast
      ring
    · exact ⟨k, e, ⟨below, least, .inr digits⟩, le_rfl, rfl⟩

/-- A number of at most 53 digits is a double. -/
theorem exists_float_of_lt {k : Nat} {e : Int} (below : k < 2 ^ 53) (least : -1074 ≤ e) (most : e ≤ 971) :
    ∃ x : Float, x.isFinite = true ∧ value x = k * 2 ^ e := by
  obtain ⟨m, f, canonical, le, same⟩ := exists_canonical_of_lt below least
  rcases Nat.eq_zero_or_pos m with rfl | pos
  · refine ⟨0.0, by rfl, ?_⟩
    rw [value_zero, ← same, Nat.cast_zero, zero_mul]
  · obtain ⟨x, finite, exact⟩ := exists_float canonical (le.trans most) pos
    exact ⟨x, finite, exact.trans same⟩

/-- What stands behind the point of a double is a double. -/
theorem exists_fract {x : Float} (finite : x.isFinite = true) (nonneg : 0 ≤ value x) :
    ∃ z : Float, z.isFinite = true ∧ value z = Int.fract (value x) := by
  obtain ⟨e, canonical, most, size⟩ := exists_canonical finite
  change |value x| = _ at size
  rw [abs_of_nonneg nonneg] at size
  generalize mantissa x.toModel.unpack = m at canonical size
  rcases le_or_gt 0 e with whole | point
  · obtain ⟨k, rfl⟩ := Int.eq_ofNat_of_zero_le whole
    refine ⟨0.0, by rfl, ?_⟩
    have integer : value x = ((m * 2 ^ k : ℤ) : ℚ) := by
      rw [size]
      push_cast
      rw [zpow_natCast]
    rw [value_zero, integer, Int.fract_intCast]
  · obtain ⟨k, rfl⟩ : ∃ k : ℕ, e = -(k : ℤ) := ⟨(-e).toNat, by omega⟩
    have below : m % 2 ^ k < 2 ^ 53 := (Nat.mod_le m _).trans_lt canonical.below
    obtain ⟨z, finite', same⟩ := exists_float_of_lt below canonical.least most
    refine ⟨z, finite', ?_⟩
    have unit := two_zpow_pos (-(k : ℤ))
    have inverse : (2 : ℚ) ^ k * 2 ^ (-(k : ℤ)) = 1 := by
      rw [← zpow_natCast, ← two_zpow_add, add_neg_cancel, zpow_zero]
    have rest : ((m % 2 ^ k : Nat) : ℚ) < 2 ^ k := by exact_mod_cast Nat.mod_lt m (Nat.two_pow_pos k)
    -- The last `k` digits of the mantissa stand behind the point.
    have split : (m : ℚ) = 2 ^ k * ((m / 2 ^ k : Nat) : ℚ) + ((m % 2 ^ k : Nat) : ℚ) := by
      exact_mod_cast (Nat.div_add_mod m (2 ^ k)).symm
    symm
    rw [same, Int.fract_eq_iff]
    refine ⟨by positivity, ?_, (m / 2 ^ k : Nat), ?_⟩
    · exact (mul_lt_mul_of_pos_right rest unit).trans_eq inverse
    · rw [size, split, Int.cast_natCast]
      linear_combination ((m / 2 ^ k : Nat) : ℚ) * inverse

/-- A whole number of at most 53 bits, as a double. -/
theorem value_ofNat {n : Nat} (most : n ≤ 2 ^ 53) : (Float.ofNat n).isFinite = true ∧ value (Float.ofNat n) = n := by
  obtain ⟨z, finite, same⟩ := exists_isWhole most
  have nearest := nearest_ofScientific n false 0
  have exact : (n : ℚ) * 10 ^ (if false = true then -((0 : Nat) : ℤ) else ((0 : Nat) : ℤ)) = n := by simp
  rw [exact] at nearest
  exact nearest.value_eq finite same

/-- The whole part of a number below `2 ^ 53` is taken off exactly. -/
theorem value_sub_floor {x : Float} (finite : x.isFinite = true) (nonneg : 0 ≤ value x) (small : value x < 2 ^ 53) :
    (x - Float.ofInt ⌊value x⌋).isFinite = true ∧ value (x - Float.ofInt ⌊value x⌋) = Int.fract (value x) := by
  obtain ⟨n, whole⟩ := Int.eq_ofNat_of_zero_le (Int.floor_nonneg.2 nonneg)
  have below : n ≤ 2 ^ 53 := by
    have floor := (Int.floor_le (value x)).trans_lt small
    rw [whole, Int.cast_natCast] at floor
    exact_mod_cast floor.le
  obtain ⟨finite', same⟩ := value_ofNat below
  obtain ⟨negative, nearest⟩ := nearest_sub finite finite'
  obtain ⟨z, finite'', exact⟩ := exists_fract finite nonneg
  have difference : value z = value x - value (Float.ofNat n) := by
    rw [exact, same, ← Int.self_sub_floor, whole, Int.cast_natCast]
  rw [whole]
  rw [← exact, difference]
  exact nearest.value_eq finite'' difference

end ResolverWatch.Double
