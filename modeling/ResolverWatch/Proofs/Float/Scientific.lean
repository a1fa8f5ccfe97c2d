import ResolverWatch.Proofs.Float.Rounding

/-!
# Products, quotients and numbers in scientific notation

Products and quotients are computed with enough digits to be rounded to the nearest double (`nearest_mul`,
`nearest_div`). Hence digits that are scaled by a power of ten are read as the nearest double (`nearest_ofScientific`),
by one multiplication or division of exact doubles where the digits and the power are small enough for that.
-/

namespace ResolverWatch.Double

open Float.Model UnpackedFloat

theorem marks_exact (m : Nat) : Marks (ExtendedMantissa.ofMantissaAndAccuracy m .exact) m := rfl

/-- The residual bits of a quotient tell of its fraction. -/
theorem marks_quotient (m : Nat) {d : Nat} (pos : 0 < d) :
    Marks (ExtendedMantissa.ofMantissaAndAccuracy (m / d) (accuracyOfFraction (m % d) d)) ((m : ℚ) / d) := by
  have pos' : (0 : ℚ) < d := by exact_mod_cast pos
  have rest : m % d < d := Nat.mod_lt m pos
  have split : (m : ℚ) / d = ((m / d : Nat) : ℚ) + ((m % d : Nat) : ℚ) / d := by
    have whole : (m : ℚ) = d * ((m / d : Nat) : ℚ) + ((m % d : Nat) : ℚ) := by
      exact_mod_cast (Nat.div_add_mod m d).symm
    nth_rewrite 1 [whole]
    field_simp
  rw [split]
  generalize m / d = quotient
  generalize m % d = fraction at rest
  unfold accuracyOfFraction
  split_ifs with zero
  · rw [zero]
    simp [Marks, ExtendedMantissa.ofMantissaAndAccuracy]
  · have above : (0 : ℚ) < (fraction : ℚ) / d := by
      have whole : 0 < fraction := Nat.pos_of_ne_zero zero
      exact div_pos (by exact_mod_cast whole) pos'
    have below : (fraction : ℚ) / d < 1 := by
      rw [div_lt_one pos']
      exact_mod_cast rest
    have halves : (fraction : ℚ) / d = ((2 * fraction : Nat) : ℚ) / d * (1 / 2) := by
      push_cast
      ring
    rcases lt_trichotomy (2 * fraction) d with less | same | more
    · rw [Nat.compare_eq_lt.2 less]
      have half : (fraction : ℚ) / d < 1 / 2 := by
        rw [halves]
        have small : ((2 * fraction : Nat) : ℚ) / d < 1 := (div_lt_one pos').2 (by exact_mod_cast less)
        linarith
      show (quotient : ℚ) < quotient + fraction / d ∧ (quotient : ℚ) + fraction / d < quotient + 1 / 2
      exact ⟨by linarith, by linarith⟩
    · rw [Nat.compare_eq_eq.2 same]
      have half : (fraction : ℚ) / d = 1 / 2 := by
        rw [halves, same, div_self pos'.ne', one_mul]
      rw [half]
      rfl
    · rw [Nat.compare_eq_gt.2 more]
      have half : 1 / 2 < (fraction : ℚ) / d := by
        rw [halves]
        have great : 1 < ((2 * fraction : Nat) : ℚ) / d := (one_lt_div pos').2 (by exact_mod_cast more)
        linarith
      show (quotient : ℚ) + 1 / 2 < quotient + fraction / d ∧ (quotient : ℚ) + fraction / d < quotient + 1
      exact ⟨by linarith, by linarith⟩

/-- A quotient is computed with enough digits. -/
theorem enough_quotient {m d : Nat} {e f : Int} (pos : 0 < m) (pos' : 0 < d) :
    52 ≤ (m <<< (e - f - min (e - f) (Format.binary64.targetExponent (totalExponent m e - totalExponent d f))).toNat
        / d).log2 ∨
      min (e - f) (Format.binary64.targetExponent (totalExponent m e - totalExponent d f)) ≤ -1074 := by
  have target : Format.binary64.targetExponent (totalExponent m e - totalExponent d f) =
      max (m.log2 - d.log2 + (e - f) - 53) (-1074) := by
    unfold Format.targetExponent totalExponent
    rw [binary64_minExponent, binary64_mantissaBits]
    congr 1
    push_cast
    ring
  rw [target]
  by_cases low : min (e - f) (max ((m.log2 : ℤ) - d.log2 + (e - f) - 53) (-1074)) ≤ -1074
  · exact .inr low
  · refine .inl ?_
    generalize shift : (e - f - min (e - f) (max ((m.log2 : ℤ) - d.log2 + (e - f) - 53) (-1074))).toNat = k
    have digits : 52 + (d.log2 + 1) ≤ m.log2 + k := by omega
    have large : 2 ^ 52 ≤ m <<< k / d := by
      rw [Nat.le_div_iff_mul_le pos', Nat.shiftLeft_eq]
      calc 2 ^ 52 * d ≤ 2 ^ 52 * 2 ^ (d.log2 + 1) := Nat.mul_le_mul_left _ Nat.lt_log2_self.le
        _ = 2 ^ (52 + (d.log2 + 1)) := (Nat.pow_add ..).symm
        _ ≤ 2 ^ (m.log2 + k) := Nat.pow_le_pow_right (by decide) digits
        _ = 2 ^ m.log2 * 2 ^ k := Nat.pow_add ..
        _ ≤ m * 2 ^ k := Nat.mul_le_mul_right _ (Nat.log2_self_le pos.ne')
    exact (Nat.le_log2 (by omega)).2 large

/-- The quotient of numbers is rounded to the nearest double. -/
theorem nearest_div {x : Float} {s t : Sign} {m d : Nat} {e f : Int} (pos : 0 < m) (pos' : 0 < d)
    (rounded : x.toModel.unpack =
      (pack (UnpackedFloat.div Format.binary64 (.finite s m e pos) (.finite t d f pos'))).unpack) :
    Nearest x (s / t == .negative) (signed (s / t) (m * 2 ^ e / (d * 2 ^ f))) := by
  have enough := enough_quotient (e := e) (f := f) pos pos'
  unfold UnpackedFloat.div divCore at rounded
  dsimp only at rounded
  have below : min (e - f) (Format.binary64.targetExponent (totalExponent m e - totalExponent d f)) ≤ e - f :=
    min_le_left ..
  generalize min (e - f) (Format.binary64.targetExponent (totalExponent m e - totalExponent d f)) = target at *
  have nearest := nearest_of_round (marks_quotient _ pos') enough rounded
  have value : ((m <<< (e - f - target).toNat : Nat) : ℚ) / d * 2 ^ target = m * 2 ^ e / (d * 2 ^ f) := by
    obtain ⟨k, shift⟩ : ∃ k : ℕ, e = k + target + f := ⟨(e - f - target).toNat, by omega⟩
    have amount : (e - f - target).toNat = k := by omega
    have unit := two_zpow_pos f
    rw [amount, shift, Nat.shiftLeft_eq, two_zpow_add, two_zpow_add, zpow_natCast]
    push_cast
    field_simp
  rw [value] at nearest
  exact nearest

/-- The product of numbers one of which has all its digits is rounded to the nearest double. -/
theorem nearest_mul {x : Float} {s t : Sign} {m n : Nat} {e f : Int} (pos : 0 < m) (pos' : 0 < n)
    (digits : 2 ^ 52 ≤ m)
    (rounded : x.toModel.unpack =
      (pack (UnpackedFloat.mul Format.binary64 (.finite s m e pos) (.finite t n f pos'))).unpack) :
    Nearest x (s * t == .negative) (signed (s * t) (m * 2 ^ e * (n * 2 ^ f))) := by
  have large : 2 ^ 52 ≤ m * n := digits.trans (Nat.le_mul_of_pos_right m pos')
  have enough : 52 ≤ (m * n).log2 := (Nat.le_log2 (by omega)).2 large
  have nearest := nearest_of_round (marks_exact _) (.inl enough) rounded
  have value : ((m * n : Nat) : ℚ) * 2 ^ (e + f) = m * 2 ^ e * (n * 2 ^ f) := by
    rw [two_zpow_add]
    push_cast
    ring
  rw [value] at nearest
  exact nearest

theorem nearest_zero {x : Float} {q : ℚ} {s : Sign} (nonneg : 0 ≤ q) (tiny : q < 2 ^ (-1075 : ℤ))
    (rounded : x.toModel.unpack = .zero s) : Nearest x (s == .negative) (signed s q) := by
  have unit := two_zpow_pos (-1074)
  have half : (2 : ℚ) ^ (-1075 : ℤ) = 1 / 2 * 2 ^ (-1074 : ℤ) := by
    have split := two_zpow_add (-1) (-1074)
    rw [zpow_neg_one, inv_eq_one_div] at split
    exact split
  have small : q / 2 ^ (-1074 : ℤ) < 1 / 2 := by
    rw [div_lt_iff₀ unit]
    rwa [half] at tiny
  have least : 0 ≤ q / 2 ^ (-1074 : ℤ) := div_nonneg nonneg unit.le
  have normal : Normalized q (-1074) := by
    refine ⟨le_rfl, tiny.trans_le ?_, .inl rfl⟩
    exact zpow_le_zpow_right₀ (by norm_num) (by norm_num)
  have nearest : NearestEven 0 (q / 2 ^ (-1074 : ℤ)) := by
    have distance : |((0 : Nat) : ℚ) - q / 2 ^ (-1074 : ℤ)| = q / 2 ^ (-1074 : ℤ) := by
      rw [Nat.cast_zero, zero_sub, abs_neg, abs_of_nonneg least]
    unfold NearestEven
    rw [distance]
    exact ⟨small.le, fun _ => Even.zero⟩
  refine nearest_of_carried nonneg normal nearest (rounded.trans ?_)
  cases s <;> rfl

theorem nearest_infinity {x : Float} {q : ℚ} {s : Sign} (nonneg : 0 ≤ q) (great : overflow ≤ q)
    (rounded : x.toModel.unpack = .infinity s) : Nearest x (s == .negative) (signed s q) := by
  have infinite : ¬ x.isFinite = true := by
    show ¬ x.toModel.unpack.isFinite = true
    rw [rounded]
    exact Bool.false_ne_true
  refine ⟨?_, ?_, ?_, fun finite => absurd finite infinite, fun finite => absurd finite infinite⟩
  · rw [rounded]
    rfl
  · show x.toModel.unpack.isNaN = false
    rw [rounded]
    rfl
  · rw [abs_signed, abs_of_nonneg nonneg]
    exact iff_of_false infinite (not_lt.2 great)

/-! ## Opposites -/

/-- A finite double has a canonical mantissa and exponent. -/
theorem canonical_of_unpack_bits {b : BitVec Format.binary64.numBits} {s : Sign} {m : Nat} {e : Int} {pos : 0 < m}
    (unpacked : UnpackedFloat.unpack Format.binary64 b = .finite s m e pos) : Canonical m e := by
  have range := inRange_unpack_bits b
  rw [unpacked] at range
  refine ⟨range.1, range.2.1, ?_⟩
  unfold UnpackedFloat.unpack at unpacked
  dsimp only at unpacked
  split_ifs at unpacked with _ _ least
  · refine .inl ?_
    have none : (0#11).toNat = 0 := rfl
    have bias : Format.binary64.exponentBias = 1023 := rfl
    rw [least, none, bias] at unpacked
    obtain ⟨-, -, rfl⟩ := UnpackedFloat.finite.inj unpacked
    rfl
  · refine .inr ?_
    obtain ⟨-, rfl, -⟩ := UnpackedFloat.finite.inj unpacked
    have rest := (unpackMantissa b).isLt
    rw [BitVec.toNat_append, ← Nat.shiftLeft_add_eq_or_of_lt rest]
    exact Nat.le_add_right (2 ^ 52) _

theorem unpack_neg (x : Float) : (-x).toModel.unpack = x.toModel.unpack.neg := by
  show (pack x.toModel.unpack.neg).unpack = x.toModel.unpack.neg
  have range := inRange_unpack x
  cases unpacked : x.toModel.unpack with
  | notANumber => rfl
  | infinity s => cases s <;> rfl
  | zero s => cases s <;> rfl
  | finite s m e pos =>
    rw [unpacked] at range
    show (pack (.finite (-s) m e pos)).unpack = .finite (-s) m e pos
    rw [unpack_pack_canonical (canonical_of_unpack_bits unpacked), if_pos range.2.2]

theorem rational_neg (a : UnpackedFloat) : rational a.neg = -rational a := by
  cases a with
  | finite s m e pos =>
    show ((-s).apply (m : ℤ) : ℤ) * (2 : ℚ) ^ e = -((s.apply (m : ℤ) : ℤ) * (2 : ℚ) ^ e)
    have opposite : (-s).apply (m : ℤ) = -s.apply (m : ℤ) := by
      cases s with
      | positive => rfl
      | negative => exact (neg_neg (m : ℤ)).symm
    rw [opposite]
    push_cast
    ring
  | _ => exact neg_zero.symm

theorem mantissa_neg (a : UnpackedFloat) : mantissa a.neg = mantissa a := by
  cases a <;> rfl

theorem isFinite_neg (x : Float) : (-x).isFinite = x.isFinite := by
  show (-x).toModel.unpack.isFinite = x.toModel.unpack.isFinite
  rw [unpack_neg]
  cases x.toModel.unpack <;> rfl

/-- The opposite of the nearest double is the one nearest to the opposite number. -/
theorem Nearest.neg {x : Float} {negative : Bool} {q : ℚ} (nearest : Nearest x negative q) :
    Nearest (-x) (!negative) (-q) := by
  have number := nearest.number
  have opposite (g : ℚ) : |g - -q| = |-g - q| := by
    rw [← abs_neg]
    ring_nf
  have distance : |rational (-x).toModel.unpack - -q| = |rational x.toModel.unpack - q| := by
    rw [unpack_neg, rational_neg, opposite, neg_neg]
  refine ⟨?_, ?_, ?_, ?_, ?_⟩
  · rw [unpack_neg, ← nearest.sign]
    change x.toModel.unpack.isNaN = false at number
    cases unpacked : x.toModel.unpack with
    | notANumber => simp [unpacked, UnpackedFloat.isNaN] at number
    | infinity s | zero s | finite s => cases s <;> rfl
  · show (-x).toModel.unpack.isNaN = false
    change x.toModel.unpack.isNaN = false at number
    rw [unpack_neg]
    revert number
    cases x.toModel.unpack <;> exact fun number => number
  · rw [isFinite_neg, abs_neg]
    exact nearest.finite_iff
  · intro finite y finite'
    rw [isFinite_neg] at finite
    rw [distance, opposite, ← rational_neg, ← unpack_neg]
    exact nearest.closest finite (-y) (by rwa [isFinite_neg])
  · intro finite y finite' tie other
    rw [isFinite_neg] at finite
    rw [distance, opposite, ← rational_neg, ← unpack_neg] at tie
    rw [unpack_neg, mantissa_neg]
    refine nearest.even finite (-y) (by rwa [isFinite_neg]) tie ?_
    intro same
    apply other
    rw [unpack_neg, rational_neg] at same ⊢
    linarith

/-! ## Scientific notation -/

section Scientific

variable {x : Float} {m : Nat}

/-- Digits with a great power of ten are too great for a double. -/
theorem overflow_le_scaled (pos : 0 < m) {e : Int} (high : 2 ^ 11 < e) : overflow ≤ m * 10 ^ e := by
  have one : (1 : ℚ) ≤ m := by exact_mod_cast pos
  calc overflow ≤ 2 ^ (1024 : ℤ) := overflow_le
    _ ≤ 2 ^ e := zpow_le_zpow_right₀ (by norm_num) (by omega)
    _ ≤ 10 ^ e := zpow_le_zpow_left₀ (by omega) (by norm_num) (by norm_num)
    _ ≤ m * 10 ^ e := le_mul_of_one_le_left (by positivity) one

/-- Digits with a small power of ten are nearer to zero than to any other double. -/
theorem scaled_lt (m : Nat) {e : Int} (low : e < -(2 ^ 11 + m.log2)) : (m : ℚ) * 10 ^ e < 2 ^ (-1075 : ℤ) := by
  have digits : (m : ℚ) < 2 ^ ((m.log2 : ℤ) + 1) := by
    have bits : m < 2 ^ (m.log2 + 1) := Nat.lt_log2_self
    exact_mod_cast bits
  obtain ⟨k, rfl⟩ : ∃ k : ℕ, e = -(k : ℤ) := ⟨(-e).toNat, by omega⟩
  have power : (10 : ℚ) ^ (-(k : ℤ)) ≤ 2 ^ (-(k : ℤ)) := by
    rw [zpow_neg, zpow_neg, zpow_natCast, zpow_natCast]
    exact inv_anti₀ (by positivity) (pow_le_pow_left₀ (by norm_num) (by norm_num) k)
  calc (m : ℚ) * 10 ^ (-(k : ℤ)) < 2 ^ ((m.log2 : ℤ) + 1) * 10 ^ (-(k : ℤ)) :=
        mul_lt_mul_of_pos_right digits (by positivity)
    _ ≤ 2 ^ ((m.log2 : ℤ) + 1) * 2 ^ (-(k : ℤ)) := mul_le_mul_of_nonneg_left power (two_zpow_pos _).le
    _ = 2 ^ ((m.log2 : ℤ) + 1 + -(k : ℤ)) := (two_zpow_add ..).symm
    _ ≤ 2 ^ (-1075 : ℤ) := zpow_le_zpow_right₀ (by norm_num) (by omega)

/-- Digits with a power of ten are read as the nearest double. -/
theorem nearest_ofScientific_model (e : Int) (read : x.toModel = Float.Model.ofScientific m e) :
    Nearest x false (m * 10 ^ e) := by
  have unpacked := congrArg Float.Model.unpack read
  unfold Float.Model.ofScientific UnpackedFloat.ofScientific at unpacked
  split_ifs at unpacked with zero high low nonneg
  · -- There are no digits but zeros.
    rw [zero, Nat.cast_zero, zero_mul]
    exact nearest_zero (s := .positive) le_rfl (two_zpow_pos _) unpacked
  · exact nearest_infinity (s := .positive) (by positivity) (overflow_le_scaled (Nat.pos_of_ne_zero zero) high) unpacked
  · exact nearest_zero (s := .positive) (by positivity) (scaled_lt m low) unpacked
  · obtain ⟨k, rfl⟩ := Int.eq_ofNat_of_zero_le nonneg
    have digits : 2 ^ 52 ≤ m <<< 53 := by
      rw [Nat.shiftLeft_eq]
      have pos : 0 < m := Nat.pos_of_ne_zero zero
      omega
    have nearest := nearest_mul _ _ digits unpacked
    have value : ((m <<< 53 : Nat) : ℚ) * 2 ^ (-53 : ℤ) * (((10 ^ k : Nat) : ℚ) * 2 ^ (0 : ℤ)) = m * 10 ^ (k : ℤ) := by
      have unit : (2 : ℚ) ^ (-53 : ℤ) = 1 / 2 ^ 53 := by
        rw [zpow_neg, inv_eq_one_div]
        rfl
      rw [Nat.shiftLeft_eq, unit, zpow_zero, zpow_natCast]
      push_cast
      ring
    exact value ▸ nearest
  · obtain ⟨k, rfl⟩ : ∃ k : ℕ, e = -(k : ℤ) := ⟨(-e).toNat, by omega⟩
    have nearest := nearest_div _ _ unpacked
    have amount : (-(-(k : ℤ))).toNat = k := by omega
    have value : (m : ℚ) * 2 ^ (0 : ℤ) / (((10 ^ (-(-(k : ℤ))).toNat : Nat) : ℚ) * 2 ^ (0 : ℤ)) =
        m * 10 ^ (-(k : ℤ)) := by
      rw [amount, zpow_zero, mul_one, mul_one, zpow_neg, zpow_natCast]
      push_cast
      rfl
    exact value ▸ nearest

/-- A whole number of at most 53 digits is rounded to itself, shifted so that it has all 53 digits. -/
theorem round_of_lt {n : Nat} (s : Sign) (pos : 0 < n) (below : n < 2 ^ 53) :
    ∃ m k : Nat, ∃ pos' : 0 < m, UnpackedFloat.round Format.binary64 s n 0 = .finite s m (-(k : ℤ)) pos' ∧
      2 ^ 52 ≤ m ∧ Canonical m (-(k : ℤ)) ∧ m = n * 2 ^ k := by
  have bits : n.log2 ≤ 52 := log2_le_of_lt below
  obtain ⟨k, shift⟩ : ∃ k : ℕ, n.log2 + k = 52 := ⟨52 - n.log2, by omega⟩
  have target : Format.binary64.targetExponent (totalExponent n 0) = -(k : ℤ) := by
    rw [targetExponent_eq]
    omega
  have amount : (0 - -(k : ℤ)).toNat = k := by omega
  have most : n * 2 ^ k < 2 ^ 53 :=
    calc n * 2 ^ k < 2 ^ (n.log2 + 1) * 2 ^ k := Nat.mul_lt_mul_of_pos_right Nat.lt_log2_self (Nat.two_pow_pos k)
      _ = 2 ^ 53 := by
        rw [← Nat.pow_add]
        congr 1
        omega
  have digits : 2 ^ 52 ≤ n * 2 ^ k :=
    calc 2 ^ 52 = 2 ^ n.log2 * 2 ^ k := by rw [← Nat.pow_add, shift]
      _ ≤ n * 2 ^ k := Nat.mul_le_mul_right _ (Nat.log2_self_le pos.ne')
  have least : -1074 ≤ -(k : ℤ) := by omega
  have pos' : 0 < n * 2 ^ k := by omega
  refine ⟨n * 2 ^ k, k, pos', ?_, digits, ⟨most, least, .inr digits⟩, rfl⟩
  have exact : (ExtendedMantissa.mk (n * 2 ^ k) false false).roundedMantissa = n * 2 ^ k := rfl
  unfold UnpackedFloat.round decreaseExponent
  dsimp only
  rw [target, amount, zero_sub, Nat.shiftLeft_eq]
  unfold roundWithAccuracy
  rw [shiftToTargetExponent_of_lt most least]
  dsimp only
  rw [exact, shiftToTargetExponent_of_lt most least]
  dsimp only
  rw [dif_neg pos'.ne']

/-- A whole number of at most 53 digits as a double. -/
theorem unpack_toFloat {n : Nat} (pos : 0 < n) (below : n < 2 ^ 53) :
    ∃ m e pos', n.toUInt64.toFloat.toModel.unpack = .finite .positive m e pos' ∧ 2 ^ 52 ≤ m ∧ (m : ℚ) * 2 ^ e = n := by
  obtain ⟨m, k, pos', rounded, digits, canonical, rfl⟩ := round_of_lt .positive pos below
  refine ⟨_, -(k : ℤ), pos', ?_, digits, ?_⟩
  · have same : n.toUInt64.toNat = n := Nat.mod_eq_of_lt (by omega)
    have positive : compare (n : ℤ) 0 = .gt := Int.compare_eq_gt.2 (by omega)
    show (pack (UnpackedFloat.normalize Format.binary64 (n.toUInt64.toNat : ℤ) 0 .positive)).unpack = _
    unfold UnpackedFloat.normalize
    rw [same, positive]
    dsimp only
    rw [Int.toNat_natCast, rounded, unpack_pack_canonical canonical, if_pos (by omega)]
  · rw [zpow_neg, zpow_natCast]
    push_cast
    field_simp

/-- The powers of ten up to the twenty-second are doubles. -/
theorem rational_powerOfTen : ∀ i : Fin Float.exactlyRepresentablePowersOfTen.size,
    rational Float.exactlyRepresentablePowersOfTen[i].toModel.unpack = 10 ^ i.val := by
  decide +kernel

theorem unpack_powerOfTen {k : Nat} (range : k < Float.exactlyRepresentablePowersOfTen.size) :
    ∃ m e pos, Float.exactlyRepresentablePowersOfTen[k].toModel.unpack = .finite .positive m e pos ∧
      (m : ℚ) * 2 ^ e = 10 ^ k := by
  have value : rational Float.exactlyRepresentablePowersOfTen[k].toModel.unpack = 10 ^ k :=
    rational_powerOfTen ⟨k, range⟩
  have pos : (0 : ℚ) < 10 ^ k := by positivity
  generalize Float.exactlyRepresentablePowersOfTen[k].toModel.unpack = a at value
  cases a with
  | notANumber | infinity | zero => exact absurd value pos.ne
  | finite s m e pos' =>
    cases s with
    | positive => exact ⟨m, e, pos', rfl, value⟩
    | negative =>
      have negative : rational (.finite .negative m e pos') ≤ 0 := by
        have size : (0 : ℚ) ≤ m * 2 ^ e := mul_nonneg (Nat.cast_nonneg m) (two_zpow_pos e).le
        simp only [rational, Sign.apply]
        push_cast
        linarith
      linarith

theorem unpack_pack_zero : (pack (.zero .positive)).unpack = .zero .positive := rfl

section Exact

variable {y : Float} {r : ℚ} {d : Nat} {f : Int} {pos : 0 < d}

/-- A whole number of at most 53 digits by an exact double. -/
theorem nearest_toFloat_div (small : m < 2 ^ 53) (unpacked : y.toModel.unpack = .finite .positive d f pos)
    (value : (d : ℚ) * 2 ^ f = r) : Nearest (m.toUInt64.toFloat / y) false (m / r) := by
  have quotient : (m.toUInt64.toFloat / y).toModel.unpack =
      (pack (UnpackedFloat.div Format.binary64 m.toUInt64.toFloat.toModel.unpack y.toModel.unpack)).unpack := rfl
  rw [unpacked] at quotient
  rcases Nat.eq_zero_or_pos m with rfl | pos'
  · rw [Nat.cast_zero, zero_div]
    exact nearest_zero (s := .positive) le_rfl (two_zpow_pos _) (quotient.trans unpack_pack_zero)
  · obtain ⟨n, e, large, unpacked', -, equal⟩ := unpack_toFloat pos' small
    rw [unpacked'] at quotient
    have nearest := nearest_div large pos quotient
    rw [equal, value] at nearest
    exact nearest

/-- A whole number of at most 53 digits times an exact double. -/
theorem nearest_toFloat_mul (small : m < 2 ^ 53) (unpacked : y.toModel.unpack = .finite .positive d f pos)
    (value : (d : ℚ) * 2 ^ f = r) : Nearest (m.toUInt64.toFloat * y) false (m * r) := by
  have product : (m.toUInt64.toFloat * y).toModel.unpack =
      (pack (UnpackedFloat.mul Format.binary64 m.toUInt64.toFloat.toModel.unpack y.toModel.unpack)).unpack := rfl
  rw [unpacked] at product
  rcases Nat.eq_zero_or_pos m with rfl | pos'
  · rw [Nat.cast_zero, zero_mul]
    exact nearest_zero (s := .positive) le_rfl (two_zpow_pos _) (product.trans unpack_pack_zero)
  · obtain ⟨n, e, large, unpacked', digits, equal⟩ := unpack_toFloat pos' small
    rw [unpacked'] at product
    have nearest := nearest_mul large pos digits product
    rw [equal, value] at nearest
    exact nearest

end Exact

/-- Digits that are scaled by a power of ten are read as the nearest double. -/
theorem nearest_ofScientific (m : Nat) (down : Bool) (k : Nat) :
    Nearest (Float.ofScientific m down k) false (m * 10 ^ (if down then -(k : ℤ) else k)) := by
  have size : Float.exactlyRepresentablePowersOfTen.size = 23 := rfl
  unfold Float.ofScientific
  split_ifs with small lower lower
  · obtain ⟨d, f, pos, unpacked, value⟩ := unpack_powerOfTen (k := k) (by omega)
    have quotient := nearest_toFloat_div small.1 unpacked value
    rw [zpow_neg, zpow_natCast]
    exact quotient
  · obtain ⟨d, f, pos, unpacked, value⟩ := unpack_powerOfTen (k := k) (by omega)
    rw [zpow_natCast]
    exact nearest_toFloat_mul small.1 unpacked value
  · refine nearest_ofScientific_model (-(k : ℤ)) ?_
    have power : Int.negOfNat k = -(k : ℤ) := Int.negOfNat_eq
    rw [power]
  · exact nearest_ofScientific_model (k : ℤ) rfl

end Scientific

end ResolverWatch.Double
