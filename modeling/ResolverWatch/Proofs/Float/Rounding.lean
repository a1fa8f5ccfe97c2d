import ResolverWatch.Proofs.Float.Difference
import ResolverWatch.Proofs.Float.Grid

/-!
# Rounding to the nearest double

What the steps of rounding give is packed as it is, or as an infinity if its exponent is too great
(`unpack_pack_carried`). So a number is rounded to the nearest double (`nearest_of_round`): no finite double is closer
to it, of two that are as close the even one is taken, and the numbers from half a unit above the greatest double on are
infinite.
-/

namespace ResolverWatch.Double

open Float.Model UnpackedFloat

/-! ## The steps of rounding -/

/-- A rounded mantissa and its exponent as a double; one more than the greatest mantissa carries over. -/
def carried (s : Sign) (n : Nat) (t : Int) : UnpackedFloat :=
  if h : n = 0 then .zero s
  else if n < 2 ^ 53 then .finite s n t (Nat.pos_of_ne_zero h)
  else .finite s (2 ^ 52) (t + 1) (by decide)

theorem binary64_minExponent : Format.binary64.minExponent = -1074 := rfl

theorem binary64_mantissaBits : Format.binary64.mantissaBits = 53 := rfl

theorem targetExponent_eq (m : Nat) (e : Int) :
    Format.binary64.targetExponent (totalExponent m e) = max (m.log2 + e - 52) (-1074) := by
  unfold Format.targetExponent totalExponent
  rw [binary64_minExponent, binary64_mantissaBits]
  congr 1
  push_cast
  ring

theorem log2_le_of_lt {m n : Nat} (below : m < 2 ^ (n + 1)) : m.log2 ≤ n := by
  rcases Nat.eq_zero_or_pos m with rfl | pos
  · simp
  · exact Nat.le_of_lt_succ ((Nat.log2_lt (by omega)).2 below)

/-- A mantissa of at most 53 bits is not shifted. -/
theorem shiftToTargetExponent_of_lt {m : Nat} {e : Int} (below : m < 2 ^ 53) (least : -1074 ≤ e) :
    shiftToTargetExponent Format.binary64 m e .exact = (⟨m, false, false⟩, e) := by
  have bits : m.log2 ≤ 52 := log2_le_of_lt below
  have none : (Format.binary64.targetExponent (totalExponent m e) - e).toNat = 0 := by
    rw [targetExponent_eq]
    omega
  unfold shiftToTargetExponent shiftToExponent
  dsimp only
  rw [none]
  simp [HShiftRight.hShiftRight, Nat.repeat, ExtendedMantissa.ofMantissaAndAccuracy]

theorem shiftToTargetExponent_carry {e : Int} (least : -1074 ≤ e) :
    shiftToTargetExponent Format.binary64 (2 ^ 53) e .exact = (⟨2 ^ 52, false, false⟩, e + 1) := by
  have one : (Format.binary64.targetExponent (totalExponent (2 ^ 53) e) - e).toNat = 1 := by
    rw [targetExponent_eq, Nat.log2_two_pow]
    omega
  unfold shiftToTargetExponent shiftToExponent
  dsimp only
  rw [one]
  rfl

/-- The number in units of `2 ^ t` has at most 53 digits, and 53 if smaller units are left. -/
structure Normalized (q : ℚ) (t : ℤ) : Prop where
  least : -1074 ≤ t
  below : q < 2 ^ (53 + t)
  digits : t = -1074 ∨ (2 : ℚ) ^ (52 + t) ≤ q

theorem Normalized.mantissa_le {q : ℚ} {t : ℤ} {n : Nat} (normal : Normalized q t)
    (nearest : NearestEven n (q / 2 ^ t)) : n ≤ 2 ^ 53 := by
  have below : q / 2 ^ t < 2 ^ 53 := by
    rw [div_lt_iff₀ (two_zpow_pos t)]
    have := normal.below
    rw [two_zpow_add] at this
    exact_mod_cast this
  have close := (abs_le.1 nearest.1).2
  have less : (n : ℚ) < ((2 ^ 53 + 1 : Nat) : ℚ) := by
    push_cast
    linarith
  exact Nat.lt_succ_iff.1 (by exact_mod_cast less)

theorem Normalized.le_mantissa {q : ℚ} {t : ℤ} {n : Nat} (normal : Normalized q t)
    (nearest : NearestEven n (q / 2 ^ t)) : t = -1074 ∨ 2 ^ 52 ≤ n := by
  rcases normal.digits with lowest | digits
  · exact .inl lowest
  · refine .inr ?_
    have above : (2 : ℚ) ^ 52 ≤ q / 2 ^ t := by
      rw [le_div_iff₀ (two_zpow_pos t)]
      rw [two_zpow_add] at digits
      exact_mod_cast digits
    have close := (abs_le.1 nearest.1).1
    have less : ((2 ^ 52 : Nat) : ℚ) < ((n + 1 : Nat) : ℚ) := by
      push_cast
      linarith
    exact Nat.lt_succ_iff.1 (by exact_mod_cast less)

/-- The units that a mantissa is shifted to are those in which its number has 53 digits. -/
theorem normalized_targetExponent {m : Nat} {e : Int} {x : ℚ} (enough : 52 ≤ m.log2 ∨ e ≤ -1074)
    (least : (m : ℚ) ≤ x) (most : x < m + 1) : Normalized (x * 2 ^ e) (max (m.log2 + e - 52) (-1074)) where
  least := le_max_right _ _
  below := by
    have bits : m + 1 ≤ 2 ^ (m.log2 + 1) := Nat.lt_log2_self
    have below : x < 2 ^ ((m.log2 : ℤ) + 1) := by
      refine most.trans_le ?_
      exact_mod_cast bits
    calc x * 2 ^ e < 2 ^ ((m.log2 : ℤ) + 1) * 2 ^ e := mul_lt_mul_of_pos_right below (two_zpow_pos e)
      _ = 2 ^ ((m.log2 : ℤ) + 1 + e) := (two_zpow_add ..).symm
      _ ≤ 2 ^ (53 + max ((m.log2 : ℤ) + e - 52) (-1074)) := zpow_le_zpow_right₀ (by norm_num) (by omega)
  digits := by
    rcases le_total ((m.log2 : ℤ) + e - 52) (-1074) with low | high
    · exact .inl (max_eq_right low)
    · refine .inr ?_
      rw [max_eq_left high]
      have nonzero : m ≠ 0 := by
        rintro rfl
        rw [Nat.log2_zero] at enough high
        omega
      have bits : 2 ^ m.log2 ≤ m := Nat.log2_self_le nonzero
      have above : (2 : ℚ) ^ (m.log2 : ℤ) ≤ x := by
        refine le_trans ?_ least
        exact_mod_cast bits
      have exponent : 52 + ((m.log2 : ℤ) + e - 52) = m.log2 + e := by ring
      rw [exponent, two_zpow_add]
      exact mul_le_mul_of_nonneg_right above (two_zpow_pos e).le

theorem Marks.bounds {em : ExtendedMantissa} {x : ℚ} (marks : Marks em x) :
    (em.mantissa : ℚ) ≤ x ∧ x < em.mantissa + 1 := by
  obtain ⟨m, round, sticky⟩ := em
  cases round <;> cases sticky <;> simp only [Marks] at marks ⊢ <;> constructor <;> linarith

theorem mantissa_ofMantissaAndAccuracy (m : Nat) (a : Accuracy) :
    (ExtendedMantissa.ofMantissaAndAccuracy m a).mantissa = m := by
  cases a with
  | exact => rfl
  | inexact o => cases o <;> rfl

/-- Once shifted, a mantissa is rounded and shifted again, which only does something if it is one too great. -/
theorem roundWithAccuracy_eq_carried {s : Sign} {m : Nat} {e t : Int} {a : Accuracy} {em : ExtendedMantissa}
    (first : shiftToTargetExponent Format.binary64 m e a = (em, t)) (most : em.roundedMantissa ≤ 2 ^ 53)
    (least : -1074 ≤ t) : roundWithAccuracy Format.binary64 s m e a = carried s em.roundedMantissa t := by
  unfold roundWithAccuracy
  rw [first]
  dsimp only
  generalize em.roundedMantissa = n at most
  unfold carried
  rcases Nat.lt_or_eq_of_le most with below | rfl
  · rw [shiftToTargetExponent_of_lt below least]
    simp only [below, if_true]
  · rw [shiftToTargetExponent_carry least]
    rfl

/-- Rounding a number that is told of by a mantissa with residual bits gives the nearest multiple of the unit in which
it has 53 digits. The mantissa must not have fewer digits, for none can be added to it. -/
theorem exists_carried_of_round {s : Sign} {m : Nat} {e : Int} {a : Accuracy} {x : ℚ}
    (marks : Marks (ExtendedMantissa.ofMantissaAndAccuracy m a) x) (enough : 52 ≤ m.log2 ∨ e ≤ -1074) :
    ∃ n t, roundWithAccuracy Format.binary64 s m e a = carried s n t ∧ Normalized (x * 2 ^ e) t ∧
      NearestEven n (x * 2 ^ e / 2 ^ t) := by
  have bounds := marks.bounds
  rw [mantissa_ofMantissaAndAccuracy] at bounds
  have normal := normalized_targetExponent enough bounds.1 bounds.2
  rw [← targetExponent_eq] at normal
  generalize target : Format.binary64.targetExponent (totalExponent m e) = t at normal
  -- The mantissa has enough digits, so it is only ever shifted to the right.
  have right : e ≤ t := by
    rw [← target, targetExponent_eq]
    omega
  obtain ⟨k, rfl⟩ : ∃ k : ℕ, t = e + k := ⟨(t - e).toNat, by omega⟩
  have units : x * 2 ^ e / 2 ^ (e + (k : ℤ)) = x / 2 ^ k := by
    have pos := two_zpow_pos e
    rw [two_zpow_add, zpow_natCast]
    field_simp
  have amount : (e + (k : ℤ) - e).toNat = k := by omega
  have nearest := (marks.shiftRight k).nearestEven
  rw [← units] at nearest
  have first : shiftToTargetExponent Format.binary64 m e a =
      (ExtendedMantissa.ofMantissaAndAccuracy m a >>> k, e + (k : ℤ)) := by
    unfold shiftToTargetExponent shiftToExponent
    rw [target]
    dsimp only
    rw [amount]
  exact ⟨_, e + k, roundWithAccuracy_eq_carried first (normal.mantissa_le nearest) normal.least, normal, nearest⟩

/-! ## Packing -/

section Unpack

variable {b : BitVec Format.binary64.numBits}

/-- What is packed without an implicit bit has the least exponent. -/
theorem unpack_of_subnormal {m : Nat} (exponent : unpackExponent b = 0#11) (mantissa : (unpackMantissa b).toNat = m)
    (pos : 0 < m) :
    UnpackedFloat.unpack Format.binary64 b = .finite (Sign.ofBitVec (unpackSign b)) m (-1074) pos := by
  subst mantissa
  have nonzero : unpackMantissa b ≠ 0#52 := by
    intro zero
    rw [zero] at pos
    exact absurd pos (by decide)
  have none : (0#11).toNat = 0 := rfl
  have bias : Format.binary64.exponentBias = 1023 := rfl
  unfold UnpackedFloat.unpack
  dsimp only
  rw [if_neg (by rw [exponent]; decide), if_pos exponent, dif_neg nonzero, exponent, none, bias]
  rfl

theorem unpack_of_normal {m : Nat} {e : Int} (exponent : ((unpackExponent b).toNat : Int) = e + 1075)
    (range : -1074 ≤ e ∧ e ≤ 971) (mantissa : (1#1 ++ unpackMantissa b).toNat = m) (pos : 0 < m) :
    UnpackedFloat.unpack Format.binary64 b = .finite (Sign.ofBitVec (unpackSign b)) m e pos := by
  subst mantissa
  have greatest : unpackExponent b ≠ -1#11 := by
    intro same
    rw [same] at exponent
    have last : (-1#11).toNat = 2047 := rfl
    omega
  have nonzero : unpackExponent b ≠ 0#11 := by
    intro same
    rw [same] at exponent
    have first : (0#11).toNat = 0 := rfl
    omega
  have bias : Format.binary64.exponentBias = 1023 := rfl
  unfold UnpackedFloat.unpack
  dsimp only
  rw [if_neg greatest, if_neg nonzero, exponent, bias]
  congr 1
  omega

end Unpack

/-- A mantissa and an exponent that a finite double has, unless the exponent is too great. -/
structure Canonical (m : Nat) (e : Int) : Prop where
  below : m < 2 ^ 53
  least : -1074 ≤ e
  digits : e = -1074 ∨ 2 ^ 52 ≤ m

/-- The bits of a finite double, whose exponent is that of its last digit, and the bias larger. -/
theorem pack_canonical {m : Nat} {e : Int} (canonical : Canonical m e) (most : e ≤ 971) (s : Sign) (pos : 0 < m) :
    UnpackedFloat.pack Format.binary64 (.finite s m e pos) =
      packComponents Format.binary64 s (if 2 ^ 52 ≤ m then BitVec.ofNat 11 (e + 1075).toNat else 0#11)
        (BitVec.ofNat 52 m) := by
  obtain ⟨below, least, -⟩ := canonical
  have bias : Format.binary64.exponentBias = 1023 := rfl
  have biased : e + ((1023 : Nat) : ℤ) + ((52 : Nat) : ℤ) = e + 1075 := by omega
  unfold UnpackedFloat.pack
  dsimp only
  rw [bias, binary64_mantissaBits, biased, if_neg (by omega)]
  by_cases normal : 2 ^ 52 ≤ m
  · have full : m.log2 + 1 = 53 := by
      have bits : m.log2 = 52 := (Nat.log2_eq_iff (by omega)).2 ⟨normal, below⟩
      omega
    rw [if_pos full, if_pos normal]
  · have few : m.log2 + 1 ≠ 53 := by
      have bits : m.log2 < 52 := (Nat.log2_lt (by omega)).2 (by omega)
      omega
    rw [if_neg few, if_neg normal]

/-- Numbers with a canonical mantissa and exponent are packed as they are, or as infinities if the exponent is too
great. -/
theorem unpack_pack_canonical {m : Nat} {e : Int} (canonical : Canonical m e) (s : Sign) (pos : 0 < m) :
    (pack (.finite s m e pos)).unpack = if e ≤ 971 then .finite s m e pos else .infinity s := by
  obtain ⟨below, least, digits⟩ := canonical
  show UnpackedFloat.unpack Format.binary64 (UnpackedFloat.pack Format.binary64 (.finite s m e pos)) = _
  by_cases most : e ≤ 971
  · rw [if_pos most, pack_canonical ⟨below, least, digits⟩ most]
    by_cases normal : 2 ^ 52 ≤ m
    · rw [if_pos normal]
      rw [unpack_of_normal (m := m) (e := e) ?exponent ⟨least, most⟩ ?mantissa pos, unpackSign_packComponents,
        Sign.ofBitVec_toBitVec]
      case exponent =>
        have range : (e + 1075).toNat < 2 ^ 11 := by omega
        rw [unpackExponent_packComponents, BitVec.toNat_ofNat, Nat.mod_eq_of_lt range]
        omega
      case mantissa =>
        rw [unpackMantissa_packComponents, BitVec.toNat_append, BitVec.toNat_ofNat, BitVec.toNat_ofNat]
        have rest : m % 2 ^ 52 < 2 ^ 52 := Nat.mod_lt _ (Nat.two_pow_pos 52)
        show (1 % 2 ^ 1) <<< 52 ||| m % 2 ^ 52 = m
        rw [← Nat.shiftLeft_add_eq_or_of_lt rest]
        omega
    · obtain rfl : e = -1074 := digits.resolve_right normal
      rw [if_neg normal, unpack_of_subnormal (m := m) ?exponent ?mantissa pos, unpackSign_packComponents,
        Sign.ofBitVec_toBitVec]
      case exponent => rw [unpackExponent_packComponents]
      case mantissa =>
        rw [unpackMantissa_packComponents, BitVec.toNat_ofNat]
        exact Nat.mod_eq_of_lt (Nat.lt_of_not_le normal)
  · have bias : Format.binary64.exponentBias = 1023 := rfl
    unfold UnpackedFloat.pack
    dsimp only
    rw [bias, if_neg most, if_pos (by omega), ← unpack_pack_infinity]
    rfl

theorem canonical_carried {q : ℚ} {t : ℤ} {n : Nat} (normal : Normalized q t) (nearest : NearestEven n (q / 2 ^ t))
    (below : n < 2 ^ 53) : Canonical n t :=
  ⟨below, normal.least, normal.le_mantissa nearest⟩

/-- An infinity in the place of a number that is too great for a double. -/
def bounded : UnpackedFloat → UnpackedFloat
  | .finite s m e pos => if e ≤ 971 then .finite s m e pos else .infinity s
  | a => a

theorem unpack_pack_carried {q : ℚ} {t : ℤ} {n : Nat} (normal : Normalized q t) (nearest : NearestEven n (q / 2 ^ t))
    (s : Sign) : (pack (carried s n t)).unpack = bounded (carried s n t) := by
  have least := normal.least
  unfold carried
  split_ifs with zero below
  · cases s <;> rfl
  · exact unpack_pack_canonical (canonical_carried normal nearest below) s (Nat.pos_of_ne_zero zero)
  · exact unpack_pack_canonical ⟨by decide, by omega, .inr le_rfl⟩ s (by decide)

/-! ## The nearest double -/

/-- The number that a finite double is. -/
def rational : UnpackedFloat → ℚ
  | .finite s m e _ => (s.apply m : ℤ) * 2 ^ e
  | _ => 0

/-- The sign bit. -/
def isNegative : UnpackedFloat → Bool
  | .infinity s | .zero s | .finite s _ _ _ => s == .negative
  | .notANumber => false

/-- The mantissa, whose last digit tells the even doubles from the odd ones. -/
def mantissa : UnpackedFloat → Nat
  | .finite _ m _ _ => m
  | _ => 0

/-- Numbers of this size and above are too great for a finite double: it is half a unit above the greatest. -/
def overflow : ℚ :=
  (2 ^ 54 - 1) * 2 ^ (970 : ℤ)

/-- The double that is nearest to a number: no finite double is closer, of two that are as close it is the even one,
and it is infinite if the number is too great. The sign of a zero is given apart. -/
structure Nearest (x : Float) (negative : Bool) (q : ℚ) : Prop where
  sign : isNegative x.toModel.unpack = negative
  number : x.isNaN = false
  finite_iff : x.isFinite = true ↔ |q| < overflow
  closest : x.isFinite = true → ∀ y : Float, y.isFinite = true →
    |rational x.toModel.unpack - q| ≤ |rational y.toModel.unpack - q|
  even : x.isFinite = true → ∀ y : Float, y.isFinite = true →
    |rational y.toModel.unpack - q| = |rational x.toModel.unpack - q| →
    rational y.toModel.unpack ≠ rational x.toModel.unpack → Even (mantissa x.toModel.unpack)

/-- A number with a sign. -/
def signed : Sign → ℚ → ℚ
  | .positive, q => q
  | .negative, q => -q

theorem abs_signed (s : Sign) (q : ℚ) : |signed s q| = |q| := by
  cases s with
  | positive => rfl
  | negative => exact abs_neg q

theorem abs_signed_sub (s : Sign) (a q : ℚ) : |signed s a - signed s q| = |a - q| := by
  cases s with
  | positive => rfl
  | negative =>
    show |-a - -q| = _
    rw [neg_sub_neg, abs_sub_comm]

theorem signed_signed (s : Sign) (q : ℚ) : signed s (signed s q) = q := by
  cases s with
  | positive => rfl
  | negative => exact neg_neg q

theorem OnGrid.signed {g : ℚ} (onGrid : OnGrid g) (s : Sign) : OnGrid (signed s g) := by
  cases s with
  | positive => exact onGrid
  | negative =>
    obtain ⟨k, e, small, least, rfl⟩ := onGrid
    refine ⟨-k, e, by rwa [abs_neg], least, ?_⟩
    show -((k : ℚ) * 2 ^ e) = ((-k : ℤ) : ℚ) * 2 ^ e
    push_cast
    ring

theorem onGrid_rational {a : UnpackedFloat} (range : InRange a) : OnGrid (rational a) := by
  have zero : OnGrid 0 := ⟨0, 0, by norm_num, by norm_num, by norm_num⟩
  cases a with
  | notANumber | infinity | zero => exact zero
  | finite s m e pos =>
    obtain ⟨digits, least, -⟩ := range
    refine ⟨s.apply m, e, ?_, least, rfl⟩
    have size : |s.apply (m : ℤ)| = m := by
      cases s with
      | positive => exact abs_of_nonneg (Int.natCast_nonneg m)
      | negative => exact (abs_neg _).trans (abs_of_nonneg (Int.natCast_nonneg m))
    rw [size]
    exact_mod_cast digits

theorem rational_finite (s : Sign) (m : Nat) (e : Int) (pos : 0 < m) :
    rational (.finite s m e pos) = signed s (m * 2 ^ e) := by
  cases s <;> simp [rational, signed, Sign.apply]

theorem rational_carried (s : Sign) {n : Nat} (le : n ≤ 2 ^ 53) (t : ℤ) :
    rational (carried s n t) = signed s (n * 2 ^ t) := by
  unfold carried
  split_ifs with zero below
  · rw [zero]
    cases s <;> simp [rational, signed]
  · exact rational_finite ..
  · obtain rfl : n = 2 ^ 53 := by omega
    have carry : (2 : ℚ) ^ (t + 1) = 2 ^ t * 2 := by
      rw [two_zpow_add, zpow_one]
    cases s <;> simp only [rational, signed, Sign.apply, carry] <;> push_cast <;> ring

theorem even_mantissa_carried (s : Sign) {n : Nat} (even : Even n) (t : ℤ) : Even (mantissa (carried s n t)) := by
  unfold carried
  split_ifs
  · exact Even.zero
  · exact even
  · exact ⟨2 ^ 51, by norm_num [mantissa]⟩

theorem bounded_carried_cases (s : Sign) (n : Nat) (t : ℤ) :
    bounded (carried s n t) = .zero s ∨ bounded (carried s n t) = .infinity s ∨
      ∃ m e pos, bounded (carried s n t) = .finite s m e pos := by
  have number (m : Nat) (e : ℤ) (pos : 0 < m) : bounded (.finite s m e pos) = .infinity s ∨
      ∃ m' e' pos', bounded (.finite s m e pos) = .finite s m' e' pos' := by
    by_cases range : e ≤ 971
    · exact .inr ⟨m, e, pos, if_pos range⟩
    · exact .inl (if_neg range)
  unfold carried
  split_ifs
  · exact .inl rfl
  · exact .inr (number ..)
  · exact .inr (number ..)

/-- Rounding keeps the sign, and its result is a number. -/
theorem isNegative_bounded_carried (s : Sign) (n : Nat) (t : ℤ) :
    isNegative (bounded (carried s n t)) = (s == .negative) ∧ (bounded (carried s n t)).isNaN = false := by
  rcases bounded_carried_cases s n t with zero | infinite | ⟨m, e, pos, finite⟩
  · rw [zero]
    exact ⟨rfl, rfl⟩
  · rw [infinite]
    exact ⟨rfl, rfl⟩
  · rw [finite]
    exact ⟨rfl, rfl⟩

theorem bounded_of_isFinite {a : UnpackedFloat} (finite : (bounded a).isFinite = true) : bounded a = a := by
  cases a with
  | finite s m e pos =>
    unfold bounded at finite ⊢
    dsimp only at finite ⊢
    split_ifs at finite ⊢
    · rfl
    · contradiction
  | _ => rfl

theorem isFinite_bounded_carried_iff (s : Sign) (n : Nat) (t : ℤ) :
    (bounded (carried s n t)).isFinite = true ↔ n = 0 ∨ (n < 2 ^ 53 ∧ t ≤ 971) ∨ t ≤ 970 := by
  have number (m : Nat) (e : ℤ) (pos : 0 < m) : (bounded (.finite s m e pos)).isFinite = true ↔ e ≤ 971 := by
    unfold bounded
    dsimp only
    split_ifs with range
    · exact iff_of_true rfl range
    · exact iff_of_false Bool.false_ne_true range
  unfold carried
  split_ifs with zero below
  · exact iff_of_true rfl (.inl zero)
  · rw [number]
    omega
  · rw [number]
    omega

section Carried

variable {q : ℚ} {t : ℤ} {n : Nat}

theorem overflow_le : overflow ≤ 2 ^ (1024 : ℤ) := by
  have power : (2 : ℚ) ^ (1024 : ℤ) = 2 ^ 54 * 2 ^ (970 : ℤ) := two_zpow_add 54 970
  rw [power]
  exact mul_le_mul_of_nonneg_right (by norm_num) (two_zpow_pos 970).le

theorem lt_overflow : 2 ^ (1023 : ℤ) < overflow := by
  have power : (2 : ℚ) ^ (1023 : ℤ) = 2 ^ 53 * 2 ^ (970 : ℤ) := two_zpow_add 53 970
  rw [power]
  exact mul_lt_mul_of_pos_right (by norm_num) (two_zpow_pos 970)

theorem overflow_eq : overflow = (2 ^ 53 - 1 / 2) * 2 ^ (971 : ℤ) := by
  have power : (2 : ℚ) ^ (971 : ℤ) = 2 * 2 ^ (970 : ℤ) := two_zpow_add 1 970
  unfold overflow
  rw [power]
  ring

/-- A number is rounded below an even one iff it lies below the middle between that and the one before. -/
theorem NearestEven.lt_iff {x : ℚ} {m : Nat} (nearest : NearestEven n x) (even : Even m) :
    n < m ↔ x < (m : ℚ) - 1 / 2 := by
  obtain ⟨close, tie⟩ := nearest
  have bounds := abs_le.1 close
  have cast : n < m ↔ (n : ℚ) + 1 ≤ m := by
    have whole : n < m ↔ n + 1 ≤ m := Iff.rfl
    rw [whole]
    exact_mod_cast Iff.rfl
  constructor
  · intro below
    have less := cast.1 below
    apply lt_of_le_of_ne (by linarith)
    intro middle
    have next : (n : ℚ) + 1 = m := le_antisymm less (by linarith)
    have half : |(n : ℚ) - x| = 1 / 2 := by
      rw [middle, ← next]
      ring_nf
      norm_num
    have odd : n + 1 = m := by exact_mod_cast next
    rw [← odd, Nat.even_add_one] at even
    exact even (tie half)
  · intro below
    have less : (n : ℚ) < (m : ℚ) := by linarith
    exact_mod_cast less

/-- A number is rounded to a finite double iff it lies below the middle between the greatest one and what would be the
next one. -/
theorem isFinite_bounded_iff (normal : Normalized q t) (nearest : NearestEven n (q / 2 ^ t)) (s : Sign) :
    (bounded (carried s n t)).isFinite = true ↔ q < overflow := by
  have most := normal.mantissa_le nearest
  rw [isFinite_bounded_carried_iff]
  rcases lt_trichotomy t 971 with low | rfl | high
  · refine iff_of_true (by omega) ?_
    calc q < 2 ^ (53 + t) := normal.below
      _ ≤ 2 ^ (1023 : ℤ) := zpow_le_zpow_right₀ (by norm_num) (by omega)
      _ < overflow := lt_overflow
  · have middle := nearest.lt_iff (m := 2 ^ 53) (by decide)
    rw [Nat.cast_pow, Nat.cast_ofNat] at middle
    rw [overflow_eq, ← div_lt_iff₀ (two_zpow_pos 971), ← middle]
    omega
  · have digits : 2 ^ 52 ≤ n := (normal.le_mantissa nearest).resolve_left (by omega)
    refine iff_of_false (by omega) (not_lt.2 ?_)
    calc overflow ≤ 2 ^ (1024 : ℤ) := overflow_le
      _ ≤ 2 ^ (52 + t) := zpow_le_zpow_right₀ (by norm_num) (by omega)
      _ ≤ q := normal.digits.resolve_left (by omega)

/-- What rounding gives, packed, is the nearest double. -/
theorem nearest_of_carried (nonneg : 0 ≤ q) (normal : Normalized q t) (nearest : NearestEven n (q / 2 ^ t)) {x : Float}
    {s : Sign} (rounded : x.toModel.unpack = (pack (carried s n t)).unpack) :
    Nearest x (s == .negative) (signed s q) := by
  rw [unpack_pack_carried normal nearest] at rounded
  have finite : x.isFinite = true ↔ q < overflow := by
    show x.toModel.unpack.isFinite = true ↔ _
    rw [rounded]
    exact isFinite_bounded_iff normal nearest s
  have exact (isFinite : x.isFinite = true) : x.toModel.unpack = carried s n t := by
    change x.toModel.unpack.isFinite = true at isFinite
    rw [rounded] at isFinite ⊢
    exact bounded_of_isFinite isFinite
  have most := normal.mantissa_le nearest
  have distance (g : ℚ) : |g - signed s q| = |signed s g - q| := by
    rw [← abs_signed_sub s, signed_signed]
  refine ⟨?_, ?_, ?_, ?_, ?_⟩
  · rw [rounded]
    exact (isNegative_bounded_carried s n t).1
  · show x.toModel.unpack.isNaN = false
    rw [rounded]
    exact (isNegative_bounded_carried s n t).2
  · rw [finite, abs_signed, abs_of_nonneg nonneg]
  · intro isFinite y _
    rw [exact isFinite, rational_carried s most, abs_signed_sub, distance]
    exact (nearest.closest_onGrid normal.digits ((onGrid_rational (inRange_unpack y)).signed s)).1
  · intro isFinite y _ tie other
    rw [exact isFinite, rational_carried s most] at tie other
    rw [exact isFinite]
    rw [abs_signed_sub, distance] at tie
    refine even_mantissa_carried s ?_ t
    refine (nearest.closest_onGrid normal.digits ((onGrid_rational (inRange_unpack y)).signed s)).2 tie ?_
    intro same
    apply other
    rw [← same, signed_signed]

end Carried

/-! ## Operations -/

/-- A number that is told of by a mantissa with residual bits is rounded to the nearest double. -/
theorem nearest_of_round {x : Float} {s : Sign} {m : Nat} {e : Int} {a : Accuracy} {r : ℚ}
    (marks : Marks (ExtendedMantissa.ofMantissaAndAccuracy m a) r) (enough : 52 ≤ m.log2 ∨ e ≤ -1074)
    (rounded : x.toModel.unpack = (pack (roundWithAccuracy Format.binary64 s m e a)).unpack) :
    Nearest x (s == .negative) (signed s (r * 2 ^ e)) := by
  obtain ⟨n, t, result, normal, nearest⟩ := exists_carried_of_round (s := s) marks enough
  rw [result] at rounded
  have nonneg : 0 ≤ r := by
    have least := marks.bounds.1
    exact (Nat.cast_nonneg _).trans least
  exact nearest_of_carried (mul_nonneg nonneg (two_zpow_pos e).le) normal nearest rounded

end ResolverWatch.Double
