import ResolverWatch.Proofs.Float.Order
import ResolverWatch.Proofs.Float.Sum

/-!
# Differences of doubles that are not negative

The difference of two finite doubles that are not negative is finite (`isFinite_sub`): it is at most as far from zero as
the farther of them, and rounding never leaves the range of the doubles for a number within it
(`exponent_le_of_round`). Sums of doubles that are not negative are not negative (`nonneg_add`).
-/

namespace ResolverWatch.Double

open Float.Model

/-! ## What doubles unpack to -/

/-- A finite number has a mantissa of at most 53 bits and an exponent from -1074 to 971. -/
def InRange : UnpackedFloat → Prop
  | .finite _ m e _ => m < 2 ^ 53 ∧ -1074 ≤ e ∧ e ≤ 971
  | _ => True

theorem inRange_unpack_bits (b : BitVec Format.binary64.numBits) :
    InRange (UnpackedFloat.unpack Format.binary64 b) := by
  unfold UnpackedFloat.unpack
  dsimp only
  have exponentBits := (UnpackedFloat.unpackExponent b).isLt
  have mantissaBits := (UnpackedFloat.unpackMantissa b).isLt
  have bias : Format.binary64.exponentBias = 1023 := rfl
  simp only at exponentBits mantissaBits
  split_ifs with greatest _ least zero
  · trivial
  · trivial
  · trivial
  · have none : (0#11).toNat = 0 := rfl
    unfold InRange
    rw [least, none, bias]
    omega
  · have mantissa := (1#1 ++ UnpackedFloat.unpackMantissa b).isLt
    have below : (UnpackedFloat.unpackExponent b).toNat ≠ 2047 := by
      intro same
      exact greatest (BitVec.eq_of_toNat_eq same)
    have above : (UnpackedFloat.unpackExponent b).toNat ≠ 0 := by
      intro same
      exact least (BitVec.eq_of_toNat_eq same)
    refine ⟨mantissa, ?_⟩
    rw [bias]
    omega

theorem inRange_unpack (x : Float) : InRange x.toModel.unpack :=
  inRange_unpack_bits _

/-! ## Rounding within the range -/

open UnpackedFloat

/-- Shifting to the right divides by a power of two, and leaves no residual bits if there is no rest. -/
theorem shift_spec (m n : Nat) :
    (ExtendedMantissa.ofMantissaAndAccuracy m .exact >>> n).mantissa = m / 2 ^ n ∧
      (2 ^ n ∣ m → ExtendedMantissa.ofMantissaAndAccuracy m .exact >>> n = ⟨m / 2 ^ n, false, false⟩) := by
  induction n with
  | zero => exact ⟨by simp; rfl, fun _ => by simp; rfl⟩
  | succ n ih =>
    obtain ⟨mantissa, exact⟩ := ih
    have step : ExtendedMantissa.ofMantissaAndAccuracy m .exact >>> (n + 1) =
        (ExtendedMantissa.ofMantissaAndAccuracy m .exact >>> n).shiftRightOne := rfl
    have half : m / 2 ^ n / 2 = m / 2 ^ (n + 1) := by rw [Nat.div_div_eq_div_mul, Nat.pow_succ]
    rw [step]
    refine ⟨?quotient, ?rest⟩
    case quotient =>
      show (ExtendedMantissa.ofMantissaAndAccuracy m .exact >>> n).mantissa / 2 = _
      rw [mantissa, half]
    case rest =>
      intro whole
      obtain ⟨k, rfl⟩ := whole
      have even : 2 ^ (n + 1) * k / 2 ^ n = 2 * k := by
        rw [Nat.pow_succ, Nat.mul_assoc, Nat.mul_div_cancel_left _ (Nat.two_pow_pos n)]
      rw [exact (Dvd.dvd.mul_right (Nat.pow_dvd_pow 2 (Nat.le_succ n)) k), ← half, even]
      simp [ExtendedMantissa.shiftRightOne]

/-- Rounding what is at most a multiple of the power of two gives at most that multiple. -/
theorem roundedMantissa_shift_le {m n q : Nat} (le : m ≤ q * 2 ^ n) :
    (ExtendedMantissa.ofMantissaAndAccuracy m .exact >>> n).roundedMantissa ≤ q := by
  obtain ⟨mantissa, exact⟩ := shift_spec m n
  unfold ExtendedMantissa.roundedMantissa
  rw [mantissa]
  have quotient : m / 2 ^ n ≤ q := Nat.div_le_of_le_mul (by rwa [Nat.mul_comm] at le)
  rcases Nat.lt_or_eq_of_le quotient with less | same
  · have up : ∀ a : Accuracy, a.roundToNearestEven (m / 2 ^ n) ≤ m / 2 ^ n + 1 := by
      intro a
      unfold Accuracy.roundToNearestEven
      split <;> omega
    exact (up _).trans less
  · have whole : 2 ^ n ∣ m := by
      have least := Nat.div_mul_le_self m (2 ^ n)
      rw [same] at least
      exact ⟨q, by rw [Nat.mul_comm]; exact Nat.le_antisymm le least⟩
    rw [exact whole]
    exact quotient

/-- The greatest finite double is this many times a power of two. -/
def greatestMantissa : Nat :=
  2 ^ 53 - 1

theorem targetExponent_le {m : Nat} {e : Int} (range : e ≤ 971) (le : m ≤ greatestMantissa * 2 ^ (971 - e).toNat) :
    Format.binary64.targetExponent (totalExponent m e) ≤ 971 := by
  have digits : m.log2 ≤ 52 + (971 - e).toNat := by
    rcases Nat.eq_zero_or_pos m with rfl | pos
    · simp
    · refine Nat.le_of_lt_succ ((Nat.log2_lt (by omega)).2 (le.trans_lt ?_))
      have split : 2 ^ (52 + (971 - e).toNat + 1) = 2 ^ 53 * 2 ^ (971 - e).toNat := by
        rw [← Nat.pow_add]
        congr 1
        omega
      rw [split]
      exact Nat.mul_lt_mul_of_pos_right (by decide) (Nat.two_pow_pos _)
  have least : Format.binary64.minExponent = -1074 := rfl
  have width : Format.binary64.mantissaBits = 53 := rfl
  unfold Format.targetExponent totalExponent
  rw [least, width]
  omega

/-- Rounding a number within the range does not leave it. -/
theorem exponent_le_of_roundWithAccuracy {s t : Sign} {m n : Nat} {e f : Int} {pos : 0 < n} (range : e ≤ 971)
    (le : m ≤ greatestMantissa * 2 ^ (971 - e).toNat)
    (rounded : roundWithAccuracy Format.binary64 s m e .exact = .finite t n f pos) : f ≤ 971 := by
  have target := targetExponent_le range le
  unfold roundWithAccuracy at rounded
  dsimp only at rounded
  split_ifs at rounded
  obtain ⟨-, -, rfl⟩ := UnpackedFloat.finite.inj rounded
  unfold shiftToTargetExponent shiftToExponent
  dsimp only
  generalize Format.binary64.targetExponent (totalExponent m e) = first at target
  -- After the first shift the exponent is still in range, and the rounded mantissa within its bound.
  have again : e + ((first - e).toNat : Int) ≤ 971 := by omega
  have bound : (ExtendedMantissa.ofMantissaAndAccuracy m .exact >>> (first - e).toNat).roundedMantissa ≤
      greatestMantissa * 2 ^ (971 - (e + ((first - e).toNat : Int))).toNat := by
    apply roundedMantissa_shift_le
    rw [Nat.mul_assoc, ← Nat.pow_add]
    have sum : (971 - (e + ((first - e).toNat : Int))).toNat + (first - e).toNat = (971 - e).toNat := by omega
    rwa [sum]
  have target' := targetExponent_le again bound
  omega

theorem exponent_le_of_round {s t : Sign} {m n : Nat} {e f : Int} {pos : 0 < n} (range : e ≤ 971)
    (le : m ≤ greatestMantissa * 2 ^ (971 - e).toNat)
    (rounded : UnpackedFloat.round Format.binary64 s m e = .finite t n f pos) : f ≤ 971 := by
  unfold UnpackedFloat.round decreaseExponent at rounded
  dsimp only at rounded
  generalize Format.binary64.targetExponent (totalExponent m e) = target at rounded
  refine exponent_le_of_roundWithAccuracy ?_ ?_ rounded
  · omega
  · rw [Nat.shiftLeft_eq]
    have sum : (971 - (e - ((e - target).toNat : Int))).toNat = (971 - e).toNat + (e - target).toNat := by omega
    rw [sum, Nat.pow_add, ← Nat.mul_assoc]
    exact Nat.mul_le_mul_right _ le

/-- A signed number within the range is rounded to one. -/
theorem exponent_le_of_normalize {t u : Sign} {m : Int} {n : Nat} {e f : Int} {pos : 0 < n} (range : e ≤ 971)
    (le : m.natAbs ≤ greatestMantissa * 2 ^ (971 - e).toNat)
    (rounded : UnpackedFloat.normalize Format.binary64 m e u = .finite t n f pos) : f ≤ 971 := by
  unfold UnpackedFloat.normalize at rounded
  split at rounded
  · exact exponent_le_of_round range (by omega) rounded
  · contradiction
  · exact exponent_le_of_round range (by omega) rounded

theorem isFinite_unpack_pack_finite {s : Sign} {m : Nat} {e : Int} {pos : 0 < m} (range : e ≤ 971) :
    (Float.Model.pack (.finite s m e pos)).unpack.isFinite = true := by
  rcases unpack_pack_finite s m e pos with ⟨above, -⟩ | finite
  · omega
  · exact finite

/-- Packing a number within the range gives a finite double. -/
theorem isFinite_unpack_pack {a : UnpackedFloat} (finite : a.isFinite = true)
    (range : ∀ s m e pos, a = .finite s m e pos → e ≤ 971) : (Float.Model.pack a).unpack.isFinite = true := by
  cases a with
  | notANumber | infinity => exact absurd finite Bool.false_ne_true
  | zero s => cases s <;> rfl
  | finite s m e pos => exact isFinite_unpack_pack_finite (range s m e pos rfl)

/-! ## Signs -/

/-- The number is zero or positive. -/
def NonNegative : UnpackedFloat → Prop
  | .notANumber => False
  | .zero _ => True
  | .infinity s => s = .positive
  | .finite s _ _ _ => s = .positive

theorem le_iff_nonNegative (x : Float) : 0.0 ≤ x ↔ NonNegative x.toModel.unpack := by
  have zero : (0.0 : Float).toModel.unpack = .zero .positive := by rfl
  rw [le_iff, zero]
  cases x.toModel.unpack with
  | notANumber => simp [NonNegative, UnpackedFloat.compare]
  | zero s => simp [NonNegative, UnpackedFloat.compare]
  | infinity s => cases s <;> simp [NonNegative, UnpackedFloat.compare]
  | finite s m e pos => cases s <;> simp [NonNegative, UnpackedFloat.compare]

/-! ## Differences -/

/-- The mantissa of a double, brought to a smaller exponent, is within the range. -/
theorem decreased_le {m : Nat} {e f : Int} (digits : m < 2 ^ 53) (range : e ≤ 971) (least : f ≤ e) :
    m <<< (e - f).toNat ≤ greatestMantissa * 2 ^ (971 - f).toNat := by
  have sum : (971 - f).toNat = (971 - e).toNat + (e - f).toNat := by omega
  rw [Nat.shiftLeft_eq, sum, Nat.pow_add, ← Nat.mul_assoc]
  refine Nat.mul_le_mul_right _ ?_
  calc m ≤ greatestMantissa := Nat.le_sub_one_of_lt digits
    _ ≤ greatestMantissa * 2 ^ (971 - e).toNat := Nat.le_mul_of_pos_right _ (Nat.two_pow_pos _)

theorem isFinite_unpack_pack_sub {a b : UnpackedFloat} (finite : a.isFinite = true) (finite' : b.isFinite = true)
    (range : InRange a) (range' : InRange b) (nonNegative : NonNegative a) (nonNegative' : NonNegative b) :
    (Float.Model.pack (UnpackedFloat.sub Format.binary64 a b)).unpack.isFinite = true := by
  cases a with
  | notANumber | infinity => exact absurd finite Bool.false_ne_true
  | zero s =>
    cases b with
    | notANumber | infinity => exact absurd finite' Bool.false_ne_true
    | zero t => cases s <;> cases t <;> rfl
    | finite t n f pos' => exact isFinite_unpack_pack_finite range'.2.2
  | finite s m e pos =>
    cases b with
    | notANumber | infinity => exact absurd finite' Bool.false_ne_true
    | zero t => exact isFinite_unpack_pack_finite range.2.2
    | finite t n f pos' =>
      obtain rfl : s = .positive := nonNegative
      obtain rfl : t = .positive := nonNegative'
      refine isFinite_unpack_pack (isFinite_normalize ..) fun u k g pos'' rounded => ?_
      refine exponent_le_of_normalize ((Int.min_le_left e f).trans range.2.2) ?_ rounded
      -- Both are positive, so their difference is at most as far from zero as the farther of them.
      have left := decreased_le range.1 range.2.2 (Int.min_le_left e f)
      have right := decreased_le range'.1 range'.2.2 (Int.min_le_right e f)
      show ((m <<< (e - min e f).toNat : Nat) - (n <<< (f - min e f).toNat : Nat) : Int).natAbs ≤ _
      generalize m <<< (e - min e f).toNat = m' at left
      generalize n <<< (f - min e f).toNat = n' at right
      omega

/-- The difference of two finite doubles that are not negative is finite. -/
theorem isFinite_sub {x y : Float} (finite : x.isFinite = true) (finite' : y.isFinite = true) (nonNegative : 0.0 ≤ x)
    (nonNegative' : 0.0 ≤ y) : (x - y).isFinite = true :=
  isFinite_unpack_pack_sub finite finite' (inRange_unpack x) (inRange_unpack y) ((le_iff_nonNegative x).1 nonNegative)
    ((le_iff_nonNegative y).1 nonNegative')

/-! ## Sums -/

theorem nonNegative_unpack_bits {b : BitVec Format.binary64.numBits}
    (sign : Sign.ofBitVec (UnpackedFloat.unpackSign b) = .positive)
    (number : (UnpackedFloat.unpack Format.binary64 b).isNaN = false) :
    NonNegative (UnpackedFloat.unpack Format.binary64 b) := by
  unfold UnpackedFloat.unpack at number ⊢
  dsimp only at number ⊢
  rw [sign] at number ⊢
  split_ifs at number ⊢
  · rfl
  · contradiction
  · trivial
  · rfl
  · rfl

theorem nonNegative_unpack_pack {a : UnpackedFloat} (nonNegative : NonNegative a) :
    NonNegative (Float.Model.pack a).unpack := by
  cases a with
  | notANumber => exact nonNegative.elim
  | infinity s =>
    obtain rfl : s = .positive := nonNegative
    rw [unpack_pack_infinity]
    rfl
  | zero s => cases s <;> trivial
  | finite s m e pos =>
    obtain rfl : s = .positive := nonNegative
    refine nonNegative_unpack_bits ?_ (isNaN_unpack_pack_finite .positive m e pos)
    show Sign.ofBitVec (UnpackedFloat.unpackSign (UnpackedFloat.pack Format.binary64 (.finite .positive m e pos))) = _
    unfold UnpackedFloat.pack UnpackedFloat.packedInfinity
    dsimp only
    split_ifs <;> rw [unpackSign_packComponents] <;> rfl

theorem nonNegative_round (m : Nat) (e : Int) :
    NonNegative (UnpackedFloat.round Format.binary64 .positive m e) := by
  unfold UnpackedFloat.round roundWithAccuracy
  dsimp only
  split <;> trivial

theorem nonNegative_add {a b : UnpackedFloat} (left : NonNegative a) (right : NonNegative b) :
    NonNegative (UnpackedFloat.add Format.binary64 a b) := by
  cases a with
  | notANumber => exact left.elim
  | infinity s =>
    obtain rfl : s = .positive := left
    cases b with
    | notANumber => exact right.elim
    | infinity t =>
      obtain rfl : t = .positive := right
      rfl
    | zero | finite => rfl
  | zero s =>
    cases b with
    | notANumber => exact right.elim
    | zero t => cases s <;> cases t <;> trivial
    | infinity | finite => exact right
  | finite s m e pos =>
    obtain rfl : s = .positive := left
    cases b with
    | notANumber => exact right.elim
    | infinity => exact right
    | zero => rfl
    | finite t n f pos' =>
      obtain rfl : t = .positive := right
      show NonNegative (UnpackedFloat.normalize Format.binary64 (_ + _) _ .positive)
      unfold UnpackedFloat.normalize
      split
      · next below =>
        have sum : ((m <<< (e - min e f).toNat : Nat) : Int) + (n <<< (f - min e f).toNat : Nat) < 0 :=
          Int.compare_eq_lt.1 below
        exact absurd sum (Int.not_lt.2 (Int.add_nonneg (Int.natCast_nonneg _) (Int.natCast_nonneg _)))
      · trivial
      · exact nonNegative_round ..

/-- The sum of doubles that are not negative is not negative. -/
theorem nonneg_add {x y : Float} (left : 0.0 ≤ x) (right : 0.0 ≤ y) : 0.0 ≤ x + y := by
  rw [le_iff_nonNegative] at left right ⊢
  rw [unpack_add]
  exact nonNegative_unpack_pack (nonNegative_add left right)

end ResolverWatch.Double
