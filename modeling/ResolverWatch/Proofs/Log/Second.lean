import ResolverWatch.Proofs.Decimal.Whole
import ResolverWatch.Proofs.Float.Fraction
import ResolverWatch.Proofs.Log.Timestamp

/-!
# The whole second of a time

The log takes the fraction of a time a million times, which is rounded to a double, and then rounds that to a whole
number of microseconds. The second is nevertheless that of the time rounded exactly (`exists_wholeSecond?`). A fraction
is rounded up to a whole second if it is at most half a microsecond less than one. The product of a smaller fraction is
never rounded that far (`carry_iff`), for fractions have at most 53 binary places.
-/

namespace ResolverWatch

open Double Decimal

namespace Double

/-! ## Fractions of a second -/

/-- A double that is at least a half has at most 53 binary places. -/
theorem exists_places {x : Float} (finite : x.isFinite = true) (half : 1 / 2 ≤ value x) :
    ∃ j : ℕ, value x = j / 2 ^ 53 := by
  obtain ⟨e, canonical, -, size⟩ := exists_canonical finite
  change |value x| = _ at size
  rw [abs_of_nonneg (by linarith)] at size
  generalize mantissa x.toModel.unpack = m at canonical size
  have places : -53 ≤ e := by
    by_contra less
    have digits : (m : ℚ) < 2 ^ (53 : ℤ) := by exact_mod_cast canonical.below
    have below : (m : ℚ) * 2 ^ e < 1 / 2 :=
      calc (m : ℚ) * 2 ^ e < 2 ^ (53 : ℤ) * 2 ^ e := mul_lt_mul_of_pos_right digits (two_zpow_pos e)
        _ = 2 ^ (53 + e) := (two_zpow_add 53 e).symm
        _ ≤ 2 ^ (-1 : ℤ) := zpow_le_zpow_right₀ (by norm_num) (by omega)
        _ = 1 / 2 := by norm_num
    linarith
  obtain ⟨k, rfl⟩ : ∃ k : ℕ, e = k - 53 := ⟨(e + 53).toNat, by omega⟩
  refine ⟨m * 2 ^ k, ?_⟩
  rw [size, zpow_sub₀ (by norm_num), zpow_natCast]
  push_cast
  ring

/-- Of the fractions that are less than half a microsecond less than a second, the greatest is so much less that its
product with a million is nearer to the double before. -/
theorem micros_lt {x : Float} (finite : x.isFinite = true) (less : value x * 1000000 < 1999999 / 2) :
    value x * 1000000 < 1999999 / 2 - 1 / 2 ^ 34 := by
  rcases lt_or_ge (value x) (1 / 2) with small | half
  · norm_num
    linarith
  · obtain ⟨j, places⟩ := exists_places finite half
    rw [places] at less ⊢
    have whole : 2000000 * j < 1999999 * 2 ^ 53 := by
      have cast : (2000000 : ℚ) * j < 1999999 * 2 ^ 53 := by linarith
      exact_mod_cast cast
    have greatest : 2000000 * j + 1259008 ≤ 1999999 * 2 ^ 53 := by omega
    have cast : (2000000 : ℚ) * j + 1259008 ≤ 1999999 * 2 ^ 53 := by exact_mod_cast greatest
    linarith

/-- A million times a double is rounded to the nearest double. -/
theorem nearest_micros {x : Float} (finite : x.isFinite = true) :
    ∃ negative, Nearest (x * 1000000.0) negative (value x * 1000000) := by
  have million : value 1000000.0 = 1000000 := by decide +kernel
  have nearest := nearest_product finite (y := 1000000.0) (by rfl)
  rwa [million] at nearest

theorem isFinite_micros {x : Float} (finite : x.isFinite = true) (nonneg : 0 ≤ value x) (fraction : value x < 1) :
    (x * 1000000.0).isFinite = true := by
  have million : value 1000000.0 = 1000000 := by decide +kernel
  have range := abs_value_lt_overflow (x := 1000000.0) (by rfl)
  rw [million, abs_of_pos (by norm_num)] at range
  obtain ⟨negative, nearest⟩ := nearest_micros finite
  rw [nearest.finite_iff, abs_of_nonneg (by linarith)]
  linarith

/-- A fraction of a second is rounded up to the next second iff it is when it is taken a million times exactly. -/
theorem carry_iff {x : Float} (finite : x.isFinite = true) (bounded : (x * 1000000.0).isFinite = true) :
    value (x * 1000000.0) < 1999999 / 2 ↔ value x * 1000000 < 1999999 / 2 := by
  have middle : value 999999.5 = 1999999 / 2 := by decide +kernel
  obtain ⟨negative, nearest⟩ := nearest_micros finite
  constructor
  · intro below
    by_contra above
    have least := nearest.le_value bounded (z := 999999.5) (by rfl) (by linarith)
    linarith
  · intro less
    have most := nearest.value_le bounded (z := 999999.5) (by rfl) (by linarith)
    have apart := micros_lt finite less
    refine lt_of_le_of_ne (by linarith) fun rounded => ?_
    -- The double before the middle is nearer.
    obtain ⟨z, finite', before⟩ := exists_float_of_lt (k := 1999999 * 2 ^ 32 - 1) (e := -33) (by norm_num)
      (by norm_num) (by norm_num)
    have step : value z = 1999999 / 2 - 1 / 2 ^ 33 := by
      rw [before]
      norm_num
    have close := nearest.closest bounded z finite'
    change |value (x * 1000000.0) - value x * 1000000| ≤ |value z - value x * 1000000| at close
    rw [rounded, abs_of_pos (by linarith), step] at close
    rcases le_total (value x * 1000000) (1999999 / 2 - 1 / 2 ^ 33) with low | high
    · rw [abs_of_nonneg (by linarith)] at close
      linarith
    · rw [abs_of_nonpos (by linarith)] at close
      linarith

end Double

namespace Log

/-! ## Rounding to microseconds -/

/-- The second that a time lies in when it is rounded to microseconds, a half going to the even one. -/
def InSecond (time : Float) (second : ℕ) : Prop :=
  ∃ micros : ℕ, NearestEven micros (value time * 1000000) ∧ micros / 1000000 = second

theorem InSecond.unique {time : Float} {s t : ℕ} (first : InSecond time s) (second : InSecond time t) : s = t := by
  obtain ⟨micros, nearest, rfl⟩ := first
  obtain ⟨micros', nearest', rfl⟩ := second
  rw [nearest.unique nearest']

theorem InSecond.mono {a b : Float} {s t : ℕ} (first : InSecond a s) (second : InSecond b t)
    (le : value a ≤ value b) : s ≤ t := by
  obtain ⟨micros, nearest, rfl⟩ := first
  obtain ⟨micros', nearest', rfl⟩ := second
  exact Nat.div_le_div_right (nearest.mono nearest' (by linarith))

/-- The microseconds of a fraction are rounded up to a second iff they are when they are computed exactly. -/
theorem exists_micros {x : Float} (finite : x.isFinite = true) (nonneg : 0 ≤ value x) (fraction : value x < 1) :
    ∃ k n : ℕ, nearestEven? (x * 1000000.0) = some (k : ℤ) ∧ NearestEven n (value x * 1000000) ∧
      (k < 1000000 ↔ n < 1000000) ∧ n ≤ 1000000 := by
  have bounded := isFinite_micros finite nonneg fraction
  have product : 0 ≤ value (x * 1000000.0) := by
    obtain ⟨negative, nearest⟩ := nearest_micros finite
    have least := nearest.le_value bounded (z := 0.0) (by rfl) (by linarith [value_zero])
    rwa [value_zero] at least
  obtain ⟨k, rounded, near⟩ := exists_nearestEven? bounded product
  obtain ⟨n, near'⟩ := exists_nearestEven (x := value x * 1000000) (by linarith)
  refine ⟨k, n, rounded, near', ?_, ?_⟩
  · have carry := carry_iff finite bounded
    have middle : ((1000000 : ℕ) : ℚ) - 1 / 2 = 1999999 / 2 := by norm_num
    rw [near.lt_iff (m := 1000000) (by decide), near'.lt_iff (m := 1000000) (by decide), middle, carry]
  · have full : NearestEven 1000000 (1000000 : ℚ) := by norm_num [NearestEven]
    exact near'.mono full (by linarith)

/-- A time has a whole second, which is that of the time rounded exactly. -/
theorem exists_wholeSecond? {time : Float} (finite : time.isFinite = true) (nonneg : 0 ≤ value time)
    (small : value time < 2 ^ 53) : ∃ s : ℕ, wholeSecond? time = some (s : ℤ) ∧ InSecond time s := by
  obtain ⟨seconds, whole⟩ := Int.eq_ofNat_of_zero_le (Int.floor_nonneg.2 nonneg)
  obtain ⟨finite', fraction⟩ := value_sub_floor finite nonneg small
  have truncated := truncate?_eq_floor finite nonneg
  have split := Int.floor_add_fract (value time)
  have least := Int.fract_nonneg (value time)
  have less := Int.fract_lt_one (value time)
  rw [← fraction] at split least less
  rw [whole] at truncated finite' split least less
  obtain ⟨k, n, rounded, nearest, carry, most⟩ := exists_micros finite' least less
  have micros : NearestEven (seconds * 1000000 + n) (value time * 1000000) := by
    have exact : value time * 1000000 =
        ((seconds * 1000000 : ℕ) : ℚ) + value (time - Float.ofInt seconds) * 1000000 := by
      rw [Int.cast_natCast] at split
      push_cast
      linarith
    rw [exact]
    exact nearest.even_add ((by decide : Even 1000000).mul_left seconds)
  refine ⟨(seconds * 1000000 + n) / 1000000, ?_, _, micros, rfl⟩
  -- Both numbers of microseconds carry over to the next second, or none does.
  unfold wholeSecond?
  rw [truncated]
  show (nearestEven? ((time - Float.ofInt seconds) * 1000000.0)).bind _ = _
  rw [rounded]
  show some (if 1000000 ≤ (k : ℤ) then (seconds : ℤ) + 1 else if (k : ℤ) < 0 then (seconds : ℤ) - 1 else seconds) = _
  congr 1
  split_ifs <;> omega

end Log

end ResolverWatch
