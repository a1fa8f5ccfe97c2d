import ResolverWatch.Proofs.Decimal.Digits
import ResolverWatch.Proofs.Decimal.Nearest

/-!
# The numbers that are read as a double

The ends of the interval of a double lie halfway to its neighbours (`Interval.add_le_or_le_add`), so the double is the
nearest to each number in the interval (`nearest_of_contains`), and each decimal there is read as the double
(`eq_toFloat_of_contains`).
-/

namespace ResolverWatch.Decimal

open Float.Model UnpackedFloat Double

/-! ## Points of a grid, as rational numbers -/

theorem zpow_mul_powerDown (base : Nat) (pos : 0 < base) (e : Int) :
    (base : ℚ) ^ e * powerDown base e = powerUp base e := by
  have nonzero : (base : ℚ) ≠ 0 := Nat.cast_ne_zero.2 pos.ne'
  have up : ((powerUp base e : Nat) : ℚ) = (base : ℚ) ^ (e.toNat : ℤ) := by
    rw [zpow_natCast]
    exact Nat.cast_pow base e.toNat
  have down : ((powerDown base e : Nat) : ℚ) = (base : ℚ) ^ ((-e).toNat : ℤ) := by
    rw [zpow_natCast]
    exact Nat.cast_pow base (-e).toNat
  rw [up, down, ← zpow_add₀ nonzero]
  congr 1
  omega

/-- What both weights are over. -/
def denominator (i : Interval) (k : Int) : Nat :=
  powerDown 10 k * powerDown 2 (i.scale - 2)

theorem denominator_pos (i : Interval) (k : Int) : (0 : ℚ) < denominator i k := by
  have pos : 0 < denominator i k := Nat.mul_pos (Nat.pow_pos (by decide)) (Nat.pow_pos (by decide))
  exact_mod_cast pos

theorem gridWeight_eq (i : Interval) (k : Int) (c : Nat) :
    ((c * gridWeight i k : Nat) : ℚ) = c * 10 ^ k * denominator i k := by
  have power := zpow_mul_powerDown 10 (by decide) k
  unfold gridWeight denominator
  push_cast at power ⊢
  rw [← power]
  ring

theorem quarterWeight_eq (i : Interval) (k : Int) (n : Nat) :
    ((n * quarterWeight i k : Nat) : ℚ) = n * 2 ^ (i.scale - 2) * denominator i k := by
  have power := zpow_mul_powerDown 2 (by decide) (i.scale - 2)
  unfold quarterWeight denominator
  push_cast at power ⊢
  rw [← power]
  ring

/-- The least number of an interval, if its ends belong to it. -/
def Interval.bottom (i : Interval) : ℚ :=
  i.low * 2 ^ (i.scale - 2)

/-- The greatest number of an interval, if its ends belong to it. -/
def Interval.top (i : Interval) : ℚ :=
  i.high * 2 ^ (i.scale - 2)

/-- A number lies in an interval. -/
structure Interval.Contains (i : Interval) (v : ℚ) : Prop where
  above : i.bottom ≤ v
  below : v ≤ i.top
  ends : v = i.bottom ∨ v = i.top → i.closed = true

theorem contains_of_has {i : Interval} {k : Int} {c : Nat} (has : i.has k c = true) : i.Contains (c * 10 ^ k) := by
  have pos := denominator_pos i k
  have le {a b : Nat} {x y : ℚ} (first : (a : ℚ) = x * denominator i k) (second : (b : ℚ) = y * denominator i k) :
      a ≤ b ↔ x ≤ y := by
    rw [← mul_le_mul_iff_of_pos_right pos, ← first, ← second]
    exact Nat.cast_le.symm
  have lt {a b : Nat} {x y : ℚ} (first : (a : ℚ) = x * denominator i k) (second : (b : ℚ) = y * denominator i k) :
      a < b ↔ x < y := by
    rw [← mul_lt_mul_iff_of_pos_right pos, ← first, ← second]
    exact Nat.cast_lt.symm
  have point := gridWeight_eq i k c
  have bottom := quarterWeight_eq i k i.low
  have top := quarterWeight_eq i k i.high
  unfold Interval.has at has
  dsimp only at has
  split_ifs at has with closed
  · rw [Bool.and_eq_true, decide_eq_true_eq, decide_eq_true_eq, le bottom point, le point top] at has
    exact ⟨has.1, has.2, fun _ => closed⟩
  · rw [Bool.and_eq_true, decide_eq_true_eq, decide_eq_true_eq, lt bottom point, lt point top] at has
    refine ⟨has.1.le, has.2.le, ?_⟩
    rintro (least | greatest)
    · exact absurd least has.1.ne'
    · exact absurd greatest has.2.ne

/-! ## The ends of the interval of a double -/

theorem two_zpow_sub_two (q : Int) : (2 : ℚ) ^ q = 4 * 2 ^ (q - 2) := by
  have power : (2 : ℚ) ^ (2 + (q - 2)) = 2 ^ (2 : ℤ) * 2 ^ (q - 2) := two_zpow_add 2 (q - 2)
  rw [show 2 + (q - 2) = q by omega] at power
  rw [power]
  norm_num

theorem Interval.top_of (m : Nat) (q : Int) : (Interval.of m q).top = (m + 1 / 2) * 2 ^ q := by
  show ((4 * m + 2 : Nat) : ℚ) * 2 ^ (q - 2) = _
  rw [two_zpow_sub_two q]
  push_cast
  ring

theorem Interval.lt_top (m : Nat) (q : Int) : m * 2 ^ q < (Interval.of m q).top := by
  rw [Interval.top_of]
  apply mul_lt_mul_of_pos_right _ (two_zpow_pos q)
  linarith

section Bottom

variable {m : Nat} (q : Int) (pos : 0 < m)
include pos

theorem Interval.bottom_lt : (Interval.of m q).bottom < m * 2 ^ q := by
  have less : (Interval.of m q).low < m * 4 := by
    unfold Interval.of
    dsimp only
    split_ifs <;> omega
  rw [two_zpow_sub_two, ← mul_assoc]
  apply mul_lt_mul_of_pos_right _ (two_zpow_pos _)
  exact_mod_cast less

/-- The lower end is at most half a unit below the double. -/
theorem Interval.le_bottom : (m - 1 / 2) * 2 ^ q ≤ (Interval.of m q).bottom := by
  have least : 4 * m ≤ (Interval.of m q).low + 2 := by
    unfold Interval.of
    dsimp only
    split_ifs <;> omega
  have scaled : ((m : ℚ) - 1 / 2) * 2 ^ q = (4 * m - 2) * 2 ^ (q - 2) := by
    rw [two_zpow_sub_two q]
    ring
  have cast : (4 * m : ℚ) ≤ (Interval.of m q).low + 2 := by exact_mod_cast least
  rw [scaled]
  apply mul_le_mul_of_nonneg_right _ (two_zpow_pos _).le
  linarith

end Bottom

/-- Below a power of two doubles are twice as dense. -/
theorem Interval.bottom_of_power {q : Int} (more : -1074 < q) :
    (Interval.of (2 ^ 52) q).bottom = (2 ^ 52 - 1 / 4) * 2 ^ q := by
  have low : (Interval.of (2 ^ 52) q).low = 4 * 2 ^ 52 - 1 := if_pos ⟨rfl, more⟩
  unfold Interval.bottom
  rw [low, two_zpow_sub_two q]
  push_cast
  norm_num [Interval.of]
  ring

/-- What has 53 digits of a finer unit is below all that has as many of a coarser one. -/
theorem finer_le {k e q : ℤ} (small : |k| < 2 ^ 53) (finer : e < q) :
    (k : ℚ) * 2 ^ e ≤ (2 ^ 52 - 1 / 2) * 2 ^ q := by
  have mantissa : (k : ℚ) ≤ 2 ^ 53 - 1 := by
    have below := (le_abs_self k).trans_lt small
    have whole : k ≤ 2 ^ 53 - 1 := by omega
    exact_mod_cast whole
  have unit : (2 : ℚ) ^ e ≤ 2 ^ (q - 1) := zpow_le_zpow_right₀ (by norm_num) (by omega)
  have twice : (2 : ℚ) ^ q = 2 * 2 ^ (q - 1) := by
    rw [← zpow_one_add₀ (by norm_num)]
    congr 1
    omega
  calc (k : ℚ) * 2 ^ e ≤ (2 ^ 53 - 1) * 2 ^ e := mul_le_mul_of_nonneg_right mantissa (two_zpow_pos e).le
    _ ≤ (2 ^ 53 - 1) * 2 ^ (q - 1) := mul_le_mul_of_nonneg_left unit (by norm_num)
    _ = (2 ^ 52 - 1 / 2) * 2 ^ q := by
      rw [twice]
      ring

/-- Another number that a double can be lies as far beyond an end of the interval as the double is before it, or
farther. -/
theorem Interval.add_le_or_le_add {m : Nat} {q : Int} (canonical : Canonical m q) (pos : 0 < m) {g : ℚ}
    (onGrid : OnGrid g) (other : g ≠ m * 2 ^ q) :
    g + m * 2 ^ q ≤ 2 * (Interval.of m q).bottom ∨ 2 * (Interval.of m q).top ≤ g + m * 2 ^ q := by
  obtain ⟨k, e, small, least, rfl⟩ := onGrid
  have unit := two_zpow_pos q
  have half := Interval.le_bottom q pos
  by_cases fine : q ≤ e
  · -- The other number is a multiple of the same unit.
    obtain ⟨d, rfl⟩ : ∃ d : ℕ, e = d + q := ⟨(e - q).toNat, by omega⟩
    have multiple : (k : ℚ) * 2 ^ ((d : ℤ) + q) = ((k * 2 ^ d : ℤ) : ℚ) * 2 ^ q := by
      rw [two_zpow_add, zpow_natCast]
      push_cast
      ring
    rw [multiple] at other ⊢
    generalize k * 2 ^ d = j at other ⊢
    rcases lt_trichotomy j (m : ℤ) with less | same | greater
    · have before : (j : ℚ) + 1 ≤ m := by exact_mod_cast less
      refine .inl ?_
      nlinarith
    · rw [same] at other
      exact absurd rfl other
    · have behind : (m : ℚ) + 1 ≤ j := by exact_mod_cast greater
      refine .inr ?_
      rw [Interval.top_of]
      nlinarith
  · -- The other number has a smaller unit, so it lies below all that have the unit and 53 digits.
    have digits : 2 ^ 52 ≤ m := canonical.digits.resolve_left (by omega)
    have most : (k : ℚ) * 2 ^ e ≤ (2 ^ 52 - 1 / 2) * 2 ^ q := finer_le small (by omega)
    refine .inl ?_
    rcases digits.eq_or_lt with power | more
    · subst power
      rw [Interval.bottom_of_power (by omega)]
      push_cast
      linarith
    · have more : (2 : ℚ) ^ 52 + 1 ≤ m := by exact_mod_cast more
      nlinarith

/-! ## The nearest double -/

section Nearest

variable {m : Nat} {q : Int} {v : ℚ} (canonical : Canonical m q) (pos : 0 < m)
  (contains : (Interval.of m q).Contains v)
include canonical pos contains

/-- No other number that a double can be is closer to a number in the interval. -/
theorem Interval.Contains.closest {g : ℚ} (onGrid : OnGrid g) : |m * 2 ^ q - v| ≤ |g - v| := by
  obtain ⟨above, below, -⟩ := contains
  have bottom := Interval.bottom_lt q pos
  have top := Interval.lt_top m q
  by_cases other : g = m * 2 ^ q
  · rw [other]
  · rcases Interval.add_le_or_le_add canonical pos onGrid other with before | behind
    · rw [abs_sub_comm g, abs_of_nonneg (by linarith : 0 ≤ v - g), abs_le]
      constructor <;> linarith
    · rw [abs_of_nonneg (by linarith : 0 ≤ g - v), abs_le]
      constructor <;> linarith

/-- If another one is as close, the number is an end of the interval, and ends belong to even doubles only. -/
theorem Interval.Contains.even {g : ℚ} (onGrid : OnGrid g) (tie : |g - v| = |m * 2 ^ q - v|)
    (other : g ≠ m * 2 ^ q) : Even m := by
  obtain ⟨above, below, ends⟩ := contains
  have bottom := Interval.bottom_lt q pos
  have top := Interval.lt_top m q
  have atEnd : v = (Interval.of m q).bottom ∨ v = (Interval.of m q).top := by
    have halfway : g + m * 2 ^ q = 2 * v := by
      rcases abs_eq_abs.1 tie with same | opposite
      · exact absurd (by linarith) other
      · linarith
    rcases Interval.add_le_or_le_add canonical pos onGrid other with before | behind
    · exact .inl (by linarith)
    · exact .inr (by linarith)
  have closed : (m % 2 == 0) = true := ends atEnd
  rwa [beq_iff_eq, ← Nat.even_iff] at closed

/-- The interval of a double ends below the numbers that are too great. -/
theorem Interval.Contains.lt_overflow (most : q ≤ 971) : v < overflow := by
  obtain ⟨-, below, ends⟩ := contains
  rw [Interval.top_of] at below ends
  have unit : (2 : ℚ) ^ q ≤ 2 ^ (971 : ℤ) := zpow_le_zpow_right₀ (by norm_num) most
  have last : (m : ℚ) + 1 ≤ 2 ^ 53 := by exact_mod_cast canonical.below
  rw [overflow_eq]
  rcases below.lt_or_eq with inside | top
  · calc v < (m + 1 / 2) * 2 ^ q := inside
      _ ≤ (2 ^ 53 - 1 / 2) * 2 ^ (971 : ℤ) := mul_le_mul (by linarith) unit (two_zpow_pos q).le (by norm_num)
  · -- Only the interval of the greatest mantissa reaches so far, and that one is odd.
    have closed : (m % 2 == 0) = true := ends (.inr top)
    rw [beq_iff_eq] at closed
    have next : m + 2 ≤ 2 ^ 53 := by
      have below := canonical.below
      omega
    have even : (m : ℚ) + 2 ≤ 2 ^ 53 := by exact_mod_cast next
    calc v = (m + 1 / 2) * 2 ^ q := top
      _ ≤ (m + 1 / 2) * 2 ^ (971 : ℤ) := mul_le_mul_of_nonneg_left unit (by positivity)
      _ < (2 ^ 53 - 1 / 2) * 2 ^ (971 : ℤ) := mul_lt_mul_of_pos_right (by linarith) (two_zpow_pos 971)

end Nearest

/-- A double is the nearest to each number in its interval. -/
theorem nearest_of_contains {x : Float} {s : Sign} {m : Nat} {q : Int} {pos : 0 < m}
    (unpacked : x.toModel.unpack = .finite s m q pos) {v : ℚ} (contains : (Interval.of m q).Contains v) :
    Nearest x (s == .negative) (signed s v) := by
  have canonical := canonical_of_unpack_bits unpacked
  have range := inRange_unpack x
  rw [unpacked] at range
  have value : rational x.toModel.unpack = signed s (m * 2 ^ q) := by rw [unpacked, rational_finite]
  have onGrid (y : Float) : OnGrid (signed s (rational y.toModel.unpack)) := (onGrid_rational (inRange_unpack y)).signed s
  -- The distances to all doubles are the same when the sign is taken away.
  have away (y : Float) : |rational y.toModel.unpack - signed s v| = |signed s (rational y.toModel.unpack) - v| := by
    rw [← abs_signed_sub s, signed_signed]
  have away' : |rational x.toModel.unpack - signed s v| = |m * 2 ^ q - v| := by
    rw [value, abs_signed_sub]
  refine ⟨?_, ?_, ?_, ?_, ?_⟩
  · rw [unpacked]
    rfl
  · show x.toModel.unpack.isNaN = false
    rw [unpacked]
    rfl
  · have nonneg : 0 ≤ v := by
      have half := Interval.le_bottom q pos
      have one : (1 : ℚ) ≤ m := by exact_mod_cast pos
      have unit := two_zpow_pos q
      nlinarith [contains.above]
    rw [abs_signed, abs_of_nonneg nonneg]
    refine iff_of_true ?_ (contains.lt_overflow canonical pos range.2.2)
    show x.toModel.unpack.isFinite = true
    rw [unpacked]
    rfl
  · intro _ y _
    rw [away', away]
    exact contains.closest canonical pos (onGrid y)
  · intro _ y _ tie other
    rw [away', away] at tie
    have even := contains.even canonical pos (onGrid y) tie
    rw [unpacked]
    apply even
    intro same
    apply other
    rw [value, ← same, signed_signed]

/-- A literal that spells a number in the interval of a double is read as the double. -/
theorem eq_toFloat_of_contains {x : Float} {s : Sign} {m : Nat} {q : Int} {pos : 0 < m}
    (unpacked : x.toModel.unpack = .finite s m q pos) {l : Literal} (sign : l.negative = (s == .negative))
    (contains : (Interval.of m q).Contains (l.digits * 10 ^ l.exponent)) : x = l.toFloat := by
  rw [← nearest_iff, sign]
  have value : l.value = signed s (l.digits * 10 ^ l.exponent) := by
    unfold Literal.value
    rw [sign]
    cases s <;> simp [signed]
  rw [value]
  exact nearest_of_contains unpacked contains

/-- The shortest decimal of a double is a number in its interval. -/
theorem contains_shortest {m : Nat} {q : Int} (pos : 0 < m) (range : -1074 ≤ q ∧ q ≤ 971) :
    (Interval.of m q).Contains ((shortest m q).digits * 10 ^ (shortest m q).exponent) :=
  contains_of_has (has_of_point? (point?_shortest pos range))

end ResolverWatch.Decimal
