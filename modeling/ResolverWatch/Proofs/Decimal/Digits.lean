import ResolverWatch.Decimal.Layout
import ResolverWatch.Proofs.Float.Difference

/-!
# The digits of a positive double

The search for the shortest decimal starts at a power of ten that is coarser than the double and ends at one that is
finer than the distance of doubles, so it finds digits for every double (`digits_shortest_pos`).
-/

namespace ResolverWatch.Decimal

/-! ## Powers of ten between powers of two -/

theorem ten_pow_le {k r : Nat} (enough : 94 * k ≤ 28 * r) : 10 ^ k ≤ 2 ^ r := by
  rw [← Nat.pow_le_pow_iff_left (n := 28) (by decide)]
  calc (10 ^ k) ^ 28 = (10 ^ 28) ^ k := by rw [← Nat.pow_mul, ← Nat.pow_mul, Nat.mul_comm]
    _ ≤ (2 ^ 94) ^ k := Nat.pow_le_pow_left (by decide) k
    _ = 2 ^ (94 * k) := (Nat.pow_mul 2 94 k).symm
    _ ≤ 2 ^ (28 * r) := Nat.pow_le_pow_right (by decide) enough
    _ = (2 ^ r) ^ 28 := by rw [Nat.mul_comm, Nat.pow_mul]

theorem le_ten_pow {k r : Nat} (enough : 28 * r ≤ 93 * k) : 2 ^ r ≤ 10 ^ k := by
  rw [← Nat.pow_le_pow_iff_left (n := 28) (by decide)]
  calc (2 ^ r) ^ 28 = 2 ^ (28 * r) := by rw [← Nat.pow_mul, Nat.mul_comm]
    _ ≤ 2 ^ (93 * k) := Nat.pow_le_pow_right (by decide) enough
    _ = (2 ^ 93) ^ k := Nat.pow_mul 2 93 k
    _ ≤ (10 ^ 28) ^ k := Nat.pow_le_pow_left (by decide) k
    _ = (10 ^ k) ^ 28 := by rw [← Nat.pow_mul, ← Nat.pow_mul, Nat.mul_comm]

/-- The finest grid that is tried is no coarser than a quarter of the distance of doubles. -/
theorem gridWeight_le_quarterWeight (i : Interval) (range : -1074 ≤ i.scale ∧ i.scale ≤ 971) :
    gridWeight i (topExponent i.scale - 47) ≤ quarterWeight i (topExponent i.scale - 47) := by
  obtain ⟨low, high⟩ := range
  have top : topExponent i.scale = (i.scale + 55) * 302 / 1000 + 3 := by
    rw [topExponent, Int.fdiv_eq_ediv_of_nonneg _ (by decide)]
  unfold gridWeight quarterWeight powerUp powerDown
  rw [top]
  rcases Int.le_total 0 ((i.scale + 55) * 302 / 1000 + 3 - 47) with whole | part
  · -- The grid is of whole numbers, and so is the distance.
    have none : (-((i.scale + 55) * 302 / 1000 + 3 - 47)).toNat = 0 := by omega
    have none' : (-(i.scale - 2)).toNat = 0 := by omega
    have le := ten_pow_le (k := ((i.scale + 55) * 302 / 1000 + 3 - 47).toNat) (r := (i.scale - 2).toNat) (by omega)
    rw [none, none']
    simpa using le
  · have none : ((i.scale + 55) * 302 / 1000 + 3 - 47).toNat = 0 := by omega
    have le := le_ten_pow (k := (-((i.scale + 55) * 302 / 1000 + 3 - 47)).toNat) (r := (-(i.scale - 2)).toNat)
      (by omega)
    rw [none]
    calc Nat.pow 10 0 * Nat.pow 2 (-(i.scale - 2)).toNat = 2 ^ (-(i.scale - 2)).toNat := Nat.one_mul _
      _ ≤ 10 ^ (-((i.scale + 55) * 302 / 1000 + 3 - 47)).toNat := le
      _ ≤ _ := Nat.le_mul_of_pos_right _ (Nat.pow_pos (by decide))

/-! ## The search -/

theorem quarterWeight_pos (i : Interval) (k : Int) : 0 < quarterWeight i k :=
  Nat.mul_pos (Nat.pow_pos (by decide)) (Nat.pow_pos (by decide))

theorem has_of_inside {i : Interval} {k : Int} {c : Nat} (above : i.low * quarterWeight i k < c * gridWeight i k)
    (below : c * gridWeight i k < i.high * quarterWeight i k) : i.has k c = true := by
  unfold Interval.has
  dsimp only
  split_ifs
  · simp [above.le, below.le]
  · simp [above, below]

theorem le_of_has {i : Interval} {k : Int} {c : Nat} (has : i.has k c = true) :
    i.low * quarterWeight i k ≤ c * gridWeight i k := by
  unfold Interval.has at has
  dsimp only at has
  split_ifs at has
  · simp only [Bool.and_eq_true, decide_eq_true_eq] at has
    exact has.1
  · simp only [Bool.and_eq_true, decide_eq_true_eq] at has
    exact has.1.le

theorem has_of_point? {i : Interval} {k : Int} {c : Nat} (found : i.point? k = some c) : i.has k c = true := by
  unfold Interval.point? at found
  dsimp only at found
  split at found
  · split_ifs at found
    · rwa [← Option.some.inj found]
    · rwa [← Option.some.inj found]
  · rwa [← Option.some.inj found]
  · rwa [← Option.some.inj found]
  · contradiction

/-- The point that is written is no zero. -/
theorem pos_of_point? {i : Interval} (low : 0 < i.low) {k : Int} {c : Nat} (found : i.point? k = some c) : 0 < c := by
  have weight : 0 < i.low * quarterWeight i k := Nat.mul_pos low (quarterWeight_pos i k)
  have point : 0 < c * gridWeight i k := weight.trans_le (le_of_has (has_of_point? found))
  exact Nat.pos_of_mul_pos_right point

/-- A grid that is no coarser than a quarter meets the interval, below its middle at the latest. -/
theorem isSome_point? {i : Interval} (low : i.low < i.middle) (high : i.middle < i.high) {k : Int}
    (fine : gridWeight i k ≤ quarterWeight i k) : (i.point? k).isSome = true := by
  have grid : 0 < gridWeight i k := Nat.mul_pos (Nat.pow_pos (by decide)) (Nat.pow_pos (by decide))
  have has : i.has k (i.middle * quarterWeight i k / gridWeight i k) = true := by
    have rest := Nat.mod_lt (i.middle * quarterWeight i k) grid
    have parts := Nat.div_add_mod' (i.middle * quarterWeight i k) (gridWeight i k)
    have left : (i.low + 1) * quarterWeight i k ≤ i.middle * quarterWeight i k := Nat.mul_le_mul_right _ low
    have right : i.middle * quarterWeight i k < i.high * quarterWeight i k :=
      Nat.mul_lt_mul_of_pos_right high (quarterWeight_pos i k)
    rw [Nat.add_mul, Nat.one_mul] at left
    refine has_of_inside ?_ ?_
    · omega
    · omega
  unfold Interval.point?
  dsimp only
  rw [has]
  split
  · split_ifs <;> rfl
  · rfl
  · rfl
  · contradiction

/-- A search that reaches a grid which meets the interval ends at the point of a grid. -/
theorem point?_search {i : Interval} {fuel n : Nat} {k : Int} (within : n < fuel)
    (met : (i.point? (k - n)).isSome = true) :
    i.point? (i.search fuel k).exponent = some (i.search fuel k).digits := by
  induction fuel generalizing k n with
  | zero => omega
  | succ fuel ih =>
    unfold Interval.search
    cases here : i.point? k with
    | some c => exact here
    | none =>
      cases n with
      | zero => simp [here] at met
      | succ n =>
        refine ih (by omega : n < fuel) ?_
        have same : k - 1 - (n : Int) = k - ((n + 1 : Nat) : Int) := by omega
        rwa [same]

/-- The shortest decimal is the point of its grid. -/
theorem point?_shortest {m : Nat} {q : Int} (pos : 0 < m) (range : -1074 ≤ q ∧ q ≤ 971) :
    (Interval.of m q).point? (shortest m q).exponent = some (shortest m q).digits := by
  have inside : (Interval.of m q).low < (Interval.of m q).middle := by
    unfold Interval.of
    dsimp only
    split_ifs <;> omega
  have inside' : (Interval.of m q).middle < (Interval.of m q).high := Nat.lt_add_of_pos_right (by decide)
  have last := isSome_point? inside inside' (gridWeight_le_quarterWeight (Interval.of m q) range)
  exact point?_search (by decide : 47 < 48) last

/-- Every positive double has digits. -/
theorem digits_shortest_pos {m : Nat} {q : Int} (pos : 0 < m) (range : -1074 ≤ q ∧ q ≤ 971) :
    0 < (shortest m q).digits := by
  have low : 0 < (Interval.of m q).low := by
    unfold Interval.of
    dsimp only
    split_ifs <;> omega
  exact pos_of_point? low (point?_shortest pos range)

/-! ## Digits without leading zeros -/

/-- The digits of a positive number do not start with a zero. -/
theorem exists_natDigits_eq_cons {n : Nat} (pos : 0 < n) :
    ∃ d ds, natDigits n = d :: ds ∧ d ≠ '0' := by
  unfold natDigits
  induction n using Nat.strongRecOn with
  | ind n ih =>
    rcases Nat.lt_or_ge n 10 with single | several
    · rw [Nat.toDigits_of_lt_base single]
      have digits : ∀ d < 10, 0 < d → Nat.digitChar d ≠ '0' := by decide
      exact ⟨_, [], rfl, digits n single pos⟩
    · rw [Nat.toDigits_of_base_le (by decide) several]
      obtain ⟨d, ds, front, other⟩ := ih (n / 10) (by omega) (by omega)
      exact ⟨d, ds ++ [Nat.digitChar (n % 10)], by rw [front]; rfl, other⟩

end ResolverWatch.Decimal
