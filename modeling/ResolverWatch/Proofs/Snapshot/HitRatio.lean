import ResolverWatch.Proofs.Float.Monotone
import ResolverWatch.Proofs.History.Finite

/-!
# The share of cache look-ups that were hits

A payload reports hits and misses only if they are positive, so where one of them is reported there are look-ups to
divide by, even if hits or misses are lost in rounding the sum, or the sum leaves the finite range. Since rounding is
monotone, the share lies between zero and one (`hitRatio_bounds`).
-/

namespace ResolverWatch

namespace Double

section Share

variable {x y : Float} (finite : x.isFinite = true) (finite' : y.isFinite = true) (nonneg : 0.0 ≤ x) (nonneg' : 0.0 ≤ y)
include finite finite' nonneg nonneg'

/-- No part is greater than the sum. -/
theorem value_le_add (bounded : (x + y).isFinite = true) :
    value x ≤ value (x + y) ∧ value y ≤ value (x + y) := by
  obtain ⟨negative, nearest⟩ := nearest_add finite finite'
  have least := (le_iff_value (by rfl) finite).1 nonneg
  have least' := (le_iff_value (by rfl) finite').1 nonneg'
  rw [value_zero] at least least'
  exact ⟨nearest.le_value bounded finite (by linarith), nearest.le_value bounded finite' (by linarith)⟩

/-- A sum is positive if one of its parts is, however it is rounded. -/
theorem pos_add (pos : 0.0 < x ∨ 0.0 < y) : 0.0 < x + y := by
  cases bounded : (x + y).isFinite with
  | true =>
    obtain ⟨le, le'⟩ := value_le_add finite finite' nonneg nonneg' bounded
    rw [lt_iff_value (by rfl) finite, lt_iff_value (by rfl) finite'] at pos
    rw [lt_iff_value (by rfl) bounded]
    rcases pos with pos | pos
    · exact pos.trans_le le
    · exact pos.trans_le le'
  | false =>
    have sum := (le_iff_nonNegative _).1 (nonneg_add nonneg nonneg')
    have infinite := (isInf_iff (x + y)).2 ⟨bounded, isNaN_add finite finite'⟩
    change (x + y).toModel.unpack.isInf = true at infinite
    have zero : (0.0 : Float).toModel.unpack = .zero .positive := by rfl
    rw [lt_iff, zero]
    revert sum infinite
    cases (x + y).toModel.unpack with
    | notANumber | zero | finite => exact fun _ => nofun
    | infinity s =>
      rintro (rfl : s = .positive) -
      rfl

/-- The share of a part in a sum lies between zero and one. -/
theorem share_bounds (plain : isNegative x.toModel.unpack = false) (pos : 0.0 < x ∨ 0.0 < y) :
    (x / (x + y)).isFinite = true ∧ 0.0 ≤ x / (x + y) ∧ x / (x + y) ≤ 1.0 ∧
      ((x + y).isInf = true → x / (x + y) = 0.0) := by
  have total := pos_add finite finite' nonneg nonneg' pos
  cases bounded : (x + y).isFinite with
  | true =>
    have le := (value_le_add finite finite' nonneg nonneg' bounded).1
    have least := (le_iff_value (by rfl) finite).1 nonneg
    rw [lt_iff_value (by rfl) bounded] at total
    rw [value_zero] at least total
    obtain ⟨negative, nearest⟩ := nearest_quotient finite bounded total.ne'
    have share : 0 ≤ value x / value (x + y) := div_nonneg least total.le
    have share' : value x / value (x + y) ≤ 1 := (div_le_one total).2 le
    have one : value 1.0 = 1 := by decide +kernel
    have small : (x / (x + y)).isFinite = true := by
      rw [nearest.finite_iff, abs_of_nonneg share]
      have below := abs_value_lt_overflow (x := 1.0) (by rfl)
      rw [one, abs_one] at below
      exact share'.trans_lt below
    refine ⟨small, ?_, ?_, ?_⟩
    · rw [le_iff_value (by rfl) small]
      exact nearest.le_value small (by rfl) (value_zero.trans_le share)
    · rw [le_iff_value small (by rfl)]
      exact nearest.value_le small (by rfl) (share'.trans_eq one.symm)
    · intro infinite
      have unbounded := ((isInf_iff _).1 infinite).1
      rw [bounded] at unbounded
      contradiction
  | false =>
    have infinite := (isInf_iff (x + y)).2 ⟨bounded, isNaN_add finite finite'⟩
    rw [div_infinity finite plain infinite (le_of_lt total)]
    exact ⟨by rfl, by decide +kernel, by decide +kernel, fun _ => rfl⟩

end Share

end Double

open Double

theorem orZero_of_pos {x : Float} (pos : 0.0 < x) : orZero (some x) = x := by
  show (if (x == 0.0) = true then 0.0 else x) = x
  rw [if_neg]
  rw [beq_zero_of_lt pos]
  exact Bool.false_ne_true

/-- A part that counts something: if it is reported, it is positive and finite. -/
def IsCount (part : Option Float) : Prop :=
  ∀ x, part = some x → x.isFinite = true ∧ 0.0 < x

section IsCount

variable {part : Option Float} (count : IsCount part)
include count

theorem IsCount.isFinite_orZero : (orZero part).isFinite = true := by
  cases part with
  | none => rfl
  | some x =>
    obtain ⟨finite, pos⟩ := count x rfl
    rwa [orZero_of_pos pos]

theorem IsCount.isNegative_orZero : isNegative (orZero part).toModel.unpack = false := by
  cases part with
  | none => rfl
  | some x =>
    have pos := (count x rfl).2
    rw [orZero_of_pos pos]
    exact isNegative_of_lt pos

theorem IsCount.nonneg_orZero : 0.0 ≤ orZero part :=
  ResolverWatch.nonneg_orZero fun x reported => (count x reported).2

theorem IsCount.pos_orZero (reported : part ≠ none) : 0.0 < orZero part := by
  obtain ⟨x, rfl⟩ := Option.ne_none_iff_exists'.1 reported
  have pos := (count x rfl).2
  rwa [orZero_of_pos pos]

end IsCount

namespace Snapshot

/-- The number of cache look-ups; a part that is not reported counts as zero. -/
def lookups (s : Snapshot) : Float :=
  orZero s.cacheHits + orZero s.cacheMisses

variable {s : Snapshot}

theorem hitRatio_of_none (hits : s.cacheHits = none) (misses : s.cacheMisses = none) : s.hitRatio = none := by
  unfold hitRatio
  rw [hits, misses]

/-- Where look-ups are counted, the share is the quotient of hits and look-ups. -/
theorem hitRatio_of_pos (reported : ¬ (s.cacheHits = none ∧ s.cacheMisses = none)) (pos : 0.0 < s.lookups) :
    s.hitRatio = some (orZero s.cacheHits / s.lookups) := by
  unfold hitRatio
  split
  · next hits misses => exact absurd ⟨hits, misses⟩ reported
  · exact if_neg fun le => not_lt_of_le le pos

end Snapshot

/-- The share of cache look-ups that were hits is missing iff neither hits nor misses are reported. Otherwise, if both
are finite, it is a quotient by a positive number of look-ups, and it lies between zero and one; it is zero if the
number of look-ups is infinite. -/
theorem Scrape.hitRatio_bounds (text : List Char)
    (hits : ∀ x, (Scrape.read text).snapshot.cacheHits = some x → x.isFinite = true)
    (misses : ∀ x, (Scrape.read text).snapshot.cacheMisses = some x → x.isFinite = true) :
    let s := (Scrape.read text).snapshot
    (s.hitRatio = none ↔ s.cacheHits = none ∧ s.cacheMisses = none) ∧
      ∀ r, s.hitRatio = some r →
        0.0 < s.lookups ∧ r = orZero s.cacheHits / s.lookups ∧
        r.isNaN = false ∧ 0.0 ≤ r ∧ r ≤ 1.0 ∧ (s.lookups.isInf = true → r = 0.0) := by
  intro s
  have countHits : IsCount s.cacheHits := fun x reported => ⟨hits x reported, pos_of_positive? reported⟩
  have countMisses : IsCount s.cacheMisses := fun x reported => ⟨misses x reported, pos_of_positive? reported⟩
  by_cases missing : s.cacheHits = none ∧ s.cacheMisses = none
  · have none := Snapshot.hitRatio_of_none missing.1 missing.2
    rw [none]
    exact ⟨iff_of_true rfl missing, nofun⟩
  · have part : 0.0 < orZero s.cacheHits ∨ 0.0 < orZero s.cacheMisses := by
      rcases not_and_or.1 missing with reported | reported
      · exact .inl (countHits.pos_orZero reported)
      · exact .inr (countMisses.pos_orZero reported)
    have pos : 0.0 < s.lookups := pos_add countHits.isFinite_orZero countMisses.isFinite_orZero
      countHits.nonneg_orZero countMisses.nonneg_orZero part
    obtain ⟨finite, least, most, overflown⟩ := share_bounds countHits.isFinite_orZero countMisses.isFinite_orZero
      countHits.nonneg_orZero countMisses.nonneg_orZero countHits.isNegative_orZero part
    rw [Snapshot.hitRatio_of_pos missing pos]
    refine ⟨iff_of_false (by simp) missing, fun r found => ?_⟩
    obtain rfl := Option.some.inj found
    exact ⟨pos, rfl, isNaN_of_isFinite finite, least, most, overflown⟩

/-- Finite hits and misses may add up to infinitely many look-ups, of which the hits are no share. -/
theorem Scrape.hitRatio_bounds_overflown :
    let s := (Scrape.read "blocky_cache_hits_total 1e308\nblocky_cache_misses_total 1e308".toList).snapshot
    s.cacheHits = some 1e308 ∧ s.cacheMisses = some 1e308 ∧ s.lookups.isInf = true ∧ s.hitRatio = some 0.0 ∧
      ((s.hitRatio = none ↔ s.cacheHits = none ∧ s.cacheMisses = none) ∧
        ∀ r, s.hitRatio = some r →
          0.0 < s.lookups ∧ r = orZero s.cacheHits / s.lookups ∧
          r.isNaN = false ∧ 0.0 ≤ r ∧ r ≤ 1.0 ∧ (s.lookups.isInf = true → r = 0.0)) := by
  intro s
  have hits : s.cacheHits = some 1e308 := by decide +kernel
  have misses : s.cacheMisses = some 1e308 := by decide +kernel
  have large {part : Option Float} (told : part = some 1e308) (x : Float) (reported : part = some x) :
      x.isFinite = true := by
    obtain rfl : 1e308 = x := Option.some.inj (told.symm.trans reported)
    decide +kernel
  refine ⟨hits, misses, by decide +kernel, by decide +kernel, ?_⟩
  exact Scrape.hitRatio_bounds _ (large hits) (large misses)

end ResolverWatch
