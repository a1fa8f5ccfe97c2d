import ResolverWatch.Proofs.Float.Difference
import ResolverWatch.Proofs.History.Figures
import ResolverWatch.Proofs.Json.Bare
import ResolverWatch.Scrape

/-!
# When what a history tells is finite

The counts of a scrape are never negative, and the difference of two finite ones is finite. So every double of a
history's document is finite if the times and the counts of its entries are (`isFinite_of_mem_reals`).
-/

namespace ResolverWatch

open Json

/-! ## Counts are not negative -/

theorem nonneg_orZero {x : Option Float} (positive : ∀ y, x = some y → 0.0 < y) : 0.0 ≤ orZero x := by
  have zero : (0.0 : Float) ≤ 0.0 := by decide +kernel
  unfold orZero
  cases x with
  | none => exact zero
  | some y =>
    dsimp only
    split_ifs
    · exact zero
    · exact Double.le_of_lt (positive y rfl)

theorem nonneg_sumMarked {b : Breakdown} (positive : ∀ p ∈ b, 0.0 < p.2) (marker : String) :
    0.0 ≤ b.sumMarked marker := by
  unfold Breakdown.sumMarked
  dsimp only
  have running : ∀ (b : Breakdown) (total : Float), (∀ p ∈ b, 0.0 < p.2) → 0.0 ≤ total →
      0.0 ≤ b.foldl (fun total p =>
        if Text.occursIn (Text.lower marker.toList) (Text.lower p.1.toList) then total + p.2 else total) total := by
    intro b
    induction b with
    | nil => exact fun _ _ nonneg => nonneg
    | cons p rest ih =>
      intro total positive nonneg
      obtain ⟨first, later⟩ := List.forall_mem_cons.1 positive
      refine ih _ later ?_
      dsimp only
      split_ifs
      · exact Double.nonneg_add nonneg (Double.le_of_lt first)
      · exact nonneg
  exact running b 0.0 positive (by decide +kernel)

theorem pos_of_positive? {x y : Float} (reported : positive? x = some y) : 0.0 < y := by
  unfold positive? at reported
  split_ifs at reported with pos
  rwa [← Option.some.inj reported]

theorem pos_of_mem_beside? {b counts : Breakdown} {total : Option Float} (reported : b.beside? total = some counts)
    {p : String × Float} (mem : p ∈ counts) : 0.0 < p.2 := by
  unfold Breakdown.beside? Breakdown.positive? at reported
  dsimp only at reported
  split_ifs at reported
  rw [← Option.some.inj reported] at mem
  exact of_decide_eq_true (List.mem_filter.1 mem).2

variable (text : List Char)

/-- The number of queries that a payload reports is not negative. -/
theorem nonneg_queries_read : 0.0 ≤ orZero (Scrape.read text).snapshot.queries :=
  nonneg_orZero fun _ reported => pos_of_positive? reported

/-- The number of blocked responses that a payload reports is not negative. -/
theorem nonneg_blocked_read (marker : String) : 0.0 ≤ (Scrape.read text).snapshot.blocked marker := by
  unfold Snapshot.blocked
  split
  · next counts reported => exact nonneg_sumMarked (fun p mem => pos_of_mem_beside? reported mem) marker
  · decide +kernel

/-! ## Differences of counts -/

/-- The time of an entry is finite, and so are its counts, which are not negative. -/
structure Entry.Finite (marker : String) (e : Entry) : Prop where
  time : e.time.isFinite = true
  queries : (orZero e.snapshot.queries).isFinite = true
  blocked : (e.snapshot.blocked marker).isFinite = true
  nonneg : 0.0 ≤ orZero e.snapshot.queries ∧ 0.0 ≤ e.snapshot.blocked marker

theorem Entry.Finite.isFinite_point {marker : String} {a b : Entry} (older : a.Finite marker) (newer : b.Finite marker)
    {p : ActivityPoint} (point : ActivityPoint.between? marker a b = some p) :
    p.time.isFinite = true ∧ p.total.isFinite = true ∧ p.blocked.isFinite = true := by
  unfold ActivityPoint.between? at point
  dsimp only at point
  split_ifs at point
  rw [← Option.some.inj point]
  exact ⟨newer.time, Double.isFinite_sub newer.queries older.queries newer.nonneg.1 older.nonneg.1,
    Double.isFinite_sub newer.blocked older.blocked newer.nonneg.2 older.nonneg.2⟩

namespace History

/-- The doubles of a history's document are those of its points and its two differences. -/
theorem mem_reals_toJson_iff {h : History} {x : Float} :
    x ∈ reals h.toJson ↔
      (∃ p ∈ h.activity, x = p.time ∨ x = p.total ∨ x = p.blocked) ∨ h.queriesDelta.value? = some x ∨
        h.blockedDelta.value? = some x := by
  have delta (d : Delta) : x ∈ reals d.toJson ↔ d.value? = some x := by
    unfold Delta.toJson
    cases d.value? <;> simp [reals, eq_comm]
  have items : ∀ ps : List ActivityPoint, x ∈ realsOfItems (ps.map ActivityPoint.toJson) ↔
      ∃ p ∈ ps, x = p.time ∨ x = p.total ∨ x = p.blocked := by
    intro ps
    induction ps with
    | nil => simp [realsOfItems]
    | cons p ps ih => simp [realsOfItems, ih, ActivityPoint.toJson, reals, realsOfMembers, or_assoc]
  rw [← items, ← delta, ← delta]
  simp [toJson, reals, realsOfMembers]

variable {h : History}

theorem isFinite_of_delta {extract : Snapshot → Float}
    (finite : ∀ e ∈ h.entries, (extract e.snapshot).isFinite = true ∧ 0.0 ≤ extract e.snapshot) {d : Float}
    (told : (h.delta extract).value? = some d) : d.isFinite = true := by
  have value : h.delta extract = .value d := by
    unfold Delta.value? at told
    split at told
    · next same => rw [same, Option.some.inj told]
    · contradiction
  obtain ⟨older, a, b, split, rfl⟩ := exists_newest_of_delta (.inl value)
  obtain ⟨finiteA, nonnegA⟩ := finite a (by simp [split])
  obtain ⟨finiteB, nonnegB⟩ := finite b (by simp [split])
  exact Double.isFinite_sub finiteB finiteA nonnegB nonnegA

/-- What a history tells is finite if its entries are. -/
theorem isFinite_of_mem_reals (finite : ∀ e ∈ h.entries, e.Finite h.marker) {x : Float} (mem : x ∈ reals h.toJson) :
    x.isFinite = true := by
  rcases mem_reals_toJson_iff.1 mem with ⟨p, among, part⟩ | queries | blocked
  · obtain ⟨older, a, b, newer, split, point⟩ := ActivityPoint.exists_neighbours_of_mem_series among
    obtain ⟨time, total, blocked⟩ :=
      (finite a (by simp [split])).isFinite_point (finite b (by simp [split])) point
    rcases part with rfl | rfl | rfl
    · exact time
    · exact total
    · exact blocked
  · have told : (h.delta fun s => orZero s.queries).value? = some x := queries
    refine isFinite_of_delta ?_ told
    exact fun e among => ⟨(finite e among).queries, (finite e among).nonneg.1⟩
  · have told : (h.delta fun s => s.blocked h.marker).value? = some x := blocked
    refine isFinite_of_delta ?_ told
    exact fun e among => ⟨(finite e among).blocked, (finite e among).nonneg.2⟩

end History

end ResolverWatch
