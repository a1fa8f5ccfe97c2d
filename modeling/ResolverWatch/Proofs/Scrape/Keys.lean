import ResolverWatch.Proofs.Scrape.Parts

/-!
# The keys of a breakdown

A breakdown that is read off samples gives each value of its label once, so no key occurs twice in a snapshot that is
read (`Scrape.keysDistinct_read`).
-/

namespace ResolverWatch

/-- No key occurs twice. -/
def Breakdown.KeysDistinct {κ : Type} (b : Breakdown κ) : Prop :=
  (b.map Prod.fst).Nodup

/-- No key occurs twice in a breakdown of the snapshot. -/
def Snapshot.KeysDistinct {κ : Type} (s : Snapshot κ) : Prop :=
  ∀ f b, s.split f = some b → b.KeysDistinct

namespace Report

theorem keysDistinct_breakdown {label : String} {samples : List Sample} {b : Breakdown}
    (reported : breakdown label samples = some b) : b.KeysDistinct := by
  have counts : b = (keys label samples).filterMap fun k =>
      (counter (carrying label k samples)).map fun x => (k, x) := by
    unfold breakdown at reported
    split at reported
    · contradiction
    · exact (Option.some.inj reported).symm
  unfold Breakdown.KeysDistinct
  rw [counts, List.map_filterMap]
  refine (nodup_keys label samples).filterMap ?_
  intro k l key mem mem'
  obtain ⟨x, -, rfl⟩ : ∃ x, counter (carrying label k samples) = some x ∧ k = key := by simpa using mem
  obtain ⟨y, -, rfl⟩ : ∃ y, counter (carrying label l samples) = some y ∧ l = k := by simpa using mem'
  rfl

theorem keysDistinct_split {own : Metric → List Sample} {f : Split} {b : Breakdown}
    (reported : split own f = some b) : b.KeysDistinct := by
  unfold split breakdownBeside at reported
  split_ifs at reported
  · exact keysDistinct_breakdown reported
  · exact keysDistinct_breakdown reported

end Report

/-- No key occurs twice in a breakdown of a snapshot that is read. -/
theorem Scrape.keysDistinct_read (text : String) : (Scrape.read text.toList).snapshot.KeysDistinct := by
  intro f b reported
  rw [Report.split_read] at reported
  exact Report.keysDistinct_split reported

end ResolverWatch
