import ResolverWatch.Proofs.Float.Sum
import ResolverWatch.Proofs.Json.Bare
import ResolverWatch.Proofs.Scrape.Parts
import ResolverWatch.Snapshot.Document

/-!
# Sums that overflow

A line whose number is not finite is skipped, but the numbers of several lines are added up without
another look, so a sum can leave the finite range. Then, and only then, a snapshot holds an infinity,
and its document names one (`infinite_iff_overflows`). Nothing else that is not finite ever gets into a
snapshot: the last values are finite, and no number is undefined.
-/

namespace ResolverWatch

open Json Text

namespace Report

/-- Some running sum of the samples is infinite. -/
def Overflows (samples : List Sample) : Prop :=
  ∃ n, (total (samples.take n)).isInf = true

/-! ## The numbers of samples -/

theorem isFinite_of_parse? {line : List Char} {s : Sample} (parsed : Sample.parse? line = some s) :
    s.value.isFinite = true := by
  unfold Sample.parse? at parsed
  simp only [Option.bind_eq_bind, Option.bind_eq_some_iff, Option.pure_def, Option.some.injEq] at parsed
  obtain ⟨_, _, _, _, _, _, _, _, literal, _, _, guarded, rfl⟩ := parsed
  by_contra infinite
  rw [guard, if_neg infinite] at guarded
  contradiction

theorem isFinite_of_mem_samples {text : String} {s : Sample} (mem : s ∈ samples text) : s.value.isFinite = true := by
  obtain ⟨line, _, parsed⟩ := List.mem_filterMap.1 (List.mem_filter.1 mem).1
  exact isFinite_of_parse? parsed

section Finite

variable {samples : List Sample} (finite : ∀ s ∈ samples, s.value.isFinite = true)
include finite

theorem isNaN_total : (total samples).isNaN = false := by
  refine Double.isNaN_sum fun x mem => ?_
  obtain ⟨s, among, rfl⟩ := List.mem_map.1 mem
  exact finite s among

theorem isInf_total_iff : (total samples).isInf = true ↔ Overflows samples := by
  have values : ∀ x ∈ samples.map Sample.value, x.isFinite = true := by
    intro x mem
    obtain ⟨s, among, rfl⟩ := List.mem_map.1 mem
    exact finite s among
  -- A running sum of finite numbers is never undefined, so one that is not finite is infinite.
  have infinite (n : Nat) : (total (samples.take n)).isInf = true ↔
      ¬ (Double.sum ((samples.map Sample.value).take n)).isFinite = true := by
    rw [← List.map_take]
    have number : (total (samples.take n)).isNaN = false := isNaN_total fun s mem => finite s (List.mem_of_mem_take mem)
    rw [Double.isInf_iff, number, Bool.not_eq_true]
    exact and_iff_left rfl
  -- A sum never comes back into the finite range, so the whole one tells whether any running sum left it.
  have whole := infinite samples.length
  rw [List.take_length, ← List.length_map, List.take_length, Double.isFinite_sum_iff values, not_forall] at whole
  rw [whole]
  exact exists_congr fun n => (infinite n).symm

theorem isFinite_latest {x : Float} (last : latest samples = some x) : x.isFinite = true := by
  obtain ⟨s, among, rfl⟩ := List.mem_map.1 (List.mem_of_getLast? last)
  exact finite s among

end Finite

/-! ## The numbers of a snapshot -/

theorem of_mem_breakdown {label : String} {samples : List Sample} {counts : Breakdown}
    (reported : breakdown label samples = some counts) {p : String × Float} (mem : p ∈ counts) :
    p.2 = total (carrying label p.1 samples) := by
  unfold breakdown at reported
  split at reported
  · contradiction
  · rw [Option.some.injEq] at reported
    subst reported
    obtain ⟨k, -, found⟩ := List.mem_filterMap.1 mem
    obtain ⟨x, sum, rfl⟩ := Option.map_eq_some_iff.1 found
    unfold counter at sum
    split_ifs at sum
    exact (Option.some.inj sum).symm

theorem of_mem_split {own : Metric → List Sample} {b : Split} {counts : Breakdown}
    (reported : split own b = some counts) {p : String × Float} (mem : p ∈ counts) :
    p.2 = total (carrying b.label p.1 (own b.metric)) := by
  unfold split breakdownBeside at reported
  split_ifs at reported
  · exact of_mem_breakdown reported mem
  · exact of_mem_breakdown reported mem

variable {text : String}

theorem isFinite_of_mem_of {m : Metric} {s : Sample} (mem : s ∈ of m (samples text)) : s.value.isFinite = true :=
  isFinite_of_mem_samples (List.mem_of_mem_filter mem)

/-- A figure is infinite iff it is a sum and the sum overflows. -/
theorem isInf_figure_iff {f : Figure} {x : Float} (reported : (Scrape.read text.toList).snapshot.figure f = some x) :
    x.isNaN = false ∧ (x.isInf = true ↔ f.isSum = true ∧ Overflows (of f.metric (samples text))) := by
  have finite : ∀ s ∈ of f.metric (samples text), s.value.isFinite = true := fun s => isFinite_of_mem_of
  rw [figure_read] at reported
  unfold figure at reported
  split_ifs at reported with isSum
  · obtain ⟨_, -, rfl⟩ := Option.map_eq_some_iff.1 reported
    refine ⟨isNaN_total finite, ?_⟩
    rw [isInf_total_iff finite]
    exact (and_iff_right isSum).symm
  · have last : x.isFinite = true := isFinite_latest finite reported
    refine ⟨Double.isNaN_of_isFinite last, ?_⟩
    rw [Double.isInf_iff, last]
    simp [isSum]

/-- A count of a breakdown is infinite iff its sum overflows. -/
theorem isInf_split_iff {b : Split} {counts : Breakdown}
    (reported : (Scrape.read text.toList).snapshot.split b = some counts) {p : String × Float} (mem : p ∈ counts) :
    p.2.isNaN = false ∧ (p.2.isInf = true ↔ Overflows (carrying b.label p.1 (of b.metric (samples text)))) := by
  have finite : ∀ s ∈ carrying b.label p.1 (of b.metric (samples text)), s.value.isFinite = true :=
    fun s mem => isFinite_of_mem_of (List.mem_of_mem_filter mem)
  rw [split_read] at reported
  rw [of_mem_split reported mem]
  exact ⟨isNaN_total finite, isInf_total_iff finite⟩

/-! ## The document -/

section Document

variable {s : Snapshot} {x : Float}

theorem mem_reals_breakdown {counts : Breakdown} : x ∈ reals counts.toJson ↔ ∃ p ∈ counts, p.2 = x := by
  show x ∈ realsOfMembers (counts.map fun p => (p.1, .real p.2)) ↔ _
  rw [mem_realsOfMembers]
  simp [reals, eq_comm]

theorem mem_reals_figures :
    x ∈ realsOfMembers (Figure.all.filterMap fun f => (s.figure f).map fun y => member f.name (.real y)) ↔
      ∃ f, s.figure f = some x := by
  rw [mem_realsOfMembers]
  constructor
  · rintro ⟨p, mem, shown⟩
    obtain ⟨f, -, found⟩ := List.mem_filterMap.1 mem
    obtain ⟨y, reported, rfl⟩ := Option.map_eq_some_iff.1 found
    obtain rfl : x = y := by simpa [member, reals] using shown
    exact ⟨f, reported⟩
  · rintro ⟨f, reported⟩
    have listed : f ∈ Figure.all := by cases f <;> decide
    exact ⟨member f.name (.real x), List.mem_filterMap.2 ⟨f, listed, by simp [reported]⟩, by simp [member, reals]⟩

theorem mem_reals_splits :
    x ∈ realsOfMembers (Split.all.filterMap fun b => (s.split b).map fun counts => member b.name counts.toJson) ↔
      ∃ b counts, s.split b = some counts ∧ ∃ p ∈ counts, p.2 = x := by
  rw [mem_realsOfMembers]
  constructor
  · rintro ⟨p, mem, shown⟩
    obtain ⟨b, -, found⟩ := List.mem_filterMap.1 mem
    obtain ⟨counts, reported, rfl⟩ := Option.map_eq_some_iff.1 found
    exact ⟨b, counts, reported, mem_reals_breakdown.1 shown⟩
  · rintro ⟨b, counts, reported, count⟩
    have listed : b ∈ Split.all := by cases b <;> decide
    exact ⟨member b.name counts.toJson, List.mem_filterMap.2 ⟨b, listed, by simp [reported]⟩, mem_reals_breakdown.2 count⟩

/-- The doubles of a snapshot's document are its figures and its counts. -/
theorem mem_reals_toJson :
    x ∈ reals s.toJson ↔
      (∃ f, s.figure f = some x) ∨ ∃ b counts, s.split b = some counts ∧ ∃ p ∈ counts, p.2 = x := by
  have noBlocking : x ∉ realsOfMembers (s.blockingEnabled.map fun b => member "blocking_enabled" (.bool b)).toList := by
    cases s.blockingEnabled <;> simp [member, realsOfMembers, reals]
  have noBuild : x ∉ realsOfMembers (s.build.map fun b => member "build_info" b.toJson).toList := by
    cases s.build <;> simp [member, realsOfMembers, reals, Build.toJson]
  rw [Snapshot.toJson, mem_reals_sortKeys]
  show x ∈ realsOfMembers s.members ↔ _
  unfold Snapshot.members
  rw [realsOfMembers_append, realsOfMembers_append, realsOfMembers_append]
  simp only [List.mem_append, mem_reals_figures, mem_reals_splits, noBlocking, noBuild, or_false]

end Document

/-- A number of a payload's snapshot is never undefined, and it is infinite iff it is a sum that overflowed on
the way. The document names no undefined value, and it names infinity iff one of its numbers is infinite. -/
theorem infinite_iff_overflows (text : String) :
    let s := (Scrape.read text.toList).snapshot
    (∀ f x, s.figure f = some x →
      x.isNaN = false ∧ (x.isInf = true ↔ f.isSum = true ∧ Overflows (of f.metric (samples text)))) ∧
    (∀ b counts, s.split b = some counts → ∀ p ∈ counts,
      p.2.isNaN = false ∧ (p.2.isInf = true ↔ Overflows (carrying b.label p.1 (of b.metric (samples text))))) ∧
    occursIn "NaN".toList (bare s.toText.toList) = false ∧
    (occursIn "Infinity".toList (bare s.toText.toList) = true ↔
      (∃ f x, s.figure f = some x ∧ x.isInf = true) ∨
      ∃ b counts, s.split b = some counts ∧ ∃ p ∈ counts, p.2.isInf = true) := by
  intro s
  have written : s.toText.toList = s.toJson.render := String.toList_ofList
  refine ⟨fun f x => isInf_figure_iff, fun b counts reported p => isInf_split_iff reported, ?_, ?_⟩
  · rw [written, ← Bool.not_eq_true, occursIn_undefined_iff]
    rintro ⟨x, mem, undefined⟩
    rcases mem_reals_toJson.1 mem with ⟨f, reported⟩ | ⟨b, counts, reported, p, among, rfl⟩
    · rw [(isInf_figure_iff reported).1] at undefined
      contradiction
    · rw [(isInf_split_iff reported among).1] at undefined
      contradiction
  · rw [written, occursIn_infinity_iff]
    constructor
    · rintro ⟨x, mem, infinite⟩
      rcases mem_reals_toJson.1 mem with ⟨f, reported⟩ | ⟨b, counts, reported, p, among, rfl⟩
      · exact .inl ⟨f, x, reported, infinite⟩
      · exact .inr ⟨b, counts, reported, p, among, infinite⟩
    · rintro (⟨f, x, reported, infinite⟩ | ⟨b, counts, reported, p, among, infinite⟩)
      · exact ⟨x, mem_reals_toJson.2 (.inl ⟨f, reported⟩), infinite⟩
      · exact ⟨p.2, mem_reals_toJson.2 (.inr ⟨b, counts, reported, p, among, rfl⟩), infinite⟩

/-- Two finite numbers of queries add up to an infinite one, which the document names. -/
theorem infinite_queries_of_twoLines :
    let s := (Scrape.read "blocky_query_total 1e308\nblocky_query_total 1e308".toList).snapshot
    s.queries.map Float.isInf = some true ∧ s.toText = "\x7b\"total_queries\":Infinity\x7d" := by
  decide +kernel

end Report

end ResolverWatch
