import ResolverWatch.Proofs.Float.Whole
import ResolverWatch.Proofs.Scrape.Overflow

/-!
# Breakdowns lose nothing

A sample of queries or of responses counts for the total and, if it has the label of a breakdown, for one of its keys.
So the total is the sum of the reported counts and of the samples without the label. Doubles are rounded when they are
added, but whole numbers are not as long as their sum is at most `2 ^ 53`: up to there the two sides are the same
double, in whatever order the numbers are added (`split_conserves`).
-/

namespace ResolverWatch

/-- The total that a breakdown of queries or of responses divides. -/
def Split.total? : Split → Option Figure
  | .denylistEntries | .allowlistEntries => none
  | .queriesByClient | .queriesByType => some .queries
  | .responsesByReason | .responsesByType | .responsesByCode => some .responses

namespace Report

open Double

/-! ## Exact sums -/

/-- The exact sum of the values. -/
def amount (samples : List Sample) : ℚ :=
  (samples.map fun s => value s.value).sum

theorem amount_eq_sum_values (samples : List Sample) : amount samples = ((samples.map Sample.value).map value).sum := by
  rw [amount, List.map_map]
  rfl

theorem amount_carrying_cons (label key : String) (s : Sample) (samples : List Sample) :
    amount (carrying label key (s :: samples)) =
      (if labelOf label s = key then value s.value else 0) + amount (carrying label key samples) := by
  unfold carrying amount
  split_ifs with carries
  · rw [List.filter_cons_of_pos (by simpa using carries), List.map_cons, List.sum_cons]
  · rw [List.filter_cons_of_neg (by simpa using carries), zero_add]

/-- Each sample has one value of the label, so the sums of the different values add up to the sum of all samples. -/
theorem sum_amount_carrying {label : String} {names : List String} (nodup : names.Nodup) {samples : List Sample}
    (named : ∀ s ∈ samples, labelOf label s ∈ names) :
    (names.map fun k => amount (carrying label k samples)).sum = amount samples := by
  induction samples with
  | nil => exact List.sum_eq_zero (by simp [carrying, amount])
  | cons s samples ih =>
    obtain ⟨first, later⟩ := List.forall_mem_cons.1 named
    have once : (names.map fun k => if labelOf label s = k then value s.value else 0).sum = value s.value := by
      rw [← List.sum_toFinset _ nodup, Finset.sum_ite_eq, if_pos (List.mem_toFinset.2 first)]
    simp only [amount_carrying_cons]
    rw [List.sum_map_add, once, ih later, amount, amount, List.map_cons, List.sum_cons]

/-- The samples with a key and those without one add up to all samples. -/
theorem amount_eq_keys_add (label : String) (samples : List Sample) :
    amount samples =
      ((keys label samples).map fun k => amount (carrying label k samples)).sum +
        amount (carrying label "" samples) := by
  have nodup : ("" :: keys label samples).Nodup :=
    List.nodup_cons.2 ⟨fun mem => ne_empty_of_mem_keys mem rfl, nodup_keys label samples⟩
  have named : ∀ s ∈ samples, labelOf label s ∈ "" :: keys label samples := by
    intro s mem
    by_cases empty : labelOf label s = ""
    · exact List.mem_cons.2 (.inl empty)
    · refine List.mem_cons.2 (.inr (List.mem_eraseDups.2 (List.mem_filter.2 ⟨List.mem_map_of_mem mem, ?_⟩)))
      simpa using empty
  rw [← sum_amount_carrying nodup named, List.map_cons, List.sum_cons, add_comm]

/-! ## Counts of whole numbers -/

/-- The samples are whole numbers whose sum is at most `2 ^ 53`. -/
structure Exact (samples : List Sample) : Prop where
  whole : ∀ s ∈ samples, IsWhole s.value
  most : amount samples ≤ 2 ^ 53

section Exact

variable {samples : List Sample} (exact : Exact samples)
include exact

theorem Exact.amount_nonneg : 0 ≤ amount samples := by
  apply List.sum_nonneg
  intro q mem
  obtain ⟨s, among, rfl⟩ := List.mem_map.1 mem
  exact (exact.whole s among).nonneg

theorem Exact.amount_carrying_le (label key : String) : amount (carrying label key samples) ≤ amount samples := by
  apply List.Sublist.sum_le_sum (List.filter_sublist.map _)
  intro q mem
  obtain ⟨s, among, rfl⟩ := List.mem_map.1 mem
  exact (exact.whole s among).nonneg

theorem Exact.carrying (label key : String) : Exact (carrying label key samples) where
  whole s mem := exact.whole s (List.mem_of_mem_filter mem)
  most := (exact.amount_carrying_le label key).trans exact.most

theorem Exact.isWhole_of_mem_values {x : Float} (mem : x ∈ samples.map Sample.value) : IsWhole x := by
  obtain ⟨s, among, rfl⟩ := List.mem_map.1 mem
  exact exact.whole s among

theorem Exact.isWhole_total : IsWhole (total samples) ∧ value (total samples) = amount samples ∧
    isNegative (total samples).toModel.unpack = false := by
  rw [amount_eq_sum_values]
  exact value_sum (fun x => exact.isWhole_of_mem_values) (amount_eq_sum_values samples ▸ exact.most)

/-- A count is reported unless it is zero. -/
theorem Exact.counter_cases :
    (counter samples = some (total samples) ∧ (total samples == 0.0) = false) ∨
      counter samples = none ∧ total samples = 0.0 := by
  obtain ⟨whole, -, positive⟩ := exact.isWhole_total
  rcases eq_zero_or_pos whole.finite positive with zero | ⟨pos, nonzero⟩
  · refine .inr ⟨?_, zero⟩
    rw [counter, zero, if_neg (by decide +kernel)]
  · exact .inl ⟨if_pos pos, nonzero⟩

theorem Exact.orZero_counter : orZero (counter samples) = total samples := by
  rcases exact.counter_cases with ⟨reported, nonzero⟩ | ⟨unreported, zero⟩
  · rw [reported, orZero, if_neg (by simp [nonzero])]
  · rw [unreported, zero]
    rfl

/-- What is not reported is zero, so the reported counts add up to the sums of all keys. -/
theorem Exact.sum_reported (label : String) (names : List String) :
    ((names.filterMap fun k => (counter (Report.carrying label k samples)).map fun x => (k, x)).map
        fun p => value p.2).sum = (names.map fun k => amount (Report.carrying label k samples)).sum := by
  induction names with
  | nil => rfl
  | cons k names ih =>
    have own := exact.carrying label k
    rw [List.map_cons, List.sum_cons, ← own.isWhole_total.2.1, ← ih]
    rcases own.counter_cases with ⟨reported, -⟩ | ⟨unreported, zero⟩
    · rw [List.filterMap_cons_some (by rw [reported]; rfl), List.map_cons, List.sum_cons]
    · rw [List.filterMap_cons_none (by rw [unreported]; rfl), zero, value_zero, zero_add]

/-- The total is the sum of the reported counts and of the samples without the label. -/
theorem Exact.amount_eq_reported_add (label : String) :
    amount samples =
      (((breakdownBeside label samples).getD []).map fun p => value p.2).sum +
        amount (Report.carrying label "" samples) := by
  obtain ⟨-, same, -⟩ := exact.isWhole_total
  rcases exact.counter_cases with ⟨reported, -⟩ | ⟨unreported, zero⟩
  · have pos : 0.0 < total samples := by
      by_contra none
      rw [counter, if_neg none] at reported
      contradiction
    have counts : (breakdownBeside label samples).getD [] = (keys label samples).filterMap fun k =>
        (counter (Report.carrying label k samples)).map fun x => (k, x) := by
      rw [breakdownBeside, if_pos pos, breakdown]
      split
      · next empty => exact empty.symm
      · rfl
    rw [counts, exact.sum_reported label, ← amount_eq_keys_add]
  · -- All samples are zeros, so those without the label are, and nothing else is reported.
    have nothing : amount samples = 0 := by rw [← same, zero, value_zero]
    have without := exact.amount_carrying_le label ""
    have none : breakdownBeside label samples = none := by
      rw [breakdownBeside, zero, if_neg (by decide +kernel)]
    rw [none, nothing]
    exact le_antisymm (by simpa using (exact.carrying label "").amount_nonneg) (by simpa [nothing] using without)

end Exact

/-! ## The breakdowns of a payload -/

/-- The total and the breakdown are read off the same samples. -/
theorem read_of_total? (text : String) {b : Split} {f : Figure} (divides : b.total? = some f) :
    (Scrape.read text.toList).snapshot.figure f = counter (of b.metric (samples text)) ∧
      (Scrape.read text.toList).snapshot.split b = breakdownBeside b.label (of b.metric (samples text)) := by
  have own (xs : List Sample) : (counter xs).map (fun _ => total xs) = counter xs := by
    unfold counter
    split_ifs <;> rfl
  rw [figure_read, split_read]
  cases b with
  | denylistEntries | allowlistEntries => contradiction
  | queriesByClient | queriesByType | responsesByReason | responsesByType | responsesByCode =>
    cases divides
    exact ⟨own _, rfl⟩

/-- The reported counts are whole numbers too. -/
theorem Exact.isWhole_of_mem {label : String} {samples : List Sample} (exact : Exact samples) {p : String × Float}
    (mem : p ∈ (breakdownBeside label samples).getD []) : IsWhole p.2 := by
  cases reported : breakdownBeside label samples with
  | none =>
    rw [reported] at mem
    contradiction
  | some counts =>
    rw [reported] at mem
    unfold breakdownBeside at reported
    split_ifs at reported
    rw [of_mem_breakdown reported mem]
    exact (exact.carrying label p.1).isWhole_total.1

/-- If the queries, or the responses, of a payload are whole numbers whose sum is at most `2 ^ 53`, their reported total
is a whole number, and so is each count of a breakdown. The total is exactly the sum of all samples, and exactly that of
the counts and of the samples whose label is missing or empty; and adding the latter up in any order gives the total. -/
theorem split_conserves (text : String) {b : Split} {f : Figure} (divides : b.total? = some f)
    (exact : Exact (of b.metric (samples text))) :
    let snapshot := (Scrape.read text.toList).snapshot
    let counts := (snapshot.split b).getD []
    let unlabelled := carrying b.label "" (of b.metric (samples text))
    IsWhole (orZero (snapshot.figure f)) ∧ (∀ p ∈ counts, IsWhole p.2) ∧
      value (orZero (snapshot.figure f)) = amount (of b.metric (samples text)) ∧
      value (orZero (snapshot.figure f)) = (counts.map fun p => value p.2).sum + amount unlabelled ∧
      ∀ xs : List Float, xs.Perm (counts.map Prod.snd ++ unlabelled.map Sample.value) →
        Double.sum xs = orZero (snapshot.figure f) := by
  obtain ⟨figure, split⟩ := read_of_total? text divides
  intro snapshot counts unlabelled
  have reported : orZero (snapshot.figure f) = total (of b.metric (samples text)) :=
    (congrArg orZero figure).trans exact.orZero_counter
  obtain ⟨whole, same, -⟩ := exact.isWhole_total
  have parts : amount (of b.metric (samples text)) = (counts.map fun p => value p.2).sum + amount unlabelled := by
    rw [exact.amount_eq_reported_add b.label, ← split]
  have wholeCounts : ∀ p ∈ counts, IsWhole p.2 := by
    intro p mem
    apply exact.isWhole_of_mem
    rwa [← split]
  rw [reported]
  refine ⟨whole, wholeCounts, same, same.trans parts, ?_⟩
  intro xs order
  have wholeParts : ∀ x ∈ xs, IsWhole x := by
    intro x mem
    rcases List.mem_append.1 (order.mem_iff.1 mem) with among | among
    · obtain ⟨p, counted, rfl⟩ := List.mem_map.1 among
      exact wholeCounts p counted
    · exact (exact.carrying b.label "").isWhole_of_mem_values among
  have sum : (xs.map value).sum = amount (of b.metric (samples text)) := by
    rw [(order.map value).sum_eq, parts, List.map_append, List.sum_append, ← amount_eq_sum_values, List.map_map]
    rfl
  exact sum_eq_of_value wholeParts (sum ▸ exact.most) (fun x => exact.isWhole_of_mem_values)
    (sum.trans (amount_eq_sum_values _))

/-- Two clients and a query without one. -/
theorem split_conserves_threeQueries :
    let text :=
      "blocky_query_total\x7bclient=\"a\"\x7d 2\nblocky_query_total\x7bclient=\"b\"\x7d 3\nblocky_query_total 4"
    Split.total? .queriesByClient = some .queries ∧ Exact (of .queries (samples text)) ∧
      ∀ xs : List Float, xs.Perm [2.0, 3.0, 4.0] →
        Double.sum xs = orZero ((Scrape.read text.toList).snapshot.figure .queries) := by
  intro text
  have values : (of .queries (samples text)).map Sample.value = [2.0, 3.0, 4.0] := by decide +kernel
  have exact : Exact (of .queries (samples text)) := by
    constructor
    · intro s mem
      have among := List.mem_map_of_mem (f := Sample.value) mem
      rw [values] at among
      simp only [List.mem_cons, List.not_mem_nil, or_false] at among
      rcases among with two | three | four
      · exact two ▸ ⟨by decide +kernel, 2, by decide +kernel⟩
      · exact three ▸ ⟨by decide +kernel, 3, by decide +kernel⟩
      · exact four ▸ ⟨by decide +kernel, 4, by decide +kernel⟩
    · rw [amount_eq_sum_values, values]
      decide +kernel
  refine ⟨rfl, exact, fun xs order => ?_⟩
  have parts : (((Scrape.read text.toList).snapshot.split .queriesByClient).getD []).map Prod.snd ++
      (carrying "client" "" (of .queries (samples text))).map Sample.value = [2.0, 3.0, 4.0] := by decide +kernel
  apply (split_conserves text (b := .queriesByClient) rfl exact).2.2.2.2
  exact parts ▸ order

end Report

end ResolverWatch
