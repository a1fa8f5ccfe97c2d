import Mathlib.Data.List.Induction
import Mathlib.Data.List.Nodup
import ResolverWatch.Scrape

/-!
# Breakdowns as sums by key

Counting samples one by one into a breakdown gives each value of the label that is not empty, in the
order of first occurrence, with the sum of the samples that carry it (`foldl_addSample`).
-/

namespace ResolverWatch.Report

theorem eraseDups_concat {α : Type} [DecidableEq α] (xs : List α) (x : α) :
    (xs ++ [x]).eraseDups = if x ∈ xs then xs.eraseDups else xs.eraseDups ++ [x] := by
  rw [List.eraseDups_append]
  split_ifs with mem <;> simp [List.removeAll, List.eraseDups_cons, mem]

theorem nodup_eraseDups {α : Type} [DecidableEq α] (xs : List α) : xs.eraseDups.Nodup := by
  induction xs using List.reverseRecOn with
  | nil => simp
  | append_singleton xs x ih =>
    rw [eraseDups_concat]
    split_ifs with mem
    · exact ih
    · rw [← List.concat_eq_append]
      exact ih.concat (by simpa using mem)

/-! ## Sums of samples -/

/-- The sum of the values, first to last, from zero. -/
def total (samples : List Sample) : Float :=
  (samples.map Sample.value).foldl (· + ·) 0.0

/-- The value of a label, empty when the sample does not have it. -/
def labelOf (label : String) (s : Sample) : String :=
  (s.labels.get? label).getD ""

/-- The samples whose label has the given value. -/
def carrying (label key : String) (samples : List Sample) : List Sample :=
  samples.filter fun s => labelOf label s = key

/-- The values of a label that are not empty, each once, in the order of first occurrence. -/
def keys (label : String) (samples : List Sample) : List String :=
  ((samples.map (labelOf label)).filter (· ≠ "")).eraseDups

theorem nodup_keys (label : String) (samples : List Sample) : (keys label samples).Nodup :=
  nodup_eraseDups _

theorem ne_empty_of_mem_keys {label key : String} {samples : List Sample} (mem : key ∈ keys label samples) :
    key ≠ "" := by
  simpa using (List.mem_filter.1 (List.mem_eraseDups.1 mem)).2

theorem total_concat (samples : List Sample) (s : Sample) : total (samples ++ [s]) = total samples + s.value := by
  simp [total]

theorem total_carrying_concat (label key : String) (samples : List Sample) (s : Sample) :
    total (carrying label key (samples ++ [s])) =
      if key = labelOf label s then total (carrying label key samples) + s.value
      else total (carrying label key samples) := by
  unfold carrying
  rw [List.filter_append]
  split_ifs with same
  · rw [List.filter_cons_of_pos (by simpa using same.symm), List.filter_nil, total_concat]
  · rw [List.filter_cons_of_neg (by simpa using fun e => same e.symm), List.filter_nil, List.append_nil]

/-- A value that did not occur has no samples yet. -/
theorem total_carrying_of_not_mem {label key : String} {samples : List Sample} (named : key ≠ "")
    (fresh : key ∉ keys label samples) : total (carrying label key samples) = 0.0 := by
  have none : carrying label key samples = [] := by
    rw [carrying, List.filter_eq_nil_iff]
    intro s mem carries
    refine fresh (List.mem_eraseDups.2 (List.mem_filter.2 ⟨List.mem_map.2 ⟨s, mem, ?_⟩, by simpa using named⟩))
    simpa using carries
  rw [none]
  rfl

/-! ## Counting -/

theorem add_of_not_mem {b : Breakdown} {key : String} (fresh : key ∉ b.map Prod.fst) (x : Float) :
    b.add key x = b ++ [(key, 0.0 + x)] := by
  induction b with
  | nil => rfl
  | cons p rest ih =>
    obtain ⟨other, _⟩ : p.1 ≠ key ∧ key ∉ rest.map Prod.fst := by simp_all [eq_comm]
    rw [Breakdown.add, if_neg other, ih (by assumption), List.cons_append]

theorem add_of_mem {names : List String} (nodup : names.Nodup) (f : String → Float) {key : String} (known : key ∈ names)
    (x : Float) :
    Breakdown.add (names.map fun k => (k, f k)) key x = names.map fun k => (k, if k = key then f k + x else f k) := by
  induction names with
  | nil => simp at known
  | cons k names ih =>
    obtain ⟨notLater, nodup⟩ := List.nodup_cons.1 nodup
    by_cases here : k = key
    · subst here
      rw [List.map_cons, Breakdown.add, if_pos rfl, List.map_cons, if_pos rfl]
      congr 1
      refine List.map_congr_left fun other mem => ?_
      rw [if_neg (fun same : other = k => notLater (same ▸ mem))]
    · have later : key ∈ names := (List.mem_cons.1 known).resolve_left (Ne.symm here)
      rw [List.map_cons, Breakdown.add, if_neg here, ih nodup later, List.map_cons, if_neg here]

theorem addSample_eq (b : Breakdown) (label : String) (s : Sample) :
    b.addSample label s = if labelOf label s = "" then b else b.add (labelOf label s) s.value := by
  unfold Breakdown.addSample labelOf
  cases s.labels.get? label <;> simp

theorem keys_concat (label : String) (samples : List Sample) (s : Sample) :
    keys label (samples ++ [s]) =
      if labelOf label s = "" ∨ labelOf label s ∈ keys label samples then keys label samples
      else keys label samples ++ [labelOf label s] := by
  unfold keys
  rw [List.map_append, List.filter_append, List.map_singleton]
  by_cases empty : labelOf label s = ""
  · rw [List.filter_cons_of_neg (by simpa using empty), if_pos (.inl empty), List.filter_nil, List.append_nil]
  · rw [List.filter_cons_of_pos (by simpa using empty), List.filter_nil, eraseDups_concat]
    simp only [List.mem_eraseDups, empty, false_or]

/-- Counting samples gives every value of the label with its sum. -/
theorem foldl_addSample (label : String) (samples : List Sample) :
    samples.foldl (fun b s => Breakdown.addSample b label s) [] =
      (keys label samples).map fun k => (k, total (carrying label k samples)) := by
  induction samples using List.reverseRecOn with
  | nil => rfl
  | append_singleton samples s ih =>
    rw [List.foldl_concat, ih, addSample_eq, keys_concat]
    simp only [total_carrying_concat]
    by_cases empty : labelOf label s = ""
    · -- No key is empty, so a sample without the label adds to none of them.
      rw [if_pos empty, if_pos (.inl empty)]
      refine List.map_congr_left fun k mem => ?_
      rw [if_neg (fun same => ne_empty_of_mem_keys mem (same.trans empty))]
    · by_cases known : labelOf label s ∈ keys label samples
      · rw [if_neg empty, if_pos (.inr known), add_of_mem (nodup_keys label samples) _ known]
      · have fresh : labelOf label s ∉
            ((keys label samples).map fun k => (k, total (carrying label k samples))).map Prod.fst := by
          simpa using known
        rw [if_neg empty, if_neg (by simp [empty, known]), add_of_not_mem fresh, List.map_append, List.map_singleton,
          if_pos rfl, total_carrying_of_not_mem empty known]
        congr 1
        refine List.map_congr_left fun k mem => ?_
        rw [if_neg (fun same : k = labelOf label s => known (same ▸ mem))]

end ResolverWatch.Report
