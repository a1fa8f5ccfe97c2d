import Mathlib.Data.List.Induction
import ResolverWatch.Proofs.Scrape.Breakdown

/-!
# What a payload reports

Each part of a snapshot is read off the samples of its own metrics: a sum, the sums for each value of
a label, or the last value. `Report.snapshot` says which, and reading a payload gives exactly this
snapshot of its samples (`snapshot_read`), although one loop fills all the parts at once.
-/

namespace ResolverWatch

namespace Report

/-! ## The parts -/

/-- The samples of known metrics on the lines of a text, in order. -/
def samples (text : String) : List Sample :=
  ((text.toList.splitOn '\n').filterMap Sample.parse?).filter fun s => Metric.all.any fun m => m.name = s.name

/-- The samples of one metric. -/
def of (m : Metric) (samples : List Sample) : List Sample :=
  samples.filter fun s => s.name = m.name

/-- A counter: the sum, if it is positive. -/
def counter (samples : List Sample) : Option Float :=
  if 0.0 < total samples then some (total samples) else none

/-- A gauge: the last value. -/
def latest (samples : List Sample) : Option Float :=
  (samples.map Sample.value).getLast?

/-- The values of a label whose sum is positive, with their sums, if there are any. -/
def breakdown (label : String) (samples : List Sample) : Option Breakdown :=
  match (keys label samples).filterMap fun k => (counter (carrying label k samples)).map fun x => (k, x) with
  | [] => none
  | counts => some counts

/-- A breakdown that is only reported beside the total of the same samples. -/
def breakdownBeside (label : String) (samples : List Sample) : Option Breakdown :=
  if 0.0 < total samples then breakdown label samples else none

/-- The last sample that names a version. -/
def latestBuild (samples : List Sample) : Option Build :=
  (samples.filter fun s => labelOf "version" s ≠ "").getLast?.map fun s =>
    ⟨labelOf "version" s, labelOf "build_time" s⟩

/-- The snapshot of samples. -/
def snapshot (samples : List Sample) : Snapshot where
  cacheHits := counter (of .cacheHits samples)
  cacheMisses := counter (of .cacheMisses samples)
  cacheEntries := latest (of .cacheEntries samples)
  denylistEntries := breakdown "group" (of .denylistEntries samples)
  allowlistEntries := breakdown "group" (of .allowlistEntries samples)
  prefetchHits := latest (of .prefetchHits samples)
  prefetches := latest (of .prefetches samples)
  prefetchDomains := latest (of .prefetchDomains samples)
  errors := latest (of .errors samples)
  blockingEnabled := (latest (of .blockingEnabled samples)).map (· == 1.0)
  queries := counter (of .queries samples)
  queriesByClient := breakdownBeside "client" (of .queries samples)
  queriesByType := breakdownBeside "type" (of .queries samples)
  responses := counter (of .responses samples)
  responsesByReason := breakdownBeside "reason" (of .responses samples)
  responsesByType := breakdownBeside "response_type" (of .responses samples)
  responsesByCode := breakdownBeside "response_code" (of .responses samples)
  durationSum := (counter (of .durationCount samples)).map fun _ => total (of .durationSum samples)
  durationCount := counter (of .durationCount samples)
  lastListRefresh := latest (of .lastListRefresh samples)
  failedDownloads := latest (of .failedDownloads samples)
  build := latestBuild (of .buildInfo samples)

/-! ## From the tally to its parts -/

/-- The samples that a tally counts for a metric. -/
def counted (m : Metric) (pairs : List (Metric × Sample)) : List Sample :=
  pairs.filterMap fun p => if p.1 = m then some p.2 else none

theorem counted_cons (m m' : Metric) (s : Sample) (pairs : List (Metric × Sample)) :
    counted m ((m', s) :: pairs) = if m' = m then s :: counted m pairs else counted m pairs := by
  rw [counted, List.filterMap_cons]
  split_ifs <;> rfl

/-- A part of the tally that only one metric adds to is a fold over the samples of this metric. -/
theorem part_ofSamples {α : Type} (part : Tally → α) (m : Metric) (step : α → Sample → α)
    (own : ∀ t m' s, part (t.record (m', s)) = if m' = m then step (part t) s else part t)
    (pairs : List (Metric × Sample)) :
    part (Tally.ofSamples pairs) = (counted m pairs).foldl step (part {}) := by
  unfold Tally.ofSamples
  generalize ({} : Tally) = start
  induction pairs generalizing start with
  | nil => rfl
  | cons p pairs ih =>
    obtain ⟨m', s⟩ := p
    rw [List.foldl_cons, ih, own, counted_cons]
    split_ifs <;> rfl

/-- Keeping what each sample says keeps what the last one says. -/
theorem foldl_some {β : Type} (f : Sample → β) (samples : List Sample) :
    samples.foldl (fun _ s => some (f s)) none = (samples.map f).getLast? := by
  induction samples using List.reverseRecOn with
  | nil => rfl
  | append_singleton samples s _ => simp

section Parts

variable (m : Metric) (pairs : List (Metric × Sample))

theorem total_ofSamples (part : Tally → Float) (zero : part {} = 0.0)
    (own : ∀ t m' s, part (t.record (m', s)) = if m' = m then part t + s.value else part t) :
    part (Tally.ofSamples pairs) = total (counted m pairs) := by
  rw [part_ofSamples part m (fun x s => x + s.value) own, zero, total, List.foldl_map]

theorem latest_ofSamples (part : Tally → Option Float) (start : part {} = none)
    (own : ∀ t m' s, part (t.record (m', s)) = if m' = m then some s.value else part t) :
    part (Tally.ofSamples pairs) = latest (counted m pairs) := by
  rw [part_ofSamples part m (fun _ s => some s.value) own, start, foldl_some, latest]

theorem keys_ofSamples (label : String) (part : Tally → Breakdown) (empty : part {} = [])
    (own : ∀ t m' s, part (t.record (m', s)) = if m' = m then (part t).addSample label s else part t) :
    part (Tally.ofSamples pairs) =
      (keys label (counted m pairs)).map fun k => (k, total (carrying label k (counted m pairs))) := by
  rw [part_ofSamples part m (fun b s => Breakdown.addSample b label s) own, empty, foldl_addSample]

end Parts

theorem blockingEnabled_ofSamples (pairs : List (Metric × Sample)) :
    (Tally.ofSamples pairs).blockingEnabled = (latest (counted .blockingEnabled pairs)).map (· == 1.0) := by
  rw [part_ofSamples Tally.blockingEnabled .blockingEnabled (fun _ s => some (s.value == 1.0))
    (by rintro t ⟨⟩ s <;> rfl), latest, List.getLast?_map, Option.map_map, ← List.getLast?_map]
  exact foldl_some (fun s => s.value == 1.0) _

theorem ofSample?_eq (s : Sample) :
    Build.ofSample? s =
      if labelOf "version" s = "" then none else some ⟨labelOf "version" s, labelOf "build_time" s⟩ := by
  unfold Build.ofSample? labelOf
  cases s.labels.get? "version" <;> simp

theorem build_ofSamples (pairs : List (Metric × Sample)) :
    (Tally.ofSamples pairs).build = latestBuild (counted .buildInfo pairs) := by
  rw [part_ofSamples Tally.build .buildInfo (fun b s => (Build.ofSample? s).or b) (by rintro t ⟨⟩ s <;> rfl),
    latestBuild]
  generalize counted _ pairs = xs
  induction xs using List.reverseRecOn with
  | nil => rfl
  | append_singleton xs s ih =>
    rw [List.foldl_concat, ih, ofSample?_eq, List.filter_append]
    split_ifs with unnamed <;> simp [unnamed]

theorem positive?_eq (label : String) (samples : List Sample) :
    Breakdown.positive? ((keys label samples).map fun k => (k, total (carrying label k samples))) =
      breakdown label samples := by
  have kept : ((keys label samples).map fun k => (k, total (carrying label k samples))).filter
        (fun p => decide (0.0 < p.2)) =
      (keys label samples).filterMap fun k => (counter (carrying label k samples)).map fun x => (k, x) := by
    rw [List.filter_map, ← List.filterMap_eq_map, List.filterMap_filter]
    refine List.filterMap_congr fun k _ => ?_
    simp only [counter, Function.comp_apply, decide_eq_true_eq]
    split_ifs <;> rfl
  simp only [Breakdown.positive?, kept, breakdown]
  split <;> simp_all

theorem beside?_eq (label : String) (samples : List Sample) :
    Breakdown.beside? ((keys label samples).map fun k => (k, total (carrying label k samples)))
      (positive? (total samples)) = breakdownBeside label samples := by
  unfold Breakdown.beside? breakdownBeside positive?
  rw [positive?_eq]
  split_ifs <;> simp_all

/-! ## From the lines to the tally -/

theorem sample?_read (line : List Char) :
    (Line.read line).sample? = (Sample.parse? line).bind fun s => (Metric.ofName? s.name).map fun m => (m, s) := by
  unfold Line.read
  cases Sample.parse? line with
  | none => cases Text.trim line with
    | nil => rfl
    | cons c _ => by_cases comment : c = '#' <;> simp [comment, Line.sample?]
  | some s => cases named : Metric.ofName? s.name <;> simp [Line.sample?, named]

theorem of_samples (m : Metric) (text : String) :
    of m (samples text) = ((text.toList.splitOn '\n').filterMap Sample.parse?).filter fun s => s.name = m.name := by
  rw [of, samples, List.filter_filter]
  refine List.filter_congr fun s _ => ?_
  by_cases named : s.name = m.name
  · have known : Metric.all.any (fun m => m.name = s.name) = true :=
      List.any_eq_true.2 ⟨m, by cases m <;> decide, by simp [named]⟩
    rw [known, Bool.and_true]
  · simp [named]

/-- What the tally counts for a metric are the samples with its name. -/
theorem counted_lines (m : Metric) (text : String) :
    counted m (((Text.splitLines text.toList).map Line.read).filterMap Line.sample?) = of m (samples text) := by
  rw [of_samples, Text.splitLines_eq_splitOn]
  generalize text.toList.splitOn '\n' = lines
  induction lines with
  | nil => rfl
  | cons line lines ih =>
    rw [List.map_cons, List.filterMap_cons, sample?_read, List.filterMap_cons]
    cases Sample.parse? line with
    | none => exact ih
    | some s =>
      by_cases named : s.name = m.name
      · have found : Metric.ofName? s.name = some m := by rw [named, Metric.ofName?_name]
        simp only [Option.bind_some, found, Option.map_some]
        rw [counted_cons, if_pos rfl, ih, List.filter_cons_of_pos (by simpa using named)]
      · rw [List.filter_cons_of_neg (by simpa using named)]
        cases found : Metric.ofName? s.name with
        | none => simpa [found] using ih
        | some m' =>
          have other : m' ≠ m := fun same => named (same ▸ (Metric.ofName?_eq_some_iff.1 found).symm)
          simp only [Option.bind_some, found, Option.map_some]
          rw [counted_cons, if_neg other, ih]

/-- Reading a payload gives the snapshot of its samples. -/
theorem snapshot_read (text : String) : (Scrape.read text.toList).snapshot = snapshot (samples text) := by
  have cut (m : Metric) := counted_lines m text
  show (Tally.ofSamples (((Text.splitLines text.toList).map Line.read).filterMap Line.sample?)).snapshot = _
  generalize ((Text.splitLines text.toList).map Line.read).filterMap Line.sample? = pairs at cut ⊢
  unfold Tally.snapshot
  rw [total_ofSamples .cacheHits pairs Tally.cacheHits rfl (by rintro t ⟨⟩ s <;> rfl),
    total_ofSamples .cacheMisses pairs Tally.cacheMisses rfl (by rintro t ⟨⟩ s <;> rfl),
    total_ofSamples .queries pairs Tally.queries rfl (by rintro t ⟨⟩ s <;> rfl),
    total_ofSamples .responses pairs Tally.responses rfl (by rintro t ⟨⟩ s <;> rfl),
    total_ofSamples .durationSum pairs Tally.durationSum rfl (by rintro t ⟨⟩ s <;> rfl),
    total_ofSamples .durationCount pairs Tally.durationCount rfl (by rintro t ⟨⟩ s <;> rfl),
    latest_ofSamples .cacheEntries pairs Tally.cacheEntries rfl (by rintro t ⟨⟩ s <;> rfl),
    latest_ofSamples .prefetchHits pairs Tally.prefetchHits rfl (by rintro t ⟨⟩ s <;> rfl),
    latest_ofSamples .prefetches pairs Tally.prefetches rfl (by rintro t ⟨⟩ s <;> rfl),
    latest_ofSamples .prefetchDomains pairs Tally.prefetchDomains rfl (by rintro t ⟨⟩ s <;> rfl),
    latest_ofSamples .errors pairs Tally.errors rfl (by rintro t ⟨⟩ s <;> rfl),
    latest_ofSamples .lastListRefresh pairs Tally.lastListRefresh rfl (by rintro t ⟨⟩ s <;> rfl),
    latest_ofSamples .failedDownloads pairs Tally.failedDownloads rfl (by rintro t ⟨⟩ s <;> rfl),
    keys_ofSamples .denylistEntries pairs "group" Tally.denylistEntries rfl (by rintro t ⟨⟩ s <;> rfl),
    keys_ofSamples .allowlistEntries pairs "group" Tally.allowlistEntries rfl (by rintro t ⟨⟩ s <;> rfl),
    keys_ofSamples .queries pairs "client" Tally.queriesByClient rfl (by rintro t ⟨⟩ s <;> rfl),
    keys_ofSamples .queries pairs "type" Tally.queriesByType rfl (by rintro t ⟨⟩ s <;> rfl),
    keys_ofSamples .responses pairs "reason" Tally.responsesByReason rfl (by rintro t ⟨⟩ s <;> rfl),
    keys_ofSamples .responses pairs "response_type" Tally.responsesByType rfl (by rintro t ⟨⟩ s <;> rfl),
    keys_ofSamples .responses pairs "response_code" Tally.responsesByCode rfl (by rintro t ⟨⟩ s <;> rfl),
    blockingEnabled_ofSamples, build_ofSamples]
  simp only [positive?_eq, beside?_eq, cut]
  rfl

end Report

end ResolverWatch
