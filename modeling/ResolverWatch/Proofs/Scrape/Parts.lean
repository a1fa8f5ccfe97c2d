import ResolverWatch.Proofs.Scrape.Report

/-!
# The metrics behind each part

Every part of a snapshot is read off the samples of the metrics it names: a figure off its own metric, and
a sum also off the metric that decides whether it is reported; a breakdown off one metric. What a
payload reports is here given part by part (`figure_read`, `split_read`), so that what holds of one part
can be said without the others.
-/

namespace ResolverWatch

/-! ## Figures and breakdowns by metric -/

namespace Figure

/-- The metric that a figure shows. -/
def metric : Figure → Metric
  | .cacheHits => .cacheHits
  | .cacheMisses => .cacheMisses
  | .cacheEntries => .cacheEntries
  | .prefetchHits => .prefetchHits
  | .prefetches => .prefetches
  | .prefetchDomains => .prefetchDomains
  | .errors => .errors
  | .queries => .queries
  | .responses => .responses
  | .durationSum => .durationSum
  | .durationCount => .durationCount
  | .lastListRefresh => .lastListRefresh
  | .failedDownloads => .failedDownloads

/-- The figure is a sum over samples, not the value of the last one. -/
def isSum : Figure → Bool
  | .cacheHits | .cacheMisses | .queries | .responses | .durationSum | .durationCount => true
  | _ => false

/-- The sum that must be positive for a sum to be reported. The time of all requests says nothing
without their number. -/
def gate : Figure → Figure
  | .durationSum => .durationCount
  | f => f

theorem isSum_gate (f : Figure) : f.gate.isSum = f.isSum := by
  cases f <;> rfl

end Figure

namespace Split

/-- The metric that a breakdown divides. -/
def metric : Split → Metric
  | .denylistEntries => .denylistEntries
  | .allowlistEntries => .allowlistEntries
  | .queriesByClient | .queriesByType => .queries
  | .responsesByReason | .responsesByType | .responsesByCode => .responses

/-- The label that a breakdown divides by. -/
def label : Split → String
  | .denylistEntries | .allowlistEntries => "group"
  | .queriesByClient => "client"
  | .queriesByType => "type"
  | .responsesByReason => "reason"
  | .responsesByType => "response_type"
  | .responsesByCode => "response_code"

/-- The breakdown is only reported beside the total of its metric. -/
def besideTotal : Split → Bool
  | .denylistEntries | .allowlistEntries => false
  | _ => true

end Split

namespace Tally

/-- The running sum of a figure; the figures that are not sums have none. -/
def sum (t : Tally) : Figure → Float
  | .cacheHits => t.cacheHits
  | .cacheMisses => t.cacheMisses
  | .queries => t.queries
  | .responses => t.responses
  | .durationSum => t.durationSum
  | .durationCount => t.durationCount
  | _ => 0.0

/-- The last value of a figure; the figures that are sums keep none. -/
def last (t : Tally) : Figure → Option Float
  | .cacheEntries => t.cacheEntries
  | .prefetchHits => t.prefetchHits
  | .prefetches => t.prefetches
  | .prefetchDomains => t.prefetchDomains
  | .errors => t.errors
  | .lastListRefresh => t.lastListRefresh
  | .failedDownloads => t.failedDownloads
  | _ => none

/-- The running counts of a breakdown. -/
def counts (t : Tally) : Split → Breakdown
  | .denylistEntries => t.denylistEntries
  | .allowlistEntries => t.allowlistEntries
  | .queriesByClient => t.queriesByClient
  | .queriesByType => t.queriesByType
  | .responsesByReason => t.responsesByReason
  | .responsesByType => t.responsesByType
  | .responsesByCode => t.responsesByCode

/-- A sample adds to the sums of its own metric only. -/
theorem sum_record (t : Tally) {f : Figure} (isSum : f.isSum = true) (m : Metric) (s : Sample) :
    (t.record (m, s)).sum f = if m = f.metric then t.sum f + s.value else t.sum f := by
  cases f with
  | cacheHits | cacheMisses | queries | responses | durationSum | durationCount => cases m <;> rfl
  | cacheEntries | prefetchHits | prefetches | prefetchDomains | errors | lastListRefresh | failedDownloads =>
    exact absurd isSum (by decide)

/-- A sample replaces the last value of its own metric only. -/
theorem last_record (t : Tally) {f : Figure} (isGauge : f.isSum = false) (m : Metric) (s : Sample) :
    (t.record (m, s)).last f = if m = f.metric then some s.value else t.last f := by
  cases f with
  | cacheHits | cacheMisses | queries | responses | durationSum | durationCount => exact absurd isGauge (by decide)
  | cacheEntries | prefetchHits | prefetches | prefetchDomains | errors | lastListRefresh | failedDownloads =>
    cases m <;> rfl

/-- A sample adds to the breakdowns of its own metric only. -/
theorem counts_record (t : Tally) (b : Split) (m : Metric) (s : Sample) :
    (t.record (m, s)).counts b = if m = b.metric then (t.counts b).addSample b.label s else t.counts b := by
  cases b <;> cases m <;> rfl

theorem figure_of_isSum (t : Tally) {f : Figure} (isSum : f.isSum = true) :
    t.snapshot.figure f = (positive? (t.sum f.gate)).map fun _ => t.sum f := by
  have own (x : Float) : positive? x = (positive? x).map fun _ => x := by
    unfold positive?
    split_ifs <;> rfl
  cases f with
  | cacheHits | cacheMisses | queries | responses | durationCount => exact own _
  | durationSum => rfl
  | cacheEntries | prefetchHits | prefetches | prefetchDomains | errors | lastListRefresh | failedDownloads =>
    exact absurd isSum (by decide)

theorem figure_of_isGauge (t : Tally) {f : Figure} (isGauge : f.isSum = false) : t.snapshot.figure f = t.last f := by
  cases f with
  | cacheHits | cacheMisses | queries | responses | durationSum | durationCount => exact absurd isGauge (by decide)
  | cacheEntries | prefetchHits | prefetches | prefetchDomains | errors | lastListRefresh | failedDownloads => rfl

end Tally

namespace Report

/-- A figure of the samples of each metric. -/
def figure (own : Metric → List Sample) (f : Figure) : Option Float :=
  if f.isSum then (counter (own f.gate.metric)).map fun _ => total (own f.metric) else latest (own f.metric)

/-- A breakdown of the samples of each metric. -/
def split (own : Metric → List Sample) (b : Split) : Option Breakdown :=
  if b.besideTotal then breakdownBeside b.label (own b.metric) else breakdown b.label (own b.metric)

section Parts

variable (pairs : List (Metric × Sample))

theorem sum_ofSamples {f : Figure} (isSum : f.isSum = true) :
    (Tally.ofSamples pairs).sum f = total (counted f.metric pairs) :=
  total_ofSamples f.metric pairs (·.sum f) (by cases f <;> rfl) fun t m s => t.sum_record isSum m s

theorem last_ofSamples {f : Figure} (isGauge : f.isSum = false) :
    (Tally.ofSamples pairs).last f = latest (counted f.metric pairs) :=
  latest_ofSamples f.metric pairs (·.last f) (by cases f <;> rfl) fun t m s => t.last_record isGauge m s

theorem counts_ofSamples (b : Split) :
    (Tally.ofSamples pairs).counts b =
      (keys b.label (counted b.metric pairs)).map fun k => (k, total (carrying b.label k (counted b.metric pairs))) :=
  keys_ofSamples b.metric pairs b.label (·.counts b) (by cases b <;> rfl) fun t m s => t.counts_record b m s

theorem figure_ofSamples (f : Figure) :
    (Tally.ofSamples pairs).snapshot.figure f = figure (fun m => counted m pairs) f := by
  unfold figure
  split_ifs with isSum
  · rw [Tally.figure_of_isSum _ isSum, sum_ofSamples pairs isSum, sum_ofSamples pairs (f.isSum_gate.trans isSum)]
    rfl
  · have isGauge : f.isSum = false := by simpa using isSum
    rw [Tally.figure_of_isGauge _ isGauge, last_ofSamples pairs isGauge]

theorem split_ofSamples (b : Split) :
    (Tally.ofSamples pairs).snapshot.split b = split (fun m => counted m pairs) b := by
  have counts := counts_ofSamples pairs b
  have queries := sum_ofSamples pairs (f := .queries) rfl
  have responses := sum_ofSamples pairs (f := .responses) rfl
  cases b with
  | denylistEntries | allowlistEntries => exact (congrArg Breakdown.positive? counts).trans (positive?_eq ..)
  | queriesByClient | queriesByType =>
    exact (congrArg₂ (fun c x => Breakdown.beside? c (positive? x)) counts queries).trans (beside?_eq ..)
  | responsesByReason | responsesByType | responsesByCode =>
    exact (congrArg₂ (fun c x => Breakdown.beside? c (positive? x)) counts responses).trans (beside?_eq ..)

end Parts

/-- Every figure of a payload comes from the samples of its own metrics. -/
theorem figure_read (text : String) (f : Figure) :
    (Scrape.read text.toList).snapshot.figure f = figure (fun m => of m (samples text)) f := by
  simp only [← counted_lines]
  exact figure_ofSamples _ f

/-- Every breakdown of a payload comes from the samples of its own metric. -/
theorem split_read (text : String) (b : Split) :
    (Scrape.read text.toList).snapshot.split b = split (fun m => of m (samples text)) b := by
  simp only [← counted_lines]
  exact split_ofSamples _ b

end Report

end ResolverWatch
