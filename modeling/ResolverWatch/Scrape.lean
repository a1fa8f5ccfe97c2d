import ResolverWatch.Metric
import ResolverWatch.Sample
import ResolverWatch.Snapshot.Basic
import ResolverWatch.Text.Newline

/-!
# Scrapes

A scrape is one metrics payload. Its lines are classified one by one (`Line.read`); the samples
of known metrics are summed up in a `Tally`, in order, and what the tally has to report becomes
a snapshot. Counters that sum to nothing are not reported, nor are breakdown keys that do, and
the breakdowns of queries and responses are only reported beside their totals.
-/

namespace ResolverWatch

open Text

/-- What a line of a payload is. A line with a readable sample of an unknown metric is `foreign`. -/
inductive Line
  | blank
  | comment
  | malformed
  | foreign (s : Sample)
  | sample (m : Metric) (s : Sample)

/-- Classifies a line. -/
def Line.read (line : List Char) : Line :=
  match Sample.parse? line with
  | some s =>
    match Metric.ofName? s.name with
    | some m => .sample m s
    | none => .foreign s
  | none =>
    match trim line with
    | [] => .blank
    | '#' :: _ => .comment
    | _ => .malformed

/-- The sample of a known metric on a line. -/
def Line.sample? : Line → Option (Metric × Sample)
  | .sample m s => some (m, s)
  | _ => none

/-- The line is neither blank nor a comment nor a sample. -/
def Line.isMalformed : Line → Bool
  | .malformed => true
  | _ => false

/-- Running sums and last values of the known metrics. -/
structure Tally where
  cacheHits : Float := 0.0
  cacheMisses : Float := 0.0
  queries : Float := 0.0
  responses : Float := 0.0
  durationSum : Float := 0.0
  durationCount : Float := 0.0
  denylistEntries : Breakdown := []
  allowlistEntries : Breakdown := []
  queriesByClient : Breakdown := []
  queriesByType : Breakdown := []
  responsesByReason : Breakdown := []
  responsesByType : Breakdown := []
  responsesByCode : Breakdown := []
  cacheEntries : Option Float := none
  prefetchHits : Option Float := none
  prefetches : Option Float := none
  prefetchDomains : Option Float := none
  errors : Option Float := none
  lastListRefresh : Option Float := none
  failedDownloads : Option Float := none
  blockingEnabled : Option Bool := none
  build : Option Build := none

/-- Adds a sample to the count of its value for a label; a missing or empty value is not counted. -/
def Breakdown.addSample (b : Breakdown) (label : String) (s : Sample) : Breakdown :=
  match s.labels.get? label with
  | some key => if key = "" then b else b.add key s.value
  | none => b

/-- The build that a sample tells of, if it names a version. -/
def Build.ofSample? (s : Sample) : Option Build :=
  match s.labels.get? "version" with
  | some version => if version = "" then none else some ⟨version, (s.labels.get? "build_time").getD ""⟩
  | none => none

namespace Tally

/-- Counts one sample of a known metric. -/
def record (t : Tally) : Metric × Sample → Tally
  | (.cacheHits, s) => { t with cacheHits := t.cacheHits + s.value }
  | (.cacheMisses, s) => { t with cacheMisses := t.cacheMisses + s.value }
  | (.cacheEntries, s) => { t with cacheEntries := some s.value }
  | (.denylistEntries, s) => { t with denylistEntries := t.denylistEntries.addSample "group" s }
  | (.allowlistEntries, s) => { t with allowlistEntries := t.allowlistEntries.addSample "group" s }
  | (.prefetchHits, s) => { t with prefetchHits := some s.value }
  | (.prefetches, s) => { t with prefetches := some s.value }
  | (.prefetchDomains, s) => { t with prefetchDomains := some s.value }
  | (.errors, s) => { t with errors := some s.value }
  | (.blockingEnabled, s) => { t with blockingEnabled := some (s.value == 1.0) }
  | (.queries, s) =>
    { t with
      queries := t.queries + s.value
      queriesByClient := t.queriesByClient.addSample "client" s
      queriesByType := t.queriesByType.addSample "type" s }
  | (.responses, s) =>
    { t with
      responses := t.responses + s.value
      responsesByReason := t.responsesByReason.addSample "reason" s
      responsesByType := t.responsesByType.addSample "response_type" s
      responsesByCode := t.responsesByCode.addSample "response_code" s }
  | (.durationSum, s) => { t with durationSum := t.durationSum + s.value }
  | (.durationCount, s) => { t with durationCount := t.durationCount + s.value }
  | (.lastListRefresh, s) => { t with lastListRefresh := some s.value }
  | (.failedDownloads, s) => { t with failedDownloads := some s.value }
  | (.buildInfo, s) => { t with build := (Build.ofSample? s).or t.build }

/-- Counts samples in order. -/
def ofSamples (samples : List (Metric × Sample)) : Tally :=
  samples.foldl record {}

end Tally

/-- A sum that is reported: a positive one. -/
def positive? (x : Float) : Option Float :=
  if 0.0 < x then some x else none

/-- The positive counts of a breakdown, if there are any. -/
def Breakdown.positive? (b : Breakdown) : Option Breakdown :=
  let kept := b.filter fun p => decide (0.0 < p.2)
  if kept.isEmpty then none else some kept

/-- The positive counts of a breakdown whose total is reported. -/
def Breakdown.beside? (b : Breakdown) (total : Option Float) : Option Breakdown :=
  if total.isSome then b.positive? else none

/-- What a tally has to report. -/
def Tally.snapshot (t : Tally) : Snapshot where
  cacheHits := positive? t.cacheHits
  cacheMisses := positive? t.cacheMisses
  cacheEntries := t.cacheEntries
  denylistEntries := t.denylistEntries.positive?
  allowlistEntries := t.allowlistEntries.positive?
  prefetchHits := t.prefetchHits
  prefetches := t.prefetches
  prefetchDomains := t.prefetchDomains
  errors := t.errors
  blockingEnabled := t.blockingEnabled
  queries := positive? t.queries
  queriesByClient := t.queriesByClient.beside? (positive? t.queries)
  queriesByType := t.queriesByType.beside? (positive? t.queries)
  responses := positive? t.responses
  responsesByReason := t.responsesByReason.beside? (positive? t.responses)
  responsesByType := t.responsesByType.beside? (positive? t.responses)
  responsesByCode := t.responsesByCode.beside? (positive? t.responses)
  durationSum := (positive? t.durationCount).map fun _ => t.durationSum
  durationCount := positive? t.durationCount
  lastListRefresh := t.lastListRefresh
  failedDownloads := t.failedDownloads
  build := t.build

/-- What a payload says, with the number of samples of known metrics and of malformed lines. -/
structure Scrape where
  snapshot : Snapshot
  recognized : Nat
  skipped : Nat

/-- Reads a payload. Any text is one. -/
def Scrape.read (text : List Char) : Scrape :=
  let lines := (splitLines text).map Line.read
  let samples := lines.filterMap Line.sample?
  { snapshot := (Tally.ofSamples samples).snapshot
    recognized := samples.length
    skipped := lines.countP Line.isMalformed }

end ResolverWatch
