import ResolverWatch.Text.Lower
import ResolverWatch.Text.Infix
import ResolverWatch.Text.Blank

/-!
# Snapshots

A snapshot is what one scrape of the resolver's metrics says. Every part is optional: a missing
part was not reported, which is not the same as zero. Number-valued parts are named by `Figure`
and label breakdowns by `Split`, so that a caller can choose one by name. The
keys and the build are strings where nothing else is said; `Text.Points` makes them any row of code points.
-/

namespace ResolverWatch

/-- Counts by label value, in the order in which the values first occurred. -/
abbrev Breakdown (κ : Type := String) := List (κ × Float)

/-- Adds to the count of a key, which starts at zero. -/
def Breakdown.add : Breakdown → String → Float → Breakdown
  | [], key, x => [(key, 0.0 + x)]
  | (k, n) :: rest, key, x =>
    if k = key then (k, n + x) :: rest else (k, n) :: Breakdown.add rest key x

/-- The resolver's version and the time it was built. -/
structure Build (κ : Type := String) where
  version : κ
  time : κ
  deriving DecidableEq, Repr

/-- The parts of one scrape that were reported. -/
structure Snapshot (κ : Type := String) where
  cacheHits : Option Float := none
  cacheMisses : Option Float := none
  cacheEntries : Option Float := none
  denylistEntries : Option (Breakdown κ) := none
  allowlistEntries : Option (Breakdown κ) := none
  prefetchHits : Option Float := none
  prefetches : Option Float := none
  prefetchDomains : Option Float := none
  errors : Option Float := none
  blockingEnabled : Option Bool := none
  queries : Option Float := none
  queriesByClient : Option (Breakdown κ) := none
  queriesByType : Option (Breakdown κ) := none
  responses : Option Float := none
  responsesByReason : Option (Breakdown κ) := none
  responsesByType : Option (Breakdown κ) := none
  responsesByCode : Option (Breakdown κ) := none
  durationSum : Option Float := none
  durationCount : Option Float := none
  lastListRefresh : Option Float := none
  failedDownloads : Option Float := none
  build : Option (Build κ) := none

/-- The number-valued parts of a snapshot. -/
inductive Figure
  | cacheHits | cacheMisses | cacheEntries | prefetchHits | prefetches | prefetchDomains | errors
  | queries | responses | durationSum | durationCount | lastListRefresh | failedDownloads
  deriving DecidableEq, Repr

/-- The breakdowns of a snapshot. -/
inductive Split
  | denylistEntries | allowlistEntries | queriesByClient | queriesByType
  | responsesByReason | responsesByType | responsesByCode
  deriving DecidableEq, Repr

/-- All number-valued parts. -/
def Figure.all : List Figure :=
  [
    .cacheHits, .cacheMisses, .cacheEntries, .prefetchHits, .prefetches, .prefetchDomains, .errors,
    .queries, .responses, .durationSum, .durationCount, .lastListRefresh, .failedDownloads
  ]

/-- All breakdowns. -/
def Split.all : List Split :=
  [
    .denylistEntries, .allowlistEntries, .queriesByClient, .queriesByType,
    .responsesByReason, .responsesByType, .responsesByCode
  ]

/-- The name of a number-valued part in documents. -/
def Figure.name : Figure → String
  | .cacheHits => "cache_hits"
  | .cacheMisses => "cache_misses"
  | .cacheEntries => "cache_entry_count"
  | .prefetchHits => "prefetch_hits"
  | .prefetches => "prefetches"
  | .prefetchDomains => "prefetch_domain_count"
  | .errors => "errors"
  | .queries => "total_queries"
  | .responses => "total_responses"
  | .durationSum => "request_duration_sum"
  | .durationCount => "request_duration_count"
  | .lastListRefresh => "last_list_refresh"
  | .failedDownloads => "failed_downloads"

/-- The name of a breakdown in documents. -/
def Split.name : Split → String
  | .denylistEntries => "list_entries"
  | .allowlistEntries => "allowlist_entries"
  | .queriesByClient => "queries_by_client"
  | .queriesByType => "queries_by_type"
  | .responsesByReason => "responses_by_reason"
  | .responsesByType => "responses_by_type"
  | .responsesByCode => "responses_by_code"

/-- The number-valued part of a given name. -/
def Figure.ofName? (name : String) : Option Figure :=
  Figure.all.find? fun f => f.name == name

/-- The breakdown of a given name. -/
def Split.ofName? (name : String) : Option Split :=
  Split.all.find? fun f => f.name == name

namespace Snapshot

variable {κ : Type}

/-- A number-valued part. -/
def figure (s : Snapshot κ) : Figure → Option Float
  | .cacheHits => s.cacheHits
  | .cacheMisses => s.cacheMisses
  | .cacheEntries => s.cacheEntries
  | .prefetchHits => s.prefetchHits
  | .prefetches => s.prefetches
  | .prefetchDomains => s.prefetchDomains
  | .errors => s.errors
  | .queries => s.queries
  | .responses => s.responses
  | .durationSum => s.durationSum
  | .durationCount => s.durationCount
  | .lastListRefresh => s.lastListRefresh
  | .failedDownloads => s.failedDownloads

/-- A breakdown. -/
def split (s : Snapshot κ) : Split → Option (Breakdown κ)
  | .denylistEntries => s.denylistEntries
  | .allowlistEntries => s.allowlistEntries
  | .queriesByClient => s.queriesByClient
  | .queriesByType => s.queriesByType
  | .responsesByReason => s.responsesByReason
  | .responsesByType => s.responsesByType
  | .responsesByCode => s.responsesByCode

/-- The snapshot with one number-valued part replaced. -/
def setFigure (s : Snapshot κ) (x : Option Float) : Figure → Snapshot κ
  | .cacheHits => { s with cacheHits := x }
  | .cacheMisses => { s with cacheMisses := x }
  | .cacheEntries => { s with cacheEntries := x }
  | .prefetchHits => { s with prefetchHits := x }
  | .prefetches => { s with prefetches := x }
  | .prefetchDomains => { s with prefetchDomains := x }
  | .errors => { s with errors := x }
  | .queries => { s with queries := x }
  | .responses => { s with responses := x }
  | .durationSum => { s with durationSum := x }
  | .durationCount => { s with durationCount := x }
  | .lastListRefresh => { s with lastListRefresh := x }
  | .failedDownloads => { s with failedDownloads := x }

/-- The snapshot with one breakdown replaced. -/
def setSplit (s : Snapshot κ) (b : Option (Breakdown κ)) : Split → Snapshot κ
  | .denylistEntries => { s with denylistEntries := b }
  | .allowlistEntries => { s with allowlistEntries := b }
  | .queriesByClient => { s with queriesByClient := b }
  | .queriesByType => { s with queriesByType := b }
  | .responsesByReason => { s with responsesByReason := b }
  | .responsesByType => { s with responsesByType := b }
  | .responsesByCode => { s with responsesByCode := b }

end Snapshot

/-- A missing number counts as zero, and so does a negative zero. -/
def orZero : Option Float → Float
  | some x => if x == 0.0 then 0.0 else x
  | none => 0.0

/-- The marker of blocked responses unless another one is configured. -/
def defaultMarker : String :=
  "blocked"

/-- The sum of the counts whose key holds the marker, both in lower case. -/
def Breakdown.sumMarked (b : Breakdown) (marker : String) : Float :=
  let needle := Text.lower marker.toList
  b.foldl (fun total p =>
    if Text.occursIn needle (Text.lower p.1.toList) then total + p.2 else total) 0.0

namespace Snapshot

/-- The number of blocked responses; responses without reasons count as zero. -/
def blocked (s : Snapshot) (marker : String) : Float :=
  match s.responsesByReason with
  | some b => b.sumMarked marker
  | none => 0.0

/-- The share of cache look-ups that were hits, if there were any look-ups. -/
def hitRatio (s : Snapshot) : Option Float :=
  match s.cacheHits, s.cacheMisses with
  | none, none => none
  | hits, misses =>
    let hits := orZero hits
    let lookups := hits + orZero misses
    if lookups ≤ 0.0 then none else some (hits / lookups)

/-- The mean duration of a request in seconds, if any were counted. -/
def averageDuration (s : Snapshot) : Option Float :=
  match s.durationCount, s.durationSum with
  | some count, some sum => if count == 0.0 then none else some (sum / count)
  | _, _ => none

end Snapshot

theorem Figure.ofName?_name (f : Figure) : Figure.ofName? f.name = some f := by
  cases f <;> decide +kernel

theorem Split.ofName?_name (f : Split) : Split.ofName? f.name = some f := by
  cases f <;> decide +kernel

end ResolverWatch
