/-!
# The metrics of the resolver

The vocabulary of metric names that a scrape is searched for. Every other name is skipped.
-/

namespace ResolverWatch

/-- A metric that the resolver reports. -/
inductive Metric
  | cacheHits | cacheMisses | cacheEntries | denylistEntries | allowlistEntries
  | prefetchHits | prefetches | prefetchDomains | errors | blockingEnabled
  | queries | responses | durationSum | durationCount | lastListRefresh | failedDownloads
  | buildInfo
  deriving DecidableEq, Repr

namespace Metric

/-- All metrics. -/
def all : List Metric :=
  [
    .cacheHits, .cacheMisses, .cacheEntries, .denylistEntries, .allowlistEntries,
    .prefetchHits, .prefetches, .prefetchDomains, .errors, .blockingEnabled,
    .queries, .responses, .durationSum, .durationCount, .lastListRefresh, .failedDownloads,
    .buildInfo
  ]

/-- The name of a metric in a payload. -/
def name : Metric → String
  | .cacheHits => "blocky_cache_hits_total"
  | .cacheMisses => "blocky_cache_misses_total"
  | .cacheEntries => "blocky_cache_entries"
  | .denylistEntries => "blocky_denylist_cache_entries"
  | .allowlistEntries => "blocky_allowlist_cache_entries"
  | .prefetchHits => "blocky_prefetch_hits_total"
  | .prefetches => "blocky_prefetches_total"
  | .prefetchDomains => "blocky_prefetch_domain_name_cache_entries"
  | .errors => "blocky_error_total"
  | .blockingEnabled => "blocky_blocking_enabled"
  | .queries => "blocky_query_total"
  | .responses => "blocky_response_total"
  | .durationSum => "blocky_request_duration_seconds_sum"
  | .durationCount => "blocky_request_duration_seconds_count"
  | .lastListRefresh => "blocky_last_list_group_refresh_timestamp_seconds"
  | .failedDownloads => "blocky_failed_downloads_total"
  | .buildInfo => "blocky_build_info"

/-- The metric of a given name. -/
def ofName? (name : String) : Option Metric :=
  all.find? fun m => m.name == name

theorem ofName?_name (m : Metric) : ofName? m.name = some m := by
  cases m <;> decide +kernel

/-- A metric is found by its name and by no other. -/
theorem ofName?_eq_some_iff {name : String} {m : Metric} : ofName? name = some m ↔ m.name = name := by
  constructor
  · intro found
    simpa using List.find?_some found
  · rintro rfl
    exact ofName?_name m

end Metric

end ResolverWatch
