import ResolverWatch.Decimal.Layout
import ResolverWatch.Text.Quoted

/-!
# Notices

The events that the library reports to its log, each with the level and the logger that it is
reported under and its wording. A poll that failed is reported with the trace of its fault.
-/

namespace ResolverWatch.Log

/-- The named levels of urgency. -/
inductive Level
  | debug
  | info
  | warning
  | error
  | critical
  deriving DecidableEq, Repr

/-- Levels are compared by number, and a record may have any number as its level. -/
def Level.number : Level → Int
  | .debug => 10
  | .info => 20
  | .warning => 30
  | .error => 40
  | .critical => 50

/-- The name of a level. -/
def Level.name : Level → String
  | .debug => "debug"
  | .info => "info"
  | .warning => "warning"
  | .error => "error"
  | .critical => "critical"

/-- An event that is reported. -/
inductive Notice
  | payloadRead (recognized skipped : Nat)
  | historyCleared
  | counterReset (difference : Float)
  | fetchFailed (reason : String)
  | endpointUnavailable
  | endpointReachable
  | pollFailed (reason : String)
  | filesDropped (files kept : Nat)
  | inputUnreadable (reason : String)
  | configLoaded (path : String)

namespace Notice

/-- The level of an event. -/
def level : Notice → Level
  | .payloadRead .. | .historyCleared | .counterReset _ | .configLoaded _ => .debug
  | .endpointReachable | .filesDropped .. => .info
  | .fetchFailed _ | .endpointUnavailable => .warning
  | .pollFailed _ | .inputUnreadable _ => .error

/-- The logger of an event. -/
def logger : Notice → String
  | .payloadRead .. => "blockwatch.exposition"
  | .historyCleared | .counterReset _ => "blockwatch.history"
  | .fetchFailed _ | .endpointUnavailable | .endpointReachable | .pollFailed _ => "blockwatch.poller"
  | .filesDropped .. | .inputUnreadable _ => "blockwatch.main"
  | .configLoaded _ => "blockwatch.config.config_parser"

/-- The wording of an event. -/
def message : Notice → String
  | .payloadRead recognized skipped =>
    s!"Parsed metrics payload: {recognized} recognized lines, {skipped} malformed lines skipped"
  | .historyCleared => "Snapshot history cleared"
  | .counterReset d =>
    "Counter reset detected (delta " ++ String.ofList (Decimal.floatText .message d) ++ ")"
  | .fetchFailed reason => s!"Metrics fetch failed: {reason}"
  | .endpointUnavailable => "Metrics endpoint unavailable; waiting for reconnect"
  | .endpointReachable => "Metrics endpoint reachable again; resetting history"
  | .pollFailed reason => s!"MetricsPoller error: {reason}"
  | .filesDropped files kept => s!"Replayed {files} files; only the newest {kept} are kept"
  | .inputUnreadable reason => s!"Cannot read metrics input: {reason}"
  | .configLoaded path => s!"Loaded config from {path}"

end Notice

end ResolverWatch.Log
