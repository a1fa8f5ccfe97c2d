import ResolverWatch.History.Delta
import ResolverWatch.Json.Render

/-!
# Histories as documents

What a history has to tell is shown as a JSON object on one line: the activity per interval and the
two figures of the newest interval, which are null when there is nothing to report.
-/

namespace ResolverWatch

/-- The activity of an interval as an object. -/
def ActivityPoint.toJson (p : ActivityPoint) : Json :=
  .object [("timestamp", .real p.time), ("total", .real p.total), ("blocked", .real p.blocked)]

/-- A difference, or null if there is none to report. -/
def Delta.toJson (d : Delta) : Json :=
  match d.value? with
  | some x => .real x
  | none => .null

namespace History

/-- The activity and the figures of the newest interval. -/
def toJson (h : History) : Json :=
  .object [
    ("activity", .array (h.activity.map ActivityPoint.toJson)),
    ("queries_per_interval", h.queriesDelta.toJson),
    ("blocked_per_interval", h.blockedDelta.toJson)
  ]

/-- The one-line text of what a history has to tell. -/
def toText (h : History) : String :=
  h.toJson.toText

end History

end ResolverWatch
