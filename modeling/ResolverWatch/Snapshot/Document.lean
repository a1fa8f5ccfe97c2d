import ResolverWatch.Snapshot.Basic
import ResolverWatch.Json.Render

/-!
# Snapshots as documents

A snapshot is shown as a JSON object of its reported parts, on one line and with all keys in
order, so that equal snapshots have equal texts.
-/

namespace ResolverWatch

open Text Json

variable {κ : Type} [Spelled κ]

/-- A breakdown as an object. -/
def Breakdown.toJson (b : Breakdown κ) : Json :=
  .object (b.map fun p => (Spelled.points p.1, .real p.2))

/-- The build as an object. -/
def Build.toJson (b : Build κ) : Json :=
  .object [member "version" (.text (Spelled.points b.version)), member "build_time" (.text (Spelled.points b.time))]

namespace Snapshot

/-- The reported parts with their names. -/
def members (s : Snapshot κ) : List (Points × Json) :=
  (Figure.all.filterMap fun f => (s.figure f).map fun x => member f.name (.real x)) ++
  (Split.all.filterMap fun f => (s.split f).map fun b => member f.name b.toJson) ++
  (s.blockingEnabled.map fun b => member "blocking_enabled" (.bool b)).toList ++
  (s.build.map fun b => member "build_info" b.toJson).toList

/-- The reported parts as one object with sorted keys. -/
def toJson (s : Snapshot κ) : Json :=
  (Json.object s.members).sortKeys

/-- The one-line text of a snapshot. -/
def toText (s : Snapshot κ) : String :=
  s.toJson.toText

end Snapshot

end ResolverWatch
