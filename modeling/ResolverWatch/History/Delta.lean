import ResolverWatch.History.Basic

/-!
# Differences between scrapes

The resolver's counters only grow while it runs, so a counter that fell was reset in between and
the interval says nothing. `History.delta` compares the two newest entries through any number;
`History.activity` lists the intervals in which neither queries nor blocked responses fell.
-/

namespace ResolverWatch

/-- The outcome of comparing the two newest entries. A reset keeps the negative difference for the
record of it; it is no value. -/
inductive Delta
  | insufficient
  | reset (difference : Float)
  | value (difference : Float)

/-- The difference, if there is one to report. -/
def Delta.value? : Delta → Option Float
  | .value d => some d
  | _ => none

/-- Queries and blocked responses in the interval that ends at `time`. -/
structure ActivityPoint where
  time : Float
  total : Float
  blocked : Float

namespace History

/-- The two newest entries, the older first. -/
def newestPair? (h : History) : Option (Entry × Entry) :=
  match h.entries.reverse with
  | current :: previous :: _ => some (previous, current)
  | _ => none

/-- Compares the two newest entries through a number taken from each. -/
def delta (h : History) (extract : Snapshot → Float) : Delta :=
  match h.newestPair? with
  | none => .insufficient
  | some (previous, current) =>
    let d := extract current.snapshot - extract previous.snapshot
    if d < 0.0 then .reset d else .value d

/-- Queries since the scrape before the newest. -/
def queriesDelta (h : History) : Delta :=
  h.delta fun s => orZero s.queries

/-- Blocked responses since the scrape before the newest. -/
def blockedDelta (h : History) : Delta :=
  h.delta fun s => s.blocked h.marker

end History

/-- The activity between two neighbouring entries, unless a counter was reset. -/
def ActivityPoint.between? (marker : String) (previous current : Entry) : Option ActivityPoint :=
  let total := orZero current.snapshot.queries - orZero previous.snapshot.queries
  let blocked := current.snapshot.blocked marker - previous.snapshot.blocked marker
  if 0.0 ≤ total ∧ 0.0 ≤ blocked then some ⟨current.time, total, blocked⟩ else none

/-- The activity between each two neighbours in a list of entries. -/
def ActivityPoint.series (marker : String) (entries : List Entry) : List ActivityPoint :=
  (entries.zip entries.tail).filterMap fun p => ActivityPoint.between? marker p.1 p.2

/-- The activity per interval, oldest first. -/
def History.activity (h : History) : List ActivityPoint :=
  ActivityPoint.series h.marker h.entries

theorem ActivityPoint.series_cons_cons (marker : String) (a b : Entry) (rest : List Entry) :
    series marker (a :: b :: rest) = (between? marker a b).toList ++ series marker (b :: rest) := by
  simp only [series, List.tail_cons, List.zip_cons_cons, List.filterMap_cons]
  cases between? marker a b <;> rfl

end ResolverWatch
