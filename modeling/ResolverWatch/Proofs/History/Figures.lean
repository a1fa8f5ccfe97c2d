import Mathlib.Data.List.Basic
import Mathlib.Data.List.Induction
import ResolverWatch.History.Document
import ResolverWatch.Proofs.History.Activity

/-!
# What a history tells without its times

The figures of a history, those of its newest interval and those of the points of its activity, are read
off the snapshots alone. Times are only passed on: each point has that of the later one of its two
entries (`series_newest_map`). So histories that hold the same snapshots tell the same figures
(`figures_activity_congr`, `delta_congr`).
-/

namespace ResolverWatch

/-- The neighbours in a list. -/
def neighbours {α : Type} (xs : List α) : List (α × α) :=
  xs.zip xs.tail

theorem neighbours_map {α β : Type} (f : α → β) (xs : List α) :
    neighbours (xs.map f) = (neighbours xs).map (Prod.map f f) := by
  rw [neighbours, ← List.map_tail, List.zip_map, neighbours]

/-- The neighbours among the newest elements are the newest neighbours. -/
theorem neighbours_newest {α : Type} (n : Nat) (xs : List α) :
    neighbours (newest n xs) = (neighbours xs).drop (xs.length - n) := by
  rw [neighbours, neighbours, newest, List.tail_drop, List.zip_eq_zipWith, List.zip_eq_zipWith, List.drop_zipWith,
    List.drop_tail]

theorem newest_map {α β : Type} (f : α → β) (n : Nat) (xs : List α) : (newest n xs).map f = newest n (xs.map f) := by
  simp [newest]

/-- The newest elements keep their positions. -/
theorem newest_zipIdx {α : Type} (n : Nat) (xs : List α) :
    newest n xs.zipIdx = (newest n xs).zipIdx (xs.length - n) := by
  have older : ((xs.take (xs.length - n)).zipIdx 0).length = xs.length - n := by
    rw [List.length_zipIdx, List.length_take]
    omega
  have cut : xs.zipIdx =
      (xs.take (xs.length - n)).zipIdx ++ (xs.drop (xs.length - n)).zipIdx (xs.length - n) := by
    conv_lhs => rw [← List.take_append_drop (xs.length - n) xs, List.zipIdx_append]
    rw [List.length_take, Nat.min_eq_left (Nat.sub_le _ _), Nat.zero_add]
  rw [newest, List.length_zipIdx, cut, List.drop_left' older, newest]

namespace ActivityPoint

/-- The queries and the blocked responses of an interval, without its time. -/
def figures (p : ActivityPoint) : Float × Float :=
  (p.total, p.blocked)

/-- The figures of the interval between two snapshots, unless a counter fell. -/
def figuresBetween? (marker : String) (older newer : Snapshot) : Option (Float × Float) :=
  let total := orZero newer.queries - orZero older.queries
  let blocked := newer.blocked marker - older.blocked marker
  if 0.0 ≤ total ∧ 0.0 ≤ blocked then some (total, blocked) else none

/-- A point has the figures of the snapshots, and the time of the later entry. -/
theorem between?_eq (marker : String) (a b : Entry) :
    between? marker a b =
      (figuresBetween? marker a.snapshot b.snapshot).map fun x => ⟨b.time, x.1, x.2⟩ := by
  unfold between? figuresBetween?
  dsimp only
  split_ifs <;> rfl

theorem figures_series (marker : String) (entries : List Entry) :
    (series marker entries).map figures =
      (neighbours (entries.map Entry.snapshot)).filterMap fun p => figuresBetween? marker p.1 p.2 := by
  rw [neighbours_map, List.filterMap_map, series, List.map_filterMap]
  refine List.filterMap_congr fun p _ => ?_
  simp only [between?_eq, Option.map_map, Function.comp_apply, Prod.map_fst, Prod.map_snd]
  exact Option.map_id'

/-- The activity of the newest of entries that are made from a list: one point for each neighbours in the list that
are among the newest and between which no counter fell. -/
theorem series_newest_map {α : Type} (marker : String) (n : Nat) (entry : α → Entry) (xs : List α) :
    series marker (newest n (xs.map entry)) =
      ((neighbours xs).drop (xs.length - n)).filterMap fun p =>
        (figuresBetween? marker (entry p.1).snapshot (entry p.2).snapshot).map fun x =>
          ⟨(entry p.2).time, x.1, x.2⟩ := by
  show (neighbours (newest n (xs.map entry))).filterMap (fun p => between? marker p.1 p.2) = _
  rw [neighbours_newest, neighbours_map, List.length_map, ← List.map_drop, List.filterMap_map]
  refine List.filterMap_congr fun p _ => ?_
  exact between?_eq marker (entry p.1) (entry p.2)

end ActivityPoint

namespace History

/-- The snapshots of a history, oldest first. -/
def snapshots (h : History) : List Snapshot :=
  h.entries.map Entry.snapshot

section Congr

variable {h k : History} (same : h.snapshots = k.snapshots)
include same

theorem delta_congr (extract : Snapshot → Float) : h.delta extract = k.delta extract := by
  have length : h.entries.length = k.entries.length := by simpa [snapshots] using congrArg List.length same
  cases pair : h.newestPair? with
  | none =>
    have short : h.entries.length < 2 := (newestPair?_eq_none_iff h).1 pair
    rw [delta_of_length_lt_two short, delta_of_length_lt_two (length ▸ short)]
  | some p =>
    obtain ⟨a, b⟩ := p
    obtain ⟨older, split⟩ := (newestPair?_eq_some_iff h a b).1 pair
    -- The other history ends in two entries with the same snapshots, found by taking its list apart from behind.
    have snapshots : k.entries.map Entry.snapshot = older.map Entry.snapshot ++ [a.snapshot, b.snapshot] := by
      show k.snapshots = _
      rw [← same, History.snapshots, split, List.map_append]
      rfl
    obtain ⟨others, newest, split', -, ends⟩ := List.map_eq_append_iff.1 snapshots
    obtain ⟨c, rest, rfl, first, ends⟩ := List.map_eq_cons_iff.1 ends
    obtain ⟨d, rest, rfl, second, ends⟩ := List.map_eq_cons_iff.1 ends
    obtain rfl : rest = [] := List.map_eq_nil_iff.1 ends
    rw [delta_of_entries split, delta_of_entries split', first, second]

theorem queriesDelta_congr : h.queriesDelta = k.queriesDelta :=
  delta_congr same _

variable (marker : h.marker = k.marker)
include marker

theorem blockedDelta_congr : h.blockedDelta = k.blockedDelta := by
  rw [blockedDelta, blockedDelta, marker]
  exact delta_congr same _

theorem figures_activity_congr : h.activity.map ActivityPoint.figures = k.activity.map ActivityPoint.figures := by
  unfold snapshots at same
  rw [activity, activity, ActivityPoint.figures_series, ActivityPoint.figures_series, same, marker]

end Congr

/-- What a history tells depends on its entries and its marker. -/
theorem toText_congr {h k : History} (entries : h.entries = k.entries) (marker : h.marker = k.marker) :
    h.toText = k.toText := by
  have snapshots : h.snapshots = k.snapshots := congrArg (List.map Entry.snapshot) entries
  have points : h.activity = k.activity := by rw [activity, activity, entries, marker]
  rw [toText, toText, toJson, toJson, points, queriesDelta_congr snapshots, blockedDelta_congr snapshots marker]

/-! ## Pushes in a row -/

/-- The history after entries were pushed in order. -/
def pushAll (h : History) (entries : List Entry) : History :=
  entries.foldl push h

theorem pushAll_spec (h : History) (entries : List Entry) :
    (h.pushAll entries).capacity = h.capacity ∧ (h.pushAll entries).marker = h.marker ∧
      (h.pushAll entries).entries = newest h.capacity (h.entries ++ entries) := by
  induction entries using List.reverseRecOn with
  | nil => exact ⟨rfl, rfl, by rw [List.append_nil, newest_of_length_le h.length_le]; rfl⟩
  | append_singleton entries e ih =>
    obtain ⟨capacity, marker, kept⟩ := ih
    rw [pushAll, List.foldl_concat, ← pushAll]
    refine ⟨capacity, marker, ?_⟩
    rw [entries_push, capacity, kept, newest_append_newest, List.append_assoc]

/-- A new history holds the newest of what was pushed onto it. -/
theorem entries_pushAll_create {capacity : Int} (pos : 1 ≤ capacity) (marker : String) (entries : List Entry) :
    ((create capacity marker).pushAll entries).entries = newest capacity.toNat entries := by
  have size : (create capacity marker).capacity = capacity.toNat := by
    rw [capacity_create]
    omega
  rw [(pushAll_spec _ entries).2.2, size, entries_create, List.nil_append]

end History

end ResolverWatch
