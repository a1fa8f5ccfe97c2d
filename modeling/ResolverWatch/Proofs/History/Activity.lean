import Mathlib.Data.List.Basic
import ResolverWatch.History.Delta
import ResolverWatch.Proofs.Float.Order

/-!
# The newest interval, told twice

A history tells of its newest interval as two differences and as the last point of its activity.
The differences drop what is negative and the activity keeps what is not; both take the newest pair
of entries, so they agree wherever a comparison with zero decides (`newestInterval_agrees`).
-/

namespace ResolverWatch

@[simp] theorem ActivityPoint.series_nil (marker : String) : series marker [] = [] :=
  rfl

@[simp] theorem ActivityPoint.series_singleton (marker : String) (e : Entry) : series marker [e] = [] :=
  rfl

/-- A list of entries may be cut at an entry, which then ends the first series and starts the second. -/
theorem ActivityPoint.series_append (marker : String) (older : List Entry) (a : Entry) (newer : List Entry) :
    series marker (older ++ a :: newer) = series marker (older ++ [a]) ++ series marker (a :: newer) := by
  induction older with
  | nil => rfl
  | cons e older ih =>
    -- The head pairs with its own successor, which is `a` only when nothing stands between them.
    cases older with
    | nil => simp [series_cons_cons]
    | cons e' older =>
      simp only [List.cons_append, series_cons_cons, List.append_assoc] at ih ⊢
      rw [ih]

/-- A new newest entry adds the activity since the entry before it and nothing else. -/
theorem ActivityPoint.series_append_pair (marker : String) (older : List Entry) (a b : Entry) :
    series marker (older ++ [a, b]) = series marker (older ++ [a]) ++ (between? marker a b).toList := by
  rw [series_append, series_cons_cons, series_singleton, List.append_nil]

theorem ActivityPoint.series_of_length_lt_two (marker : String) {entries : List Entry} (short : entries.length < 2) :
    series marker entries = [] := by
  cases entries with
  | nil => rfl
  | cons e rest =>
    have empty : rest = [] := List.length_eq_zero_iff.1 (by simp only [List.length_cons] at short; omega)
    rw [empty, series_singleton]

/-- Every point of a series tells of two neighbouring entries. -/
theorem ActivityPoint.exists_neighbours_of_mem_series {marker : String} {entries : List Entry} {p : ActivityPoint}
    (mem : p ∈ series marker entries) :
    ∃ older a b newer, entries = older ++ a :: b :: newer ∧ between? marker a b = some p := by
  induction entries with
  | nil => simp at mem
  | cons a rest ih =>
    cases rest with
    | nil => simp at mem
    | cons b newer =>
      rw [series_cons_cons, List.mem_append, Option.mem_toList] at mem
      rcases mem with here | later
      · exact ⟨[], a, b, newer, rfl, here⟩
      · obtain ⟨older, a', b', newer', split, point⟩ := ih later
        exact ⟨a :: older, a', b', newer', by rw [split]; rfl, point⟩

namespace History

theorem newestPair?_eq_none_iff (h : History) : h.newestPair? = none ↔ h.entries.length < 2 := by
  unfold newestPair?
  rw [← List.length_reverse]
  match h.entries.reverse with
  | [] | [_] | _ :: _ :: _ => simp

theorem newestPair?_eq_some_iff (h : History) (a b : Entry) :
    h.newestPair? = some (a, b) ↔ ∃ older, h.entries = older ++ [a, b] := by
  have reversed : (∃ older, h.entries = older ++ [a, b]) ↔ ∃ rest, h.entries.reverse = b :: a :: rest := by
    constructor
    · rintro ⟨older, split⟩
      exact ⟨older.reverse, by simp [split]⟩
    · rintro ⟨rest, split⟩
      exact ⟨rest.reverse, by rw [← List.reverse_reverse h.entries, split]; simp⟩
  rw [reversed]
  unfold newestPair?
  match h.entries.reverse with
  | [] | [_] => simp
  | c :: p :: rest => simp [and_comm]

theorem delta_of_length_lt_two {h : History} (short : h.entries.length < 2) (extract : Snapshot → Float) :
    h.delta extract = .insufficient := by
  rw [delta, (newestPair?_eq_none_iff h).2 short]

theorem delta_of_entries {h : History} {older : List Entry} {a b : Entry} (split : h.entries = older ++ [a, b])
    (extract : Snapshot → Float) :
    h.delta extract =
      if extract b.snapshot - extract a.snapshot < 0.0 then .reset (extract b.snapshot - extract a.snapshot)
      else .value (extract b.snapshot - extract a.snapshot) := by
  rw [delta, (newestPair?_eq_some_iff h a b).2 ⟨older, split⟩]

/-- A difference is that of the two newest entries. -/
theorem exists_newest_of_delta {h : History} {extract : Snapshot → Float} {d : Float}
    (told : h.delta extract = .value d ∨ h.delta extract = .reset d) :
    ∃ older a b, h.entries = older ++ [a, b] ∧ d = extract b.snapshot - extract a.snapshot := by
  cases pair : h.newestPair? with
  | none => simp [delta, pair] at told
  | some p =>
    obtain ⟨a, b⟩ := p
    obtain ⟨older, split⟩ := (newestPair?_eq_some_iff h a b).1 pair
    rw [delta_of_entries split] at told
    refine ⟨older, a, b, split, ?_⟩
    split_ifs at told <;> simpa [eq_comm] using told

theorem value?_delta_of_entries {h : History} {older : List Entry} {a b : Entry} (split : h.entries = older ++ [a, b])
    (extract : Snapshot → Float) :
    (h.delta extract).value? =
      if extract b.snapshot - extract a.snapshot < 0.0 then none
      else some (extract b.snapshot - extract a.snapshot) := by
  rw [delta_of_entries split]
  split_ifs <;> rfl

/-- The newest pair's point is the pair of its two differences, and is missing when one of them is. -/
theorem between?_eq_of_entries {h : History} {older : List Entry} {a b : Entry} (split : h.entries = older ++ [a, b])
    (queries : orZero b.snapshot.queries - orZero a.snapshot.queries < 0.0 ∨
      0.0 ≤ orZero b.snapshot.queries - orZero a.snapshot.queries)
    (blocked : b.snapshot.blocked h.marker - a.snapshot.blocked h.marker < 0.0 ∨
      0.0 ≤ b.snapshot.blocked h.marker - a.snapshot.blocked h.marker) :
    ActivityPoint.between? h.marker a b =
      h.queriesDelta.value?.bind fun total => h.blockedDelta.value?.map fun blocked => ⟨b.time, total, blocked⟩ := by
  have nonneg_iff {d : Float} (side : d < 0.0 ∨ 0.0 ≤ d) : 0.0 ≤ d ↔ ¬ d < 0.0 :=
    ⟨Double.not_lt_of_le, side.resolve_left⟩
  rw [queriesDelta, blockedDelta, value?_delta_of_entries split, value?_delta_of_entries split]
  simp only [ActivityPoint.between?, nonneg_iff queries, nonneg_iff blocked]
  split_ifs <;> simp_all

/-- With fewer than two entries there is nothing to tell. Otherwise, where both differences of the
newest pair are on one side of zero, the pair has a point in the activity iff both figures have a
value, and the last point then holds these figures. A difference has a value unless it fell. -/
theorem newestInterval_agrees (h : History) :
    (h.entries.length < 2 →
      (∀ extract, h.delta extract = .insufficient) ∧ h.queriesDelta.value? = none ∧ h.blockedDelta.value? = none ∧
        h.activity = []) ∧
    (∀ older a b, h.entries = older ++ [a, b] →
      (orZero b.snapshot.queries - orZero a.snapshot.queries < 0.0 ∨
        0.0 ≤ orZero b.snapshot.queries - orZero a.snapshot.queries) →
      (b.snapshot.blocked h.marker - a.snapshot.blocked h.marker < 0.0 ∨
        0.0 ≤ b.snapshot.blocked h.marker - a.snapshot.blocked h.marker) →
      ∃ point? : Option ActivityPoint,
        h.activity = ActivityPoint.series h.marker (older ++ [a]) ++ point?.toList ∧
        (point?.isSome ↔ h.queriesDelta.value?.isSome ∧ h.blockedDelta.value?.isSome) ∧
        ∀ total blocked, h.queriesDelta.value? = some total → h.blockedDelta.value? = some blocked →
          h.activity.getLast? = some ⟨b.time, total, blocked⟩) ∧
    ∀ extract,
      ((h.delta extract).value?.isSome ↔ ∃ d, h.delta extract = .value d) ∧
      ∀ older a b, h.entries = older ++ [a, b] →
        ((∃ d, h.delta extract = .reset d) ↔ extract b.snapshot - extract a.snapshot < 0.0) ∧
        ∀ d, (h.delta extract).value? = some d → d = extract b.snapshot - extract a.snapshot := by
  refine ⟨?short, ?newest, ?status⟩
  case short =>
    intro short
    refine ⟨delta_of_length_lt_two short, ?_, ?_, ActivityPoint.series_of_length_lt_two h.marker short⟩
    · rw [queriesDelta, delta_of_length_lt_two short]; rfl
    · rw [blockedDelta, delta_of_length_lt_two short]; rfl
  case newest =>
    intro older a b split queries blocked
    have activity : h.activity =
        ActivityPoint.series h.marker (older ++ [a]) ++ (ActivityPoint.between? h.marker a b).toList := by
      rw [History.activity, split, ActivityPoint.series_append_pair]
    have point := between?_eq_of_entries split queries blocked
    refine ⟨ActivityPoint.between? h.marker a b, activity, ?_, ?_⟩
    · rw [point]
      cases h.queriesDelta.value? <;> cases h.blockedDelta.value? <;> simp
    · intro total blocked hq hb
      rw [activity, point, hq, hb]
      simp
  case status =>
    intro extract
    refine ⟨?_, ?_⟩
    · cases h.delta extract <;> simp [Delta.value?]
    · intro older a b split
      rw [delta_of_entries split]
      split_ifs with fell <;> simp [Delta.value?, fell, eq_comm]

/-- Five more queries and three blocked responses in one second. -/
def grownPair : History :=
  ((create 2 defaultMarker).push ⟨1.0, { queries := some 10.0 }⟩).push
    ⟨2.0, { queries := some 15.0, responsesByReason := some [("BLOCKED", 3.0), ("CACHED", 9.0)] }⟩

theorem getLast?_activity_grownPair : grownPair.activity.getLast? = some ⟨2.0, 5.0, 3.0⟩ := by
  obtain ⟨point?, _, _, last⟩ :=
    (newestInterval_agrees grownPair).2.1 [] _ _ rfl (by decide +kernel) (by decide +kernel)
  exact last 5.0 3.0 (by decide +kernel) (by decide +kernel)

end History

end ResolverWatch
