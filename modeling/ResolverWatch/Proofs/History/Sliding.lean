import Mathlib.Data.List.Basic
import ResolverWatch.Proofs.History.Figures

/-!
# The activity slides along with the entries

Each point of the activity belongs to one pair of neighbouring entries. A push adds the pair of the newest two, and if it
evicts the oldest entry, the pair of this one and its successor is gone. So a push takes at most the first point away and
puts at most one behind the others, which stay as they are (`activity_push`). After any pushes the activity is an end
of what it was with the points of the new pairs behind it (`activity_pushAll`).
-/

namespace ResolverWatch

/-! ## Series that share an entry -/

namespace ActivityPoint

variable (marker : String)

/-- What two neighbours have to tell stands between the series before and behind them. -/
theorem series_append_neighbours (older : List Entry) (a b : Entry) (newer : List Entry) :
    series marker (older ++ a :: b :: newer) =
      series marker (older ++ [a]) ++ (between? marker a b).toList ++ series marker (b :: newer) := by
  rw [series_append, series_cons_cons, List.append_assoc]

/-- The series of the newest entries is an end of the series of all. -/
theorem series_newest_suffix (n : Nat) (entries : List Entry) :
    series marker (newest n entries) <:+ series marker entries := by
  show (neighbours (newest n entries)).filterMap _ <:+ (neighbours entries).filterMap _
  rw [neighbours_newest]
  exact (List.drop_suffix _ _).filterMap _

theorem between?_eq_some_iff {a b : Entry} {p : ActivityPoint} :
    between? marker a b = some p ↔
      0.0 ≤ orZero b.snapshot.queries - orZero a.snapshot.queries ∧
      0.0 ≤ b.snapshot.blocked marker - a.snapshot.blocked marker ∧
      p = ⟨b.time, orZero b.snapshot.queries - orZero a.snapshot.queries,
        b.snapshot.blocked marker - a.snapshot.blocked marker⟩ := by
  unfold between?
  dsimp only
  split_ifs with grown
  · rw [Option.some.injEq, eq_comm]
    exact ⟨fun same => ⟨grown.1, grown.2, same⟩, fun ⟨_, _, same⟩ => same⟩
  · refine iff_of_false id ?_
    rintro ⟨queries, blocked, -⟩
    exact grown ⟨queries, blocked⟩

end ActivityPoint

namespace History

open ActivityPoint

/-! ## One push -/

/-- The point that the next push takes away: that of the oldest entry and its successor, if the history is full. -/
def leaving? (h : History) : Option ActivityPoint :=
  match h.entries with
  | a :: b :: _ => if h.entries.length = h.capacity then between? h.marker a b else none
  | _ => none

/-- The point of the newest two entries. -/
def arrived? (h : History) : Option ActivityPoint :=
  h.newestPair?.bind fun p => between? h.marker p.1 p.2

theorem leaving?_of_full {h : History} {a : Entry} {rest : List Entry} (split : h.entries = a :: rest)
    (full : h.entries.length = h.capacity) : h.activity = h.leaving?.toList ++ series h.marker rest := by
  rw [activity, leaving?, split]
  rw [split] at full
  cases rest with
  | nil => rfl
  | cons b rest =>
    dsimp only
    rw [if_pos full, series_cons_cons]

theorem leaving?_of_not_full {h : History} (room : h.entries.length ≠ h.capacity) : h.leaving? = none := by
  unfold leaving?
  split
  · rw [if_neg room]
  · rfl

/-- A history that is not full keeps all entries, and one that is full all but the oldest. -/
theorem entries_push_cases (h : History) (e : Entry) :
    (h.entries.length ≠ h.capacity ∧ (h.push e).entries = h.entries ++ [e]) ∨
      ∃ a rest, h.entries.length = h.capacity ∧ h.entries = a :: rest ∧ (h.push e).entries = rest ++ [e] := by
  have le := h.length_le
  by_cases full : h.entries.length = h.capacity
  · refine .inr ?_
    cases split : h.entries with
    | nil =>
      have pos := h.capacity_pos
      rw [split, List.length_nil] at full
      omega
    | cons a rest =>
      refine ⟨a, rest, split ▸ full, rfl, ?_⟩
      have one : (a :: rest ++ [e]).length - h.capacity = 1 := by
        rw [← full, split, List.length_append, List.length_singleton]
        omega
      rw [entries_push, split, newest, one]
      rfl
  · refine .inl ⟨full, ?_⟩
    rw [entries_push]
    apply newest_of_length_le
    rw [List.length_append, List.length_singleton]
    omega

/-- What a push keeps of the entries, and of the activity the rest of it. -/
theorem exists_kept (h : History) (e : Entry) :
    ∃ rest, (h.push e).entries = rest ++ [e] ∧ h.activity = h.leaving?.toList ++ series h.marker rest := by
  rcases h.entries_push_cases e with ⟨room, pushed⟩ | ⟨a, rest, full, split, pushed⟩
  · refine ⟨h.entries, pushed, ?_⟩
    rw [leaving?_of_not_full room]
    rfl
  · exact ⟨rest, pushed, leaving?_of_full split full⟩

/-- The newest entry adds the point of its pair to the series of the others. -/
theorem activity_of_entries {h : History} {older : List Entry} {e : Entry} (split : h.entries = older ++ [e]) :
    h.activity = series h.marker older ++ h.arrived?.toList := by
  rw [activity, split]
  rcases List.eq_nil_or_concat older with rfl | ⟨older, a, rfl⟩
  · have alone : h.newestPair? = none := by
      apply (newestPair?_eq_none_iff h).2
      rw [split]
      exact Nat.one_lt_two
    rw [arrived?, alone]
    rfl
  · rw [List.concat_eq_append, List.append_assoc] at split ⊢
    have pair : h.newestPair? = some (a, e) := (newestPair?_eq_some_iff h a e).2 ⟨older, split⟩
    rw [arrived?, pair]
    exact series_append_pair h.marker older a e

theorem leaving?_eq_some_iff {h : History} (e : Entry) {p : ActivityPoint} :
    h.leaving? = some p ↔
      ∃ a b newer, h.entries = a :: b :: newer ∧ (h.push e).entries = b :: newer ++ [e] ∧
        between? h.marker a b = some p := by
  rcases h.entries_push_cases e with ⟨room, pushed⟩ | ⟨a, rest, full, split, pushed⟩
  · rw [leaving?_of_not_full room]
    refine iff_of_false (Option.some_ne_none p).symm ?_
    rintro ⟨a, b, newer, split, evicted, -⟩
    have length := congrArg List.length (pushed.symm.trans evicted)
    rw [split] at length
    simp at length
  · constructor
    · intro leaving
      cases rest with
      | nil =>
        rw [leaving?, split] at leaving
        contradiction
      | cons b newer =>
        rw [leaving?, split] at leaving
        rw [split] at full
        dsimp only at leaving
        rw [if_pos full] at leaving
        exact ⟨a, b, newer, split, pushed, leaving⟩
    · rintro ⟨a', b, newer, split', -, point⟩
      rw [leaving?, split']
      rw [split'] at full
      dsimp only
      rw [if_pos full]
      exact point

theorem arrived?_eq_some_iff {h : History} {p : ActivityPoint} :
    h.arrived? = some p ↔ ∃ older a b, h.entries = older ++ [a, b] ∧ between? h.marker a b = some p := by
  rw [arrived?, Option.bind_eq_some_iff]
  constructor
  · rintro ⟨⟨a, b⟩, pair, point⟩
    obtain ⟨older, split⟩ := (newestPair?_eq_some_iff h a b).1 pair
    exact ⟨older, a, b, split, point⟩
  · rintro ⟨older, a, b, split, point⟩
    exact ⟨(a, b), (newestPair?_eq_some_iff h a b).2 ⟨older, split⟩, point⟩

/-- A push takes the first point away iff it evicts the oldest entry and this one's pair had a point, and it puts a point
behind the others iff the newest two entries then have one: iff there are two and no counter fell between them. The points
between stay as they are. What two neighbours have to tell stands between what the entries up to the first and those from
the second on tell, so a reset takes away the interval in which it happened and no other. -/
theorem activity_push (h : History) (e : Entry) :
    (∃ kept, h.activity = h.leaving?.toList ++ kept ∧ (h.push e).activity = kept ++ (h.push e).arrived?.toList) ∧
    (∀ p, h.leaving? = some p ↔
      ∃ a b newer, h.entries = a :: b :: newer ∧ (h.push e).entries = b :: newer ++ [e] ∧
        between? h.marker a b = some p) ∧
    (∀ p, (h.push e).arrived? = some p ↔
      ∃ older a, (h.push e).entries = older ++ [a, e] ∧
        0.0 ≤ orZero e.snapshot.queries - orZero a.snapshot.queries ∧
        0.0 ≤ e.snapshot.blocked h.marker - a.snapshot.blocked h.marker ∧
        p = ⟨e.time, orZero e.snapshot.queries - orZero a.snapshot.queries,
          e.snapshot.blocked h.marker - a.snapshot.blocked h.marker⟩) ∧
    ∀ older a b newer, h.entries = older ++ a :: b :: newer →
      h.activity =
        series h.marker (older ++ [a]) ++ (between? h.marker a b).toList ++ series h.marker (b :: newer) := by
  obtain ⟨rest, pushed, before⟩ := h.exists_kept e
  refine ⟨⟨series h.marker rest, before, activity_of_entries pushed⟩, fun p => leaving?_eq_some_iff e, ?arrived, ?reset⟩
  case arrived =>
    intro p
    rw [arrived?_eq_some_iff]
    constructor
    · rintro ⟨older, a, b, split, point⟩
      -- The newest entry is the one that was pushed.
      have last : rest ++ [e] = (older ++ [a]) ++ [b] := by
        rw [← pushed, split, List.append_assoc]
        rfl
      obtain ⟨-, rfl⟩ := List.append_singleton_inj.1 last
      exact ⟨older, a, split, (between?_eq_some_iff h.marker).1 point⟩
    · rintro ⟨older, a, split, point⟩
      exact ⟨older, a, e, split, (between?_eq_some_iff h.marker).2 point⟩
  case reset =>
    intro older a b newer split
    rw [activity, split]
    exact series_append_neighbours h.marker older a b newer

/-- An evicted pair between which a counter fell takes no point away. -/
example :
    let h := (create 2 defaultMarker).pushAll
      [⟨1.0, { queries := some 10.0 }⟩, ⟨2.0, { queries := some 15.0 }⟩, ⟨3.0, { queries := some 4.0 }⟩]
    h.activity.length = 0 ∧ (h.push ⟨4.0, { queries := some 6.0 }⟩).activity.map ActivityPoint.time = [4.0] := by
  decide +kernel

/-! ## Pushes in a row -/

/-- Pushes take points away at the front and put the points of the new pairs behind the others, and change none. -/
theorem activity_pushAll (h : History) (entries : List Entry) :
    (h.pushAll entries).activity <:+
      h.activity ++ series h.marker (h.entries.getLast?.toList ++ entries) := by
  have all : series h.marker (h.entries ++ entries) =
      h.activity ++ series h.marker (h.entries.getLast?.toList ++ entries) := by
    rcases List.eq_nil_or_concat h.entries with none | ⟨older, a, split⟩
    · rw [activity, none]
      rfl
    · rw [activity, split, List.concat_eq_append, List.getLast?_concat, List.append_assoc]
      exact series_append h.marker older a entries
  obtain ⟨-, marker, pushed⟩ := h.pushAll_spec entries
  rw [← all, activity, marker, pushed]
  exact series_newest_suffix h.marker h.capacity (h.entries ++ entries)

end History

end ResolverWatch
