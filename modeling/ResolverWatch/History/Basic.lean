import ResolverWatch.Clock
import ResolverWatch.Snapshot.Basic

/-!
# The history of snapshots

A history keeps the newest snapshots, oldest first, up to its capacity, which is at least one.
Pushing onto a full history drops its oldest entry; clearing drops all. That the entries never
outnumber the capacity is part of the type.
-/

namespace ResolverWatch

/-- A snapshot and the time at which it was captured. -/
structure Entry where
  time : Float
  snapshot : Snapshot

/-- The newest entries, oldest first, and the marker of blocked responses. -/
structure History where
  capacity : Nat
  marker : String
  entries : List Entry
  capacity_pos : 0 < capacity
  length_le : entries.length ≤ capacity

/-- The last `n` elements of a list, or all if there are fewer. -/
def newest {α : Type} (n : Nat) (xs : List α) : List α :=
  xs.drop (xs.length - n)

theorem length_newest {α : Type} (n : Nat) (xs : List α) : (newest n xs).length = min n xs.length := by
  simp only [newest, List.length_drop]; omega

theorem newest_of_length_le {α : Type} {n : Nat} {xs : List α} (few : xs.length ≤ n) : newest n xs = xs := by
  simp [newest, Nat.sub_eq_zero_of_le few]

/-- Cutting before or after an element is appended gives the same. -/
theorem newest_append_newest {α : Type} (n : Nat) (xs ys : List α) :
    newest n (newest n xs ++ ys) = newest n (xs ++ ys) := by
  simp only [newest, List.length_append, List.length_drop]
  rcases Nat.le_total xs.length n with few | many
  · simp [Nat.sub_eq_zero_of_le few]
  · have again : xs.length - (xs.length - n) + ys.length - n = ys.length := by omega
    have once : xs.length + ys.length - n = (xs.length - n) + ys.length := by omega
    rw [again, once, ← List.drop_drop, List.drop_append_of_le_length (Nat.sub_le xs.length n)]

namespace History

/-- The number of entries kept unless another one is configured. -/
def defaultCapacity : Nat :=
  30

/-- An empty history. A capacity below one acts as one. -/
def create (capacity : Int) (marker : String) : History where
  capacity := if capacity ≤ 0 then 1 else capacity.toNat
  marker := marker
  entries := []
  capacity_pos := by split <;> omega
  length_le := Nat.zero_le _

/-- Appends an entry and drops the oldest beyond the capacity. -/
def push (h : History) (e : Entry) : History :=
  { h with
    entries := newest h.capacity (h.entries ++ [e])
    length_le := by rw [length_newest]; omega }

/-- Drops every entry. -/
def clear (h : History) : History :=
  { h with entries := [], length_le := Nat.zero_le _ }

/-- Pushes a snapshot captured at a given time, or else at the time that the clock tells. -/
def capture {γ : Type} [TimeSource γ] (h : History) (clock : γ) (s : Snapshot) : Option Float → History × γ
  | some time => (h.push ⟨time, s⟩, clock)
  | none =>
    let (time, clock) := TimeSource.tick clock
    (h.push ⟨time, s⟩, clock)

@[simp] theorem entries_create (capacity : Int) (marker : String) : (create capacity marker).entries = [] :=
  rfl

theorem capacity_create (capacity : Int) (marker : String) :
    (create capacity marker).capacity = (max 1 capacity).toNat := by
  simp only [create]
  split <;> omega

@[simp] theorem entries_push (h : History) (e : Entry) :
    (h.push e).entries = newest h.capacity (h.entries ++ [e]) :=
  rfl

@[simp] theorem entries_clear (h : History) : h.clear.entries = [] :=
  rfl

@[simp] theorem capacity_clear (h : History) : h.clear.capacity = h.capacity :=
  rfl

@[simp] theorem marker_clear (h : History) : h.clear.marker = h.marker :=
  rfl

end History

end ResolverWatch
