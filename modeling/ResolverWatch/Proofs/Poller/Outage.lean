import Mathlib.Data.List.DropRight
import ResolverWatch.Poller
import ResolverWatch.Proofs.History.Activity

/-!
# Outages and the history

A poller is connected unless its last fetch missed, and its history holds what it scraped since the
last outage before that. Of the cycles since then, those whose clock failed left no entry. So two
neighbouring entries never have a miss between them, and nothing that is told of a pair of
neighbours spans an outage (`entries_afterTurns`).
-/

namespace ResolverWatch.Poller

/-- What a cycle meets: what its fetch brings, and what its clock says if it is asked. -/
structure Turn where
  fetch : Fetch
  time : Except String Float

namespace Turn

/-- The fetch brings no payload. -/
def missed (t : Turn) : Bool :=
  match t.fetch with
  | .payload _ => false
  | .nothing | .failure _ => true

/-- What the payload says, at the time that the clock tells. -/
def entry? (t : Turn) : Option Entry :=
  match t.fetch, t.time with
  | .payload text, .ok time => some ⟨time, (Scrape.read text.toList).snapshot⟩
  | _, _ => none

theorem missed_eq_false_iff (t : Turn) : t.missed = false ↔ ∃ text, t.fetch = .payload text := by
  unfold missed
  cases t.fetch <;> simp

end Turn

/-- The poller after cycles in order. -/
def afterTurns (p : Poller) (turns : List Turn) : Poller :=
  turns.foldl (fun p t => (p.poll t.fetch t.time).poller) p

/-- Without the misses at the end, the turns after the last miss. -/
def unbroken (turns : List Turn) : List Turn :=
  (turns.rdropWhile Turn.missed).rtakeWhile fun t => !t.missed

/-- The entries come from two turns between which no fetch missed. -/
def Joined (turns : List Turn) (a b : Entry) : Prop :=
  ∃ before s between t after, turns = before ++ s :: between ++ t :: after ∧
    s.entry? = some a ∧ t.entry? = some b ∧ ∀ u ∈ between, u.missed = false

theorem Joined.widen {turns : List Turn} {a b : Entry} (joined : Joined turns a b) (before after : List Turn) :
    Joined (before ++ turns ++ after) a b := by
  obtain ⟨front, s, between, t, back, split, left, right, reached⟩ := joined
  exact ⟨before ++ front, s, between, t, back ++ after, by simp [split], left, right, reached⟩

/-! ## One cycle -/

theorem poll_of_missed (p : Poller) {t : Turn} (missed : t.missed = true) :
    (p.poll t.fetch t.time).poller = { p with connected := false } := by
  unfold Turn.missed at missed
  unfold poll
  split at missed <;> simp_all [miss]

theorem reach_fst (p : Poller) :
    p.reach.1.connected = true ∧ p.reach.1.history.marker = p.history.marker ∧
      p.reach.1.history.capacity = p.history.capacity ∧
      p.reach.1.history.entries = if p.connected then p.history.entries else [] := by
  unfold reach
  cases connected : p.connected <;> simp [connected]

/-- A payload connects the poller. It drops the entries from before an outage and then pushes its own,
unless the clock fails. -/
theorem poll_of_not_missed (p : Poller) {t : Turn} (reached : t.missed = false) :
    let q := (p.poll t.fetch t.time).poller
    q.connected = true ∧ q.history.marker = p.history.marker ∧ q.history.capacity = p.history.capacity ∧
      q.history.entries =
        newest p.history.capacity ((if p.connected then p.history.entries else []) ++ t.entry?.toList) := by
  obtain ⟨fetch, time⟩ := t
  obtain ⟨text, rfl⟩ := (Turn.missed_eq_false_iff _).1 reached
  obtain ⟨connected, marker, capacity, entries⟩ := reach_fst p
  cases time with
  | ok time =>
    refine ⟨connected, marker, capacity, ?_⟩
    show newest p.reach.1.history.capacity (p.reach.1.history.entries ++ _) = _
    rw [capacity, entries]
    rfl
  | error reason =>
    refine ⟨connected, marker, capacity, ?_⟩
    show p.reach.1.history.entries = newest _ (_ ++ [])
    rw [List.append_nil, ← entries, ← capacity, newest_of_length_le p.reach.1.history.length_le]

/-! ## All cycles -/

theorem unbroken_concat_of_missed (turns : List Turn) {t : Turn} (missed : t.missed = true) :
    unbroken (turns ++ [t]) = unbroken turns := by
  rw [unbroken, List.rdropWhile_concat_pos _ _ _ missed, unbroken]

/-- A payload continues the turns before it, unless the last of them missed. -/
theorem unbroken_concat_of_not_missed (turns : List Turn) {t : Turn} (reached : t.missed = false) :
    unbroken (turns ++ [t]) = (if turns.getLast?.any Turn.missed then [] else unbroken turns) ++ [t] := by
  rw [unbroken, List.rdropWhile_concat_neg _ _ _ (by simp [reached]), List.rtakeWhile_concat_pos _ _ _ (by simp [reached])]
  congr 1
  cases turns using List.reverseRecOn with
  | nil => simp [unbroken]
  | append_singleton turns last =>
    cases missed : last.missed with
    | true => simp [missed, List.rtakeWhile_concat_neg]
    | false => simp [missed, unbroken, List.rdropWhile_concat_neg]

/-- The poller after turns: how long its history can get, what marks a blocked response there,
whether the last fetch missed, and what the history holds. -/
structure Tracks (n : Nat) (marker : String) (turns : List Turn) (p : Poller) : Prop where
  capacity : p.history.capacity = n
  marker : p.history.marker = marker
  connected : p.connected = !turns.getLast?.any Turn.missed
  entries : p.history.entries = ((unbroken turns).filterMap Turn.entry?).rtake n

theorem Tracks.turn {n : Nat} {marker : String} {turns : List Turn} {p : Poller}
    (tracks : Tracks n marker turns p) (t : Turn) :
    Tracks n marker (turns ++ [t]) (p.poll t.fetch t.time).poller := by
  cases missed : t.missed with
  | true =>
    rw [poll_of_missed p missed]
    exact ⟨tracks.capacity, tracks.marker, by simp [missed],
      by rw [unbroken_concat_of_missed turns missed]; exact tracks.entries⟩
  | false =>
    obtain ⟨connected, marker, capacity, entries⟩ := poll_of_not_missed p missed
    refine ⟨capacity.trans tracks.capacity, marker.trans tracks.marker, by simp [connected, missed], ?_⟩
    have single : [t].filterMap Turn.entry? = t.entry?.toList := by
      cases entry : t.entry? <;> simp [entry]
    rw [entries, tracks.capacity, tracks.connected, tracks.entries, unbroken_concat_of_not_missed turns missed,
      List.filterMap_append, single]
    -- The newest entries are those that `rtake` takes, by definition.
    cases turns.getLast?.any Turn.missed with
    | true => rfl
    | false => exact newest_append_newest n _ _

theorem tracks_afterTurns (capacity : Int) (marker : String) (interval : Float) (turns : List Turn) :
    Tracks (max 1 capacity).toNat marker turns
      ((create (History.create capacity marker) interval).afterTurns turns) := by
  induction turns using List.reverseRecOn with
  | nil => exact ⟨History.capacity_create capacity marker, rfl, rfl, by simp [unbroken]; rfl⟩
  | append_singleton turns t ih =>
    rw [afterTurns, List.foldl_concat]
    exact ih.turn t

/-! ## Neighbours -/

/-- Entries that follow each other come from turns between which all others left no entry. -/
theorem joined_of_neighbours {turns : List Turn} (reached : ∀ t ∈ turns, t.missed = false) {older newer : List Entry}
    {a b : Entry} (split : turns.filterMap Turn.entry? = older ++ a :: b :: newer) : Joined turns a b := by
  obtain ⟨before, rest, rfl, -, rest_entries⟩ := List.filterMap_eq_append_iff.1 split
  obtain ⟨skipped, s, rest, rfl, -, left, rest_entries⟩ := List.filterMap_eq_cons_iff.1 rest_entries
  obtain ⟨between, t, after, rfl, -, right, -⟩ := List.filterMap_eq_cons_iff.1 rest_entries
  refine ⟨before ++ skipped, s, between, t, after, by simp, left, right, ?_⟩
  intro u mem
  exact reached u (by simp [mem])

theorem missed_of_mem_unbroken {turns : List Turn} {t : Turn} (mem : t ∈ unbroken turns) : t.missed = false := by
  simpa using List.mem_rtakeWhile_imp mem

theorem unbroken_infix (turns : List Turn) : unbroken turns <:+: turns :=
  (List.rtakeWhile_suffix _ _).isInfix.trans (List.rdropWhile_prefix _ _).isInfix

theorem Tracks.joined {n : Nat} {marker : String} {turns : List Turn} {p : Poller} (tracks : Tracks n marker turns p)
    {older newer : List Entry} {a b : Entry} (split : p.history.entries = older ++ a :: b :: newer) :
    Joined turns a b := by
  obtain ⟨dropped, log⟩ : ((unbroken turns).filterMap Turn.entry?).rtake n <:+ (unbroken turns).filterMap Turn.entry? :=
    List.drop_suffix _ _
  rw [← tracks.entries, split, ← List.append_assoc] at log
  obtain ⟨before, after, widened⟩ := unbroken_infix turns
  rw [← widened]
  exact (joined_of_neighbours (fun _ => missed_of_mem_unbroken) log.symm).widen before after

/-- After any cycles of a new poller, whatever their fetches bring and their clock says: it is connected
iff the last fetch, if there was one, brought a payload; and the history holds the newest entries of
the turns since the last outage, as many as its capacity allows. No two neighbouring entries have a
miss between them, and so no difference and no point of the activity spans one. -/
theorem entries_afterTurns (capacity : Int) (marker : String) (interval : Float) (turns : List Turn) :
    let p := (create (History.create capacity marker) interval).afterTurns turns
    (p.connected = true ↔ turns = [] ∨ ∃ text time, turns.getLast? = some ⟨.payload text, time⟩) ∧
    p.history.entries = ((unbroken turns).filterMap Turn.entry?).rtake (max 1 capacity).toNat ∧
    (∀ older a b newer, p.history.entries = older ++ a :: b :: newer → Joined turns a b) ∧
    (∀ extract d, p.history.delta extract = .value d ∨ p.history.delta extract = .reset d →
      ∃ a b, Joined turns a b ∧ d = extract b.snapshot - extract a.snapshot) ∧
    ∀ point ∈ p.history.activity, ∃ a b, Joined turns a b ∧ ActivityPoint.between? marker a b = some point := by
  intro p
  have tracks : Tracks (max 1 capacity).toNat marker turns p := tracks_afterTurns capacity marker interval turns
  refine ⟨?connected, tracks.entries, fun _ _ _ _ => tracks.joined, ?delta, ?activity⟩
  case connected =>
    rw [tracks.connected]
    cases turns using List.reverseRecOn with
    | nil => simp
    | append_singleton turns last =>
      obtain ⟨fetch, time⟩ := last
      simp [Turn.missed_eq_false_iff]
  case delta =>
    intro extract d told
    obtain ⟨older, a, b, split, difference⟩ := History.exists_newest_of_delta told
    exact ⟨a, b, tracks.joined split, difference⟩
  case activity =>
    intro point mem
    obtain ⟨older, a, b, newer, split, between⟩ := ActivityPoint.exists_neighbours_of_mem_series mem
    rw [tracks.marker] at between
    exact ⟨a, b, tracks.joined split, between⟩

end ResolverWatch.Poller
