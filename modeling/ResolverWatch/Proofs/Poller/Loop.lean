import Mathlib.Data.List.Basic
import Mathlib.Logic.Function.Iterate
import ResolverWatch.Poller

/-!
# A run is a row of polls

A run goes on, a cycle and a wait at a time, until a wait ends it. Neither what a fetch brings nor a failure of the
clock does: the first wait that the signal answers with an end does (`runFrom_eq`). A signal that is there from the
`n`-th wait on lets `max 1 n` cycles through. They are as many polls, each of whose failures is reported and dropped
(`run_eq_polls`). An event does the same as long as the platform can wait for the poller's interval, and otherwise ends
the run with the error of the first wait that finds it unset.
-/

namespace ResolverWatch.Session

open Log

variable {γ : Type} [TimeSource γ]

/-- The result of a poll, or how it failed, and what was reported. -/
abbrev Told := Except String (Option Snapshot) × List Notice

/-- The session after polls in a row, whatever they result in. -/
def afterPolls (n : Nat) (s : Session γ) : Session γ :=
  (fun s => s.poll.1)^[n] s

/-- What polls in a row tell, each on its own. -/
def polls : Nat → Session γ → List Told
  | 0, _ => []
  | n + 1, s => s.poll.2 :: polls n s.poll.1

/-- What a run reports of a poll: all that the poll reports, and behind it the failure of the poll, if it failed. -/
def reported : Told → List Notice
  | (.ok _, notices) => notices
  | (.error reason, notices) => notices ++ [.pollFailed reason]

/-- The ending of a run after so many polls. -/
def ended (n : Nat) (halt : Halt) (s : Session γ) : Ending γ where
  session := s.afterPolls n
  notices := (s.polls n).flatMap reported
  waits := List.replicate n s.poller.interval
  halt := halt

/-! ## One cycle -/

theorem cycle_eq (s : Session γ) : s.cycle = (s.poll.1, reported s.poll.2) := by
  unfold cycle reported
  obtain ⟨after, result, notices⟩ := s.poll
  cases result <;> rfl

/-- A cycle leaves the time between fetches as it is. -/
theorem interval_poll (s : Session γ) : s.poll.1.poller.interval = s.poller.interval := by
  have reach : s.poller.reach.1.interval = s.poller.interval := by
    unfold Poller.reach
    split_ifs <;> rfl
  show (s.poller.poll s.next.fetch s.reading).poller.interval = _
  unfold Poller.poll
  cases s.next.fetch with
  | nothing | failure => rfl
  | payload text =>
    rw [← reach]
    unfold Poller.take
    cases s.reading <;> rfl

/-- A poll reports what its fetch came to and nothing of its own failure. -/
theorem pollFailed_not_mem_poll (s : Session γ) (reason : String) : .pollFailed reason ∉ s.poll.2.2 := by
  have reach : .pollFailed reason ∉ s.poller.reach.2 := by
    unfold Poller.reach
    split_ifs <;> simp
  show .pollFailed reason ∉ (s.poller.poll s.next.fetch s.reading).notices
  unfold Poller.poll
  cases s.next.fetch with
  | nothing | failure =>
    unfold Poller.miss
    split_ifs <;> simp
  | payload text =>
    unfold Poller.take
    cases s.reading <;> simp [reach]

/-! ## Polls in a row -/

theorem length_polls (n : Nat) (s : Session γ) : (s.polls n).length = n := by
  induction n generalizing s with
  | zero => rfl
  | succ n ih =>
    show (s.poll.1.polls n).length + 1 = n + 1
    rw [ih]

theorem mem_polls {n : Nat} {s : Session γ} {told : Told} (mem : told ∈ s.polls n) :
    ∃ before : Session γ, told = before.poll.2 := by
  induction n generalizing s with
  | zero => exact absurd mem List.not_mem_nil
  | succ n ih =>
    rcases List.mem_cons.1 mem with rfl | later
    · exact ⟨s, rfl⟩
    · exact ih later

/-- A poll in front of others. -/
theorem behind_ended (n : Nat) (halt : Halt) (s : Session γ) :
    (s.poll.1.ended n halt).behind (reported s.poll.2) s.poller.interval = s.ended (n + 1) halt := by
  unfold ended Ending.behind
  rw [interval_poll]
  rfl

/-! ## The loop -/

theorem runFrom_succ (signal : Signal) (cycles k : Nat) (s : Session γ) :
    s.runFrom signal (cycles + 1) k =
      match signal k s.poller.interval with
      | some halt => some (s.ended 1 halt)
      | none => (s.poll.1.runFrom signal cycles (k + 1)).map (·.behind (reported s.poll.2) s.poller.interval) := by
  rw [runFrom, cycle_eq]
  simp only [interval_poll]
  cases signal k s.poller.interval with
  | none => rfl
  | some halt =>
    show some (Ending.mk _ _ _ _) = some (Ending.mk _ ([s.poll.2].flatMap reported) _ _)
    rw [List.flatMap_singleton]
    rfl

/-- A run goes on up to the first wait that ends it, and no further. -/
theorem runFrom_eq {signal : Signal} {k n : Nat} {s : Session γ} {halt : Halt}
    (ends : signal (k + n) s.poller.interval = some halt) (goesOn : ∀ j < n, signal (k + j) s.poller.interval = none)
    (cycles : Nat) : s.runFrom signal cycles k = if cycles ≤ n then none else some (s.ended (n + 1) halt) := by
  induction n generalizing k s cycles with
  | zero =>
    cases cycles with
    | zero => rfl
    | succ cycles =>
      rw [runFrom_succ, show signal k s.poller.interval = some halt from ends]
      rfl
  | succ n ih =>
    cases cycles with
    | zero => rfl
    | succ cycles =>
      have later : ∀ j, k + 1 + j = k + (j + 1) := by omega
      have rest : s.poll.1.runFrom signal cycles (k + 1) =
          if cycles ≤ n then none else some (s.poll.1.ended (n + 1) halt) := by
        apply ih
        · rw [interval_poll, later]
          exact ends
        · intro j less
          rw [interval_poll, later]
          exact goesOn (j + 1) (by omega)
      rw [runFrom_succ, show signal k s.poller.interval = none from goesOn 0 (Nat.succ_pos n), rest]
      by_cases few : cycles ≤ n
      · rw [if_pos few, if_pos (Nat.succ_le_succ few)]
        rfl
      · rw [if_neg few, if_neg (fun more => few (Nat.le_of_succ_le_succ more)), ← behind_ended (n + 1)]
        rfl

theorem since_eq (n k : Nat) (timeout : Float) :
    Signal.since n k timeout = if n ≤ k then some .stopped else none :=
  rfl

theorem event_eq (longest : Float) (n k : Nat) (timeout : Float) :
    Signal.event longest n k timeout =
      if n ≤ k then some .stopped else if longest < timeout then some .overlong else none :=
  rfl

/-- A run whose stop signal is there from the `n`-th wait on. -/
theorem run_since (n cycles : Nat) (s : Session γ) :
    s.run (.since n) cycles = if cycles < max 1 n then none else some (s.ended (max 1 n) .stopped) := by
  have last : max 1 n - 1 + 1 = max 1 n := by omega
  have run : s.runFrom (.since n) cycles 1 =
      if cycles ≤ max 1 n - 1 then none else some (s.ended (max 1 n - 1 + 1) .stopped) := by
    apply runFrom_eq
    · rw [since_eq, if_pos (by omega)]
    · intro j less
      rw [since_eq, if_neg (by omega)]
  have few : cycles ≤ max 1 n - 1 ↔ cycles < max 1 n := by omega
  rw [Session.run, run, last]
  simp only [few]

/-- An event that the first wait finds unset ends a run there if the platform cannot wait for the interval. Otherwise it
is as good as a signal that answers each wait. -/
theorem run_event (longest : Float) (n cycles : Nat) (s : Session γ) :
    s.run (.event longest n) cycles =
      if 1 < n ∧ longest < s.poller.interval then
        if cycles < 1 then none else some (s.ended 1 .overlong)
      else s.run (.since n) cycles := by
  split_ifs with refused early
  · rw [Nat.lt_one_iff.1 early]
    rfl
  · have first : s.runFrom (.event longest n) cycles 1 =
        if cycles ≤ 0 then none else some (s.ended (0 + 1) .overlong) := by
      apply runFrom_eq
      · rw [event_eq, if_neg (by omega), if_pos refused.2]
      · exact fun j less => absurd less (Nat.not_lt_zero j)
    rw [Session.run, first, if_neg (by omega)]
  · have last : max 1 n - 1 + 1 = max 1 n := by omega
    have run : s.runFrom (.event longest n) cycles 1 =
        if cycles ≤ max 1 n - 1 then none else some (s.ended (max 1 n - 1 + 1) .stopped) := by
      apply runFrom_eq
      · rw [event_eq, if_pos (by omega)]
      · intro j less
        rw [event_eq, if_neg (by omega), if_neg]
        exact fun overlong => refused ⟨by omega, overlong⟩
    have few : cycles ≤ max 1 n - 1 ↔ cycles < max 1 n := by omega
    rw [run_since, Session.run, run, last]
    simp only [few]

end ResolverWatch.Session
