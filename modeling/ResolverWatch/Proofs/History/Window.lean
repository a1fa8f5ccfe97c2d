import Mathlib.Data.List.DropRight
import Mathlib.Logic.Function.Iterate
import ResolverWatch.History.Delta

/-!
# A history is a window on a log

What is pushed onto a history also goes onto a log without a bound, which a clear empties. After any
calls the history holds the newest entries of this log, as many as its capacity allows; the clock was
asked once for each push that came without a time, and reading changed nothing (`entries_performAll`).
-/

namespace ResolverWatch

namespace TimeSource

variable {γ : Type} [TimeSource γ]

/-- A source of time after it was asked `n` times. -/
def after (clock : γ) (n : Nat) : γ :=
  (fun c => (tick c).2)^[n] clock

/-- What a source of time tells when it was asked `n` times before. -/
def told (clock : γ) (n : Nat) : Float :=
  (tick (after clock n)).1

theorem after_succ (clock : γ) (n : Nat) : after clock (n + 1) = (tick (after clock n)).2 :=
  Function.iterate_succ_apply' _ n clock

end TimeSource

namespace History

/-- What can be read from a history. -/
inductive Query
  | size
  | entries
  | delta (extract : Snapshot → Float)
  | queries
  | blocked
  | activity

/-- What a read answers. -/
inductive Answer
  | size (n : Nat)
  | entries (es : List Entry)
  | delta (d : Delta)
  | figure (x : Option Float)
  | activity (points : List ActivityPoint)

/-- The answer to a query. -/
def answer (h : History) : Query → Answer
  | .size => .size h.entries.length
  | .entries => .entries h.entries
  | .delta extract => .delta (h.delta extract)
  | .queries => .figure h.queriesDelta.value?
  | .blocked => .figure h.blockedDelta.value?
  | .activity => .activity h.activity

/-- What a caller can do with a history. -/
inductive Call
  | push (s : Snapshot) (time : Option Float)
  | clear
  | read (q : Query)

namespace Call

/-- A push without a time has to ask the clock. -/
def asksClock : Call → Bool
  | push _ none => true
  | _ => false

def isClear : Call → Bool
  | clear => true
  | _ => false

def isRead : Call → Bool
  | read _ => true
  | _ => false

/-- What a call pushes if the clock, when asked, tells the given time. -/
def entry? (told : Float) : Call → Option Entry
  | push s time => some ⟨time.getD told, s⟩
  | _ => none

end Call

section Calls

variable {γ : Type} [TimeSource γ]

/-- One call: the history and its clock after it. -/
def perform : History × γ → Call → History × γ
  | (h, clock), .push s time => h.capture clock s time
  | (h, clock), .clear => (h.clear, clock)
  | (h, clock), .read _ => (h, clock)

/-- Calls in order. -/
def performAll (start : History × γ) (calls : List Call) : History × γ :=
  calls.foldl perform start

/-- The log after calls: what each one pushed, unless a clear came after it. The time of a push is
its own, or what the clock tells after all the pushes before it that had to ask. -/
def log (clock : γ) (calls : List Call) : List Entry :=
  (List.range calls.length).filterMap fun i =>
    if (calls.drop i).any Call.isClear then none
    else calls[i]?.bind (Call.entry? (TimeSource.told clock ((calls.take i).countP Call.asksClock)))

/-- A clear empties the log, a push extends it and a read leaves it. -/
theorem log_concat (clock : γ) (calls : List Call) (c : Call) :
    log clock (calls ++ [c]) =
      if c.isClear then []
      else log clock calls ++ (c.entry? (TimeSource.told clock (calls.countP Call.asksClock))).toList := by
  have earlier : ∀ i ∈ List.range calls.length,
      (if ((calls ++ [c]).drop i).any Call.isClear then none
        else (calls ++ [c])[i]?.bind
          (Call.entry? (TimeSource.told clock (((calls ++ [c]).take i).countP Call.asksClock)))) =
      if c.isClear then none
      else if (calls.drop i).any Call.isClear then none
      else calls[i]?.bind (Call.entry? (TimeSource.told clock ((calls.take i).countP Call.asksClock))) := by
    intro i mem
    have lt : i < calls.length := List.mem_range.1 mem
    rw [List.drop_append_of_le_length lt.le, List.take_append_of_le_length lt.le, List.getElem?_append_left lt]
    cases c <;> simp [Call.isClear]
  unfold log
  rw [List.length_append, List.length_singleton, List.range_succ, List.filterMap_append, List.filterMap_congr earlier]
  cases c <;> simp [Call.isClear, Call.entry?]

theorem log_concat_push (clock : γ) (calls : List Call) (s : Snapshot) (time : Option Float) :
    log clock (calls ++ [.push s time]) =
      log clock calls ++ [⟨time.getD (TimeSource.told clock (calls.countP Call.asksClock)), s⟩] := by
  rw [log_concat]
  rfl

theorem log_concat_clear (clock : γ) (calls : List Call) : log clock (calls ++ [.clear]) = [] := by
  rw [log_concat]
  rfl

theorem log_concat_read (clock : γ) (calls : List Call) (q : Query) :
    log clock (calls ++ [.read q]) = log clock calls := by
  rw [log_concat]
  exact List.append_nil _

/-- The history is the window on the log, and the clock was asked as often as calls had to ask. -/
structure Follows (n : Nat) (clock : γ) (calls : List Call) (state : History × γ) : Prop where
  capacity : state.1.capacity = n
  entries : state.1.entries = (log clock calls).rtake n
  asked : state.2 = TimeSource.after clock (calls.countP Call.asksClock)

theorem follows_create (capacity : Int) (marker : String) (clock : γ) :
    Follows (max 1 capacity).toNat clock [] (create capacity marker, clock) where
  capacity := capacity_create capacity marker
  entries := by simp [log]
  asked := rfl

theorem Follows.call {n : Nat} {clock : γ} {calls : List Call} {state : History × γ}
    (follows : Follows n clock calls state) (c : Call) : Follows n clock (calls ++ [c]) (perform state c) := by
  obtain ⟨h, now⟩ := state
  obtain ⟨capacity, entries, asked⟩ := follows
  simp only at capacity entries asked
  have pushed (e : Entry) : (h.push e).entries = (log clock calls ++ [e]).rtake n := by
    rw [entries_push, capacity, entries]
    -- The newest entries are those that `rtake` takes, by definition.
    exact newest_append_newest n (log clock calls) [e]
  have unasked (silent : c.asksClock = false) :
      now = TimeSource.after clock ((calls ++ [c]).countP Call.asksClock) := by
    simpa [silent] using asked
  cases c with
  | push s time =>
    cases time with
    | some t => exact ⟨capacity, by rw [log_concat_push]; exact pushed ⟨t, s⟩, unasked rfl⟩
    | none =>
      refine ⟨capacity, ?_, ?_⟩
      · rw [log_concat_push, TimeSource.told, ← asked]
        exact pushed ⟨(TimeSource.tick now).1, s⟩
      · rw [List.countP_append, show [Call.push s none].countP Call.asksClock = 1 from rfl, TimeSource.after_succ,
          ← asked]
        rfl
  | clear => exact ⟨capacity, by rw [log_concat_clear, List.rtake_nil]; rfl, unasked rfl⟩
  | read q => exact ⟨capacity, by rw [log_concat_read]; exact entries, unasked rfl⟩

theorem follows_performAll (capacity : Int) (marker : String) (clock : γ) (calls : List Call) :
    Follows (max 1 capacity).toNat clock calls (performAll (create capacity marker, clock) calls) := by
  induction calls using List.reverseRecOn with
  | nil => exact follows_create capacity marker clock
  | append_singleton calls c ih =>
    rw [performAll, List.foldl_concat]
    exact ih.call c

theorem performAll_filter_not_isRead (start : History × γ) (calls : List Call) :
    performAll start (calls.filter fun c => !c.isRead) = performAll start calls := by
  induction calls generalizing start with
  | nil => rfl
  | cons c calls ih =>
    cases c with
    | push s time => exact ih _
    | clear => exact ih _
    | read q => exact ih start

/-- After any calls on a new history, of whatever capacity and with whatever clock, its entries are
the newest of the log, one at least can be kept, and no more are kept than the capacity says. The
clock was asked once for each push without a time, and leaving all reads out makes no difference. -/
theorem entries_performAll (capacity : Int) (marker : String) (clock : γ) (calls : List Call) :
    let state := performAll (create capacity marker, clock) calls
    state.1.answer .entries = .entries ((log clock calls).rtake (max 1 capacity).toNat) ∧
    state.1.answer .size = .size ((log clock calls).rtake (max 1 capacity).toNat).length ∧
    state.1.capacity = (max 1 capacity).toNat ∧ 1 ≤ state.1.capacity ∧ state.1.entries.length ≤ state.1.capacity ∧
    state.2 = TimeSource.after clock (calls.countP Call.asksClock) ∧
    performAll (create capacity marker, clock) (calls.filter fun c => !c.isRead) = state := by
  intro state
  have follows := follows_performAll capacity marker clock calls
  refine ⟨?entries, ?size, follows.capacity, state.1.capacity_pos, state.1.length_le, follows.asked,
    performAll_filter_not_isRead _ calls⟩
  case entries => rw [answer, follows.entries]
  case size => rw [answer, follows.entries]

/-- A clear drops what was pushed but does not turn the clock back. -/
example : (log (⟨5.0, 1.0⟩ : Clock)
    [.push {} none, .clear, .push {} none, .read .size, .push {} (some 0.0)]).map Entry.time = [6.0, 0.0] := by
  decide +kernel

end Calls

end History

end ResolverWatch
