import ResolverWatch.History.Delta
import ResolverWatch.Log.Notice
import ResolverWatch.Scrape

/-!
# Polling the resolver

A poller fetches payloads and pushes what they say onto a history. A fetch that brings nothing
disconnects it, and the first payload after that clears the history, so no interval spans an
outage. The clock that times an entry may fail; then the history is already cleared and the
poller connected, but nothing is pushed.

`Poller.poll` is one cycle, with the result of the fetch and the reading of the clock given.
`Session.poll` takes both from a feed of fetches and a clock, and `Session.run` repeats it until a
wait between two cycles sees the stop signal.
-/

namespace ResolverWatch

open Log

/-- What a fetch brings. -/
inductive Fetch
  | payload (text : String)
  | nothing
  | failure (reason : String)
  deriving DecidableEq, Repr

/-- A history, whether the last fetch brought a payload, and the seconds between two fetches. -/
structure Poller where
  history : History
  connected : Bool
  interval : Float

/-- The time between fetches unless another one is configured. -/
def Poller.defaultInterval : Float :=
  10.0

/-- A new poller. It waits at least a second between fetches. -/
def Poller.create (history : History) (interval : Float) : Poller where
  history := history
  connected := true
  interval := if 1.0 < interval then interval else 1.0

/-- What became of one cycle: the poller after it, its result (a snapshot, nothing, or the failure
of the clock), and what was reported. -/
structure Cycle where
  poller : Poller
  result : Except String (Option Snapshot)
  notices : List Notice

namespace Poller

/-- Notes that a fetch brought no payload. -/
def miss (p : Poller) (notices : List Notice) : Cycle where
  poller := { p with connected := false }
  result := .ok none
  notices := notices ++ if p.connected then [.endpointUnavailable] else []

/-- Notes that the endpoint is there: after a miss the history starts afresh. -/
def reach (p : Poller) : Poller × List Notice :=
  if p.connected then (p, [])
  else ({ p with history := p.history.clear, connected := true }, [.endpointReachable, .historyCleared])

/-- Takes in a payload at the time that the clock tells, unless the clock fails. -/
def take (p : Poller) (text : String) (time : Except String Float) : Cycle :=
  let (p, notices) := p.reach
  let scrape := Scrape.read text.toList
  let notices := notices ++ [.payloadRead scrape.recognized scrape.skipped]
  match time with
  | .ok t =>
    ⟨{ p with history := p.history.push ⟨t, scrape.snapshot⟩ }, .ok (some scrape.snapshot), notices⟩
  | .error reason => ⟨p, .error reason, notices⟩

/-- One cycle. The clock is only read for a payload. -/
def poll (p : Poller) (fetch : Fetch) (time : Except String Float) : Cycle :=
  match fetch with
  | .payload text => p.take text time
  | .nothing => p.miss []
  | .failure reason => p.miss [.fetchFailed reason]

end Poller

/-- A coming fetch, and the failure of the clock when its payload is timed, if it will fail. -/
structure Outlook where
  fetch : Fetch
  clockFailure : Option String := none
  deriving DecidableEq, Repr

/-- What ends a run: a wait that sees the stop signal, or one whose timeout is longer than the platform
can wait. The error of the latter leaves the run, since waits are not guarded as polls are. -/
inductive Halt
  | stopped
  | overlong
  deriving DecidableEq, Repr

/-- What becomes of the waits of a run, counted from 1, by their timeouts: one that brings no end lets the
run go on. -/
abbrev Signal :=
  Nat → Float → Option Halt

namespace Signal

/-- A signal that answers each wait, and is there from the `n`-th one on. -/
def since (n : Nat) : Signal := fun k _ =>
  if n ≤ k then some .stopped else none

/-- An event set before the `n`-th wait, where the platform waits for so many seconds at most. An event
that is set ends a wait at once, whatever its timeout. -/
def event (longest : Float) (n : Nat) : Signal := fun k timeout =>
  if n ≤ k then some .stopped
  else if longest < timeout then some .overlong
  else none

end Signal

/-- A poller with its clock and the fetches to come; when they are used up, fetches bring nothing. -/
structure Session (γ : Type := Clock) where
  poller : Poller
  clock : γ
  outlooks : List Outlook

namespace Session

variable {γ : Type}

/-- The next fetch. -/
def next (s : Session γ) : Outlook :=
  s.outlooks.head?.getD ⟨.nothing, none⟩

variable [TimeSource γ]

/-- What the clock says during the next cycle. -/
def reading (s : Session γ) : Except String Float :=
  match s.next.clockFailure with
  | some reason => .error reason
  | none => .ok (TimeSource.tick s.clock).1

/-- The clock after the next cycle: it moves on when it has told a time. -/
def clockAfter (s : Session γ) : γ :=
  match s.next with
  | ⟨.payload _, none⟩ => (TimeSource.tick s.clock).2
  | _ => s.clock

/-- One cycle: the session after it, its result and what was reported. -/
def poll (s : Session γ) : Session γ × Except String (Option Snapshot) × List Notice :=
  let cycle := s.poller.poll s.next.fetch s.reading
  (⟨cycle.poller, s.clockAfter, s.outlooks.tail⟩, cycle.result, cycle.notices)

/-- One cycle of a run, in which a failure is reported and not passed on. -/
def cycle (s : Session γ) : Session γ × List Notice :=
  let (s, result, notices) := s.poll
  match result with
  | .ok _ => (s, notices)
  | .error reason => (s, notices ++ [.pollFailed reason])

/-- What a run leaves: the session, what was reported, how long each wait was to take, and why it ended. -/
structure Ending (γ : Type := Clock) where
  session : Session γ
  notices : List Notice
  waits : List Float
  halt : Halt

/-- The same ending for a run that had one more cycle before. -/
def Ending.behind (e : Ending γ) (notices : List Notice) (timeout : Float) : Ending γ :=
  { e with notices := notices ++ e.notices, waits := timeout :: e.waits }

/-- A run from before the `k`-th wait on: a cycle, a wait, and the same again unless this wait ended the
run. Nothing comes out when it is still going after the given number of cycles. -/
def runFrom (signal : Signal) : Nat → Nat → Session γ → Option (Ending γ)
  | 0, _, _ => none
  | cycles + 1, k, s =>
    let (s, notices) := s.cycle
    let timeout := s.poller.interval
    match signal k timeout with
    | some halt => some ⟨s, notices, [timeout], halt⟩
    | none => (runFrom signal cycles (k + 1) s).map (·.behind notices timeout)

/-- A run, watched for a number of cycles. -/
def run (signal : Signal) (cycles : Nat) (s : Session γ) : Option (Ending γ) :=
  s.runFrom signal cycles 1

end Session

end ResolverWatch
