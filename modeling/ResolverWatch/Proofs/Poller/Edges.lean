import Mathlib.Algebra.Group.Nat.Even
import ResolverWatch.Proofs.Poller.Outage

/-!
# What is reported of an outage

A poller reports an outage twice: when its first fetch misses, and when a fetch brings a payload again. The second
report goes with the clearing of the history, which happens at no other time. What a cycle reports depends on its own
turn and on whether the turn before it missed (`notices_poll`), so over any cycles the two reports come in turn
(`edges_reports`), and each outage has one of the first and at most one of the second (`reports_outages`).
-/

namespace ResolverWatch.Poller

open Log

/-- What cycles in a row report, each on its own. -/
def reports (p : Poller) : List Turn → List (List Notice)
  | [] => []
  | t :: turns => (p.poll t.fetch t.time).notices :: reports (p.poll t.fetch t.time).poller turns

/-- The last of the turns missed. -/
def down (turns : List Turn) : Bool :=
  turns.getLast?.any Turn.missed

/-- A row of misses that is as long as it can be, between the turns before and after it. -/
structure IsOutage (before misses after : List Turn) : Prop where
  nonempty : misses ≠ []
  missed : ∀ t ∈ misses, t.missed = true
  begins : down before = false
  ends : ∀ t ∈ after.head?, t.missed = false

namespace Turn

/-- What is reported of a fetch that fails. -/
def failure : Turn → List Notice
  | ⟨.failure reason, _⟩ => [.fetchFailed reason]
  | _ => []

/-- What is reported where an outage begins or ends. -/
def change (t : Turn) (connected : Bool) : List Notice :=
  match t.missed, connected with
  | true, true => [.endpointUnavailable]
  | false, false => [.endpointReachable, .historyCleared]
  | _, _ => []

/-- What is reported of a payload. -/
def reading : Turn → List Notice
  | ⟨.payload text, _⟩ => [.payloadRead (Scrape.read text.toList).recognized (Scrape.read text.toList).skipped]
  | _ => []

end Turn

/-- The report tells that an outage begins or that it ends. -/
def isEdge : Notice → Bool
  | .endpointUnavailable | .endpointReachable => true
  | _ => false

/-- Outages that begin and end in turn. -/
def alternation (n : Nat) : List Notice :=
  (List.range n).map fun i => if Even i then .endpointUnavailable else .endpointReachable

/-! ## One cycle -/

/-- A cycle reports a failed fetch, then the begin or the end of an outage, then the payload. -/
theorem notices_poll (p : Poller) (t : Turn) :
    (p.poll t.fetch t.time).notices = t.failure ++ t.change p.connected ++ t.reading := by
  obtain ⟨fetch, time⟩ := t
  obtain ⟨history, connected, interval⟩ := p
  cases fetch with
  | payload text => cases time <;> cases connected <;> rfl
  | nothing | failure reason => cases connected <;> rfl

theorem failure_of_not_missed {t : Turn} (reached : t.missed = false) : t.failure = [] := by
  obtain ⟨fetch, time⟩ := t
  obtain ⟨text, rfl⟩ := (Turn.missed_eq_false_iff _).1 reached
  rfl

/-- A cycle clears the history where an outage ends, and then pushes the entry of the turn, if it has one. -/
theorem history_poll (p : Poller) (t : Turn) :
    let kept := if t.missed || p.connected then p.history else p.history.clear
    (p.poll t.fetch t.time).poller.history = t.entry?.elim kept kept.push := by
  obtain ⟨fetch, time⟩ := t
  obtain ⟨history, connected, interval⟩ := p
  cases fetch with
  | payload text => cases time <;> cases connected <;> rfl
  | nothing | failure reason => cases connected <;> rfl

theorem connected_poll (p : Poller) (t : Turn) : (p.poll t.fetch t.time).poller.connected = !t.missed := by
  obtain ⟨fetch, time⟩ := t
  obtain ⟨history, connected, interval⟩ := p
  cases fetch with
  | payload text => cases time <;> cases connected <;> rfl
  | nothing | failure reason => cases connected <;> rfl

theorem filter_isEdge_change (t : Turn) (connected : Bool) :
    (t.change connected).filter isEdge =
      if t.missed = connected then [if connected then .endpointUnavailable else .endpointReachable] else [] := by
  unfold Turn.change
  cases t.missed <;> cases connected <;> rfl

/-- A cycle tells of a begin or of an end iff its turn is not like the turn before it. -/
theorem filter_isEdge_poll (p : Poller) (t : Turn) :
    (p.poll t.fetch t.time).notices.filter isEdge =
      if t.missed = p.connected then [if p.connected then .endpointUnavailable else .endpointReachable] else [] := by
  have failure : t.failure.filter isEdge = [] := by
    unfold Turn.failure
    split <;> rfl
  have reading : t.reading.filter isEdge = [] := by
    unfold Turn.reading
    split <;> rfl
  rw [notices_poll, List.filter_append, List.filter_append, failure, reading, List.nil_append, List.append_nil,
    filter_isEdge_change]

/-! ## Cycles in a row -/

theorem reports_append (p : Poller) (turns more : List Turn) :
    p.reports (turns ++ more) = p.reports turns ++ (p.afterTurns turns).reports more := by
  induction turns generalizing p with
  | nil => rfl
  | cons first turns ih => exact congrArg _ (ih _)

theorem length_reports (p : Poller) (turns : List Turn) : (p.reports turns).length = turns.length := by
  induction turns generalizing p with
  | nil => rfl
  | cons first turns ih => exact congrArg _ (ih _)

theorem down_append {turns : List Turn} (nonempty : turns ≠ []) (before : List Turn) :
    down (before ++ turns) = down turns := by
  unfold down
  rw [List.getLast?_append_of_ne_nil _ nonempty]

theorem down_of_missed {turns : List Turn} (nonempty : turns ≠ []) (missed : ∀ t ∈ turns, t.missed = true) :
    down turns = true := by
  rw [down, List.getLast?_eq_some_getLast nonempty]
  exact missed _ (List.getLast_mem nonempty)

theorem down_concat (turns : List Turn) (t : Turn) : down (turns ++ [t]) = t.missed := by
  simp [down]

theorem alternation_succ (n : Nat) :
    alternation (n + 1) = alternation n ++ [if Even n then .endpointUnavailable else .endpointReachable] := by
  simp [alternation, List.range_succ]

/-- While fetches go on missing, nothing begins or ends. -/
theorem edges_reports_of_disconnected {p : Poller} (disconnected : p.connected = false) {turns : List Turn}
    (missed : ∀ t ∈ turns, t.missed = true) :
    (p.reports turns).map (·.filter isEdge) = List.replicate turns.length [] := by
  induction turns generalizing p with
  | nil => rfl
  | cons t turns ih =>
    obtain ⟨first, later⟩ := List.forall_mem_cons.1 missed
    have same : t.missed ≠ p.connected := by simp [first, disconnected]
    rw [reports, List.map_cons, filter_isEdge_poll, if_neg same, List.length_cons, List.replicate_succ,
      ih (by rw [connected_poll, first, Bool.not_true]) later]

/-- The cycles of an outage report its begin once, in the first of them. -/
theorem edges_reports_of_connected {p : Poller} (connected : p.connected = true) {turns : List Turn}
    (nonempty : turns ≠ []) (missed : ∀ t ∈ turns, t.missed = true) :
    (p.reports turns).map (·.filter isEdge) = [.endpointUnavailable] :: List.replicate (turns.length - 1) [] := by
  cases turns with
  | nil => contradiction
  | cons t turns =>
    obtain ⟨first, later⟩ := List.forall_mem_cons.1 missed
    rw [reports, List.map_cons, filter_isEdge_poll, if_pos (first.trans connected.symm), if_pos connected,
      List.length_cons, Nat.add_sub_cancel,
      edges_reports_of_disconnected (by rw [connected_poll, first, Bool.not_true]) later]

section New

variable (capacity : Int) (marker : String) (interval : Float)

theorem connected_afterTurns (turns : List Turn) :
    ((create (History.create capacity marker) interval).afterTurns turns).connected = !down turns :=
  (tracks_afterTurns capacity marker interval turns).connected

/-- The begin and the end of outages are reported in turn, and an outage has begun last iff the last turn missed. -/
theorem edges_reports (turns : List Turn) :
    ∃ n, ((create (History.create capacity marker) interval).reports turns).flatten.filter isEdge = alternation n ∧
      (Even n ↔ down turns = false) := by
  induction turns using List.reverseRecOn with
  | nil => exact ⟨0, rfl, by simp [down]⟩
  | append_singleton turns t ih =>
    obtain ⟨n, edges, parity⟩ := ih
    rw [reports_append, reports, reports, List.flatten_concat, List.filter_append, filter_isEdge_poll, edges,
      connected_afterTurns, down_concat]
    by_cases changed : t.missed = !down turns
    · have next : (if (!down turns) = true then Notice.endpointUnavailable else .endpointReachable) =
          if Even n then .endpointUnavailable else .endpointReachable := by simp [parity]
      refine ⟨n + 1, ?_, ?_⟩
      · rw [if_pos changed, next, alternation_succ]
      · rw [Nat.even_add_one, parity, changed]
        cases down turns <;> decide
    · have same : t.missed = down turns := by simpa using changed
      exact ⟨n, by rw [if_neg changed, List.append_nil], by rw [parity, same]⟩

/-- In any cycles of a new poller, whatever their fetches bring and their clock says, the reports that the endpoint is
unavailable and that it is reachable again come in turn, the former first. The cycles of an outage give the former once,
in the first of them, and not the latter; the cycle after the outage gives the latter, right before the history is
cleared, and then reads its payload. Of each cycle all reports are listed: a failed fetch, once and with its reason; the
begin or the end of an outage; a payload. The history is cleared where an outage ends and nowhere else. -/
theorem reports_outages (turns : List Turn) :
    let p := create (History.create capacity marker) interval
    (∃ n, (p.reports turns).flatten.filter isEdge = alternation n) ∧
    (∀ before misses after, turns = before ++ misses ++ after → IsOutage before misses after →
      ((p.afterTurns before).reports misses).map (·.filter isEdge) =
        [.endpointUnavailable] :: List.replicate (misses.length - 1) [] ∧
      ∀ t, after.head? = some t →
        ((p.afterTurns (before ++ misses)).poll t.fetch t.time).notices =
          .endpointReachable :: .historyCleared :: t.reading) ∧
    (∀ before t after, turns = before ++ t :: after →
      let start := p.afterTurns before
      let cycle := start.poll t.fetch t.time
      (p.reports turns)[before.length]? = some cycle.notices ∧
      cycle.notices = t.failure ++ t.change (!down before) ++ t.reading ∧
      let kept := if t.missed || !down before then start.history else start.history.clear
      cycle.poller.history = t.entry?.elim kept kept.push) ∧
    Notice.endpointUnavailable.level = .warning ∧
    Notice.endpointUnavailable.message = "Metrics endpoint unavailable; waiting for reconnect" ∧
    Notice.endpointReachable.level = .info ∧
    Notice.endpointReachable.message = "Metrics endpoint reachable again; resetting history" ∧
    ∀ reason, (Notice.fetchFailed reason).level = .warning ∧
      (Notice.fetchFailed reason).message = s!"Metrics fetch failed: {reason}" := by
  intro p
  have connected := connected_afterTurns capacity marker interval
  refine ⟨?turns, ?outages, ?cycles, rfl, rfl, rfl, rfl, fun reason => ⟨rfl, rfl⟩⟩
  case turns =>
    obtain ⟨n, edges, -⟩ := edges_reports capacity marker interval turns
    exact ⟨n, edges⟩
  case outages =>
    rintro before misses after - outage
    constructor
    · apply edges_reports_of_connected _ outage.nonempty outage.missed
      rw [connected, outage.begins, Bool.not_false]
    · intro t next
      have reached : t.missed = false := outage.ends t next
      have gone : down (before ++ misses) = true :=
        (down_append outage.nonempty before).trans (down_of_missed outage.nonempty outage.missed)
      have ends : t.change (!true) = [.endpointReachable, .historyCleared] := by
        unfold Turn.change
        rw [reached]
        rfl
      rw [notices_poll, failure_of_not_missed reached, connected, gone, ends]
      rfl
  case cycles =>
    rintro before t after rfl
    refine ⟨?_, ?_, ?_⟩
    · rw [reports_append, List.getElem?_append_right (length_reports p before).le, length_reports, Nat.sub_self]
      rfl
    · rw [notices_poll, connected]
    · rw [history_poll, connected]

end New

/-- An outage of two cycles, and the payload after it. -/
example :
    let turns : List Turn :=
      [⟨.nothing, .error "stopped"⟩, ⟨.failure "refused", .ok 1.0⟩, ⟨.payload "blocky_query_total 7", .ok 2.0⟩]
    ((create (History.create 3 defaultMarker) 5.0).reports turns).map (·.map Notice.message) =
      [["Metrics endpoint unavailable; waiting for reconnect"],
        ["Metrics fetch failed: refused"],
        ["Metrics endpoint reachable again; resetting history", "Snapshot history cleared",
          "Parsed metrics payload: 1 recognized lines, 0 malformed lines skipped"]] := by
  decide +kernel

end ResolverWatch.Poller
