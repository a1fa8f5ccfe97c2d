import Mathlib.Logic.Function.Iterate
import ResolverWatch.Config.Lenient
import ResolverWatch.Poller
import ResolverWatch.Program
import ResolverWatch.Proofs.History.Figures
import ResolverWatch.Proofs.Log.Files
import ResolverWatch.Proofs.Text.Newline
import ResolverWatch.Proofs.Text.Utf8
import ResolverWatch.Yaml.Document

/-!
# Replaying and polling

A replay reads payloads from files and times them by their positions; a poller gets them from fetches
and times them by its clock. Both push the same snapshots, so they tell the same figures
(`Replay.agrees_with_polling`): the times that a replay prints are its own, and payloads older than
the capacity of the history are not seen in what it prints.
-/

namespace ResolverWatch

open Text

/-- What a payload says. -/
def snapshotOf (text : String) : Snapshot :=
  (Scrape.read text.toList).snapshot

/-! ## Polling -/

namespace Session

variable {γ : Type} [TimeSource γ]

/-- A session whose fetches bring payloads one after the other. -/
def ofPayloads (p : Poller) (clock : γ) (texts : List String) : Session γ where
  poller := p
  clock := clock
  outlooks := texts.map fun text => ⟨.payload text, none⟩

/-- One cycle of a connected poller pushes what the payload says at the time of the clock. -/
theorem poll_ofPayloads_cons {p : Poller} (connected : p.connected = true) (clock : γ) (text : String)
    (texts : List String) :
    (ofPayloads p clock (text :: texts)).poll.1 =
      ofPayloads { p with history := p.history.push ⟨(TimeSource.tick clock).1, snapshotOf text⟩ }
        (TimeSource.tick clock).2 texts := by
  have reached : p.reach = (p, []) := by rw [Poller.reach, if_pos connected]
  show (⟨(p.take text (.ok (TimeSource.tick clock).1)).poller, _, _⟩ : Session γ) = _
  rw [Poller.take, reached]
  rfl

/-- After a cycle for each payload the history has been given what the payloads say, in order. -/
theorem iterate_poll_ofPayloads {p : Poller} (connected : p.connected = true) (clock : γ) (texts : List String) :
    ∃ entries, entries.map Entry.snapshot = texts.map snapshotOf ∧
      ((fun s : Session γ => s.poll.1)^[texts.length] (ofPayloads p clock texts)).poller.history =
        p.history.pushAll entries := by
  induction texts generalizing p clock with
  | nil => exact ⟨[], rfl, rfl⟩
  | cons text texts ih =>
    -- A cycle that gets its payload leaves the poller connected, which is what the next one needs.
    obtain ⟨entries, same, history⟩ :=
      ih (p := { p with history := p.history.push ⟨(TimeSource.tick clock).1, snapshotOf text⟩ }) connected
        (TimeSource.tick clock).2
    refine ⟨⟨(TimeSource.tick clock).1, snapshotOf text⟩ :: entries, by rw [List.map_cons, List.map_cons, same], ?_⟩
    rw [List.length_cons, Function.iterate_succ_apply, poll_ofPayloads_cons connected, history]
    rfl

end Session

/-! ## Replaying -/

/-- A command line that replays files, the machine that it runs on, its settings, and what stands in the files. -/
structure Replay where
  machine : Machine
  arguments : List String
  config : Option String
  files : List String
  given : Option Float
  settings : Config
  texts : List String

namespace Replay

/-- The files before the replay. -/
def storage (r : Replay) : Storage :=
  r.machine.journal.storage

/-- The seconds between two scrapes. -/
def interval (r : Replay) : Float :=
  r.given.getD r.settings.interval

/-- The place of the log file, if one is asked for. -/
def log (r : Replay) : Option Place :=
  Log.Journal.logPlace? r.storage r.settings.logging

/-- A path leads to a file that holds a text, and neither means the standard input nor the log file. -/
structure Holds (r : Replay) (path text : String) : Prop where
  file : path ≠ "-"
  notLog : ∀ p, r.storage.follow (r.storage.origin path) (Storage.names path) = .ok p → r.log ≠ some p
  read : r.storage.read path = .ok text.toUTF8.data.toList
  plain : '\r' ∉ text.toList

/-- The command line asks for the replay and can be carried out. -/
structure Ready [Yaml.Reader] [Config.Validator] (r : Replay) : Prop where
  command : Command.Invocation.ofArguments r.arguments = .ok ⟨r.config, .replay r.files r.given⟩
  configured : Config.load r.storage r.config = .ok r.settings
  capacity : 1 ≤ r.settings.capacity
  fresh : r.machine.journal.sinks = []
  logs : (r.machine.journal.setUp r.settings.logging).2 = none
  inputs : List.Forall₂ r.Holds r.files r.texts

/-- The time of the scrape at a position. -/
def time (r : Replay) (i : Nat) : Float :=
  r.machine.now + Float.ofInt i * r.interval

/-- The scrape at a position. -/
def entry (r : Replay) (p : String × Nat) : Entry :=
  ⟨r.time p.2, snapshotOf p.1⟩

/-- The history of the replay. -/
def history (r : Replay) : History :=
  (History.create r.settings.capacity r.settings.marker).pushAll (r.texts.zipIdx.map r.entry)

variable {r : Replay}

theorem scrape_of_holds {m : Machine} {path text : String} (holds : r.Holds path text)
    (guards : m.journal.Guards r.storage r.log) : ∃ n, m.scrape path = (m.note n, .ok (snapshotOf text)) := by
  have read : m.journal.storage.read path = .ok text.toUTF8.data.toList := guards.keeps.read holds.read holds.notLog
  have payload : unifyNewlines (Utf8.decodeLossy text.toUTF8.data.toList) = text.toList := by
    rw [Utf8.toUTF8_eq_encode, Utf8.decodeLossy_encode, unifyNewlines_of_not_mem holds.plain]
  have scraped := Machine.scrape_of_read holds.file read
  rw [payload] at scraped
  exact ⟨_, scraped⟩

/-- Replaying files pushes what they say, each at the time of its position. -/
theorem replay_of_holds {m : Machine} (guards : m.journal.Guards r.storage r.log) (now : m.now = r.machine.now)
    {files texts : List String} (inputs : List.Forall₂ r.Holds files texts) (h : History) (i : Nat) :
    ∃ n, m.replay r.interval h i files = (n, .ok (h.pushAll ((texts.zipIdx i).map r.entry))) := by
  induction inputs generalizing m h i with
  | nil => exact ⟨m, rfl⟩
  | @cons path text files texts holds inputs ih =>
    obtain ⟨n, scraped⟩ := scrape_of_holds holds guards
    -- What is noted about this payload may go to the log file, which is none of the files still to come.
    have guarded : (m.note n).journal.Guards r.storage r.log := guards.note m.now n
    obtain ⟨final, rest⟩ := ih guarded now (h.push ⟨m.now + Float.ofInt i * r.interval, snapshotOf text⟩) (i + 1)
    refine ⟨final, ?_⟩
    rw [Machine.replay, scraped]
    dsimp only
    rw [show (m.note n).now = m.now from rfl, rest, now]
    rfl

section Loading

variable [Yaml.Reader] [Config.Validator]

/-- Once the settings are known, the replay prints what its history tells. -/
theorem work_of_ready (ready : r.Ready) {m : Machine} (storage : m.journal.storage = r.storage)
    (now : m.now = r.machine.now) :
    (m.work r.settings (.replay r.files r.given)).2 = .exit 0 (r.history.toText ++ "\n") := by
  have fine : (m.journal.setUp r.settings.logging).2 = none :=
    (Log.Journal.setUp_snd_congr storage r.settings.logging).trans ready.logs
  have guards := Log.Journal.guards_setUp fine
  rw [storage] at guards
  unfold Machine.work
  cases journal : m.journal.setUp r.settings.logging with
  | mk j fault =>
    rw [journal] at fine guards
    obtain rfl : fault = none := fine
    obtain ⟨final, replayed⟩ := replay_of_holds (m := { m with journal := j }) guards now ready.inputs
      (History.create r.settings.capacity r.settings.marker) 0
    dsimp only
    unfold Machine.perform
    unfold interval at replayed
    dsimp only
    rw [replayed]
    rfl

theorem run_of_ready (ready : r.Ready) :
    (r.machine.run r.arguments).2 = .exit 0 (r.history.toText ++ "\n") := by
  have configured : Config.load r.machine.journal.storage r.config = .ok r.settings := ready.configured
  unfold Machine.run
  rw [ready.command]
  dsimp only
  unfold Machine.start
  rw [configured]
  dsimp only
  cases r.config with
  | none => exact work_of_ready ready rfl rfl
  | some path =>
    have storage : (r.machine.note (.configLoaded path)).journal.storage = r.storage :=
      Log.Journal.storage_note_of_sinks ready.fresh r.machine.now (.configLoaded path)
    exact work_of_ready ready storage rfl

end Loading

/-! ## Both told together -/

/-- The history of a poller that fetched the texts of a replay. -/
def polled {γ : Type} [TimeSource γ] (r : Replay) (clock : γ) (wait : Float) : History :=
  let fresh := Poller.create (History.create r.settings.capacity r.settings.marker) wait
  ((fun s : Session γ => s.poll.1)^[r.texts.length] (.ofPayloads fresh clock r.texts)).poller.history

/-- What a replay prints: points, and the figures of the newest interval of a history. -/
def document (points : List ActivityPoint) (h : History) : String :=
  (Json.object [
    ("activity", .array (points.map ActivityPoint.toJson)),
    ("queries_per_interval", h.queriesDelta.toJson),
    ("blocked_per_interval", h.blockedDelta.toJson)
  ]).toText ++ "\n"

/-- The points of a replay: one for each two texts that follow each other, of which the earlier one is also among the
newest, unless a counter fell; each is timed by the position of the later text. -/
def points (r : Replay) : List ActivityPoint :=
  ((neighbours r.texts.zipIdx).drop (r.texts.length - r.settings.capacity.toNat)).filterMap fun p =>
    (ActivityPoint.figuresBetween? r.settings.marker (snapshotOf p.1.1) (snapshotOf p.2.1)).map fun x =>
      ⟨r.machine.now + Float.ofInt p.2.2 * r.interval, x.1, x.2⟩

theorem activity_history (pos : 1 ≤ r.settings.capacity) : r.history.activity = r.points := by
  have marker : r.history.marker = r.settings.marker := (History.pushAll_spec _ _).2.1
  rw [History.activity, marker, history, History.entries_pushAll_create pos, ActivityPoint.series_newest_map,
    List.length_zipIdx]
  rfl

theorem snapshots_history (pos : 1 ≤ r.settings.capacity) {γ : Type} [TimeSource γ] (clock : γ) (wait : Float) :
    r.history.snapshots = (r.polled clock wait).snapshots ∧ r.history.marker = (r.polled clock wait).marker := by
  obtain ⟨entries, same, pushed⟩ := Session.iterate_poll_ofPayloads
    (p := Poller.create (History.create r.settings.capacity r.settings.marker) wait) rfl clock r.texts
  have polled : r.polled clock wait = (History.create r.settings.capacity r.settings.marker).pushAll entries := pushed
  have own : (r.texts.zipIdx.map r.entry).map Entry.snapshot = r.texts.map snapshotOf := by
    rw [List.map_map, ← List.zipIdx_map_fst 0 r.texts, List.map_map, List.zipIdx_map_fst]
    rfl
  refine ⟨?_, ?_⟩
  · rw [polled, history, History.snapshots, History.snapshots, History.entries_pushAll_create pos,
      History.entries_pushAll_create pos, newest_map, newest_map, own, same]
  · rw [polled, history, (History.pushAll_spec _ _).2.1, (History.pushAll_spec _ _).2.1]

/-- Two replays of as many texts, of which the newest are the same, timed and counted alike. -/
structure SameNewest (r other : Replay) : Prop where
  now : other.machine.now = r.machine.now
  interval : other.interval = r.interval
  capacity : other.settings.capacity = r.settings.capacity
  marker : other.settings.marker = r.settings.marker
  length : other.texts.length = r.texts.length
  newest : newest r.settings.capacity.toNat other.texts = newest r.settings.capacity.toNat r.texts

theorem history_of_sameNewest {other : Replay} (pos : 1 ≤ r.settings.capacity) (same : r.SameNewest other) :
    other.history.entries = r.history.entries ∧ other.history.marker = r.history.marker := by
  have otherPos : 1 ≤ other.settings.capacity := same.capacity.symm ▸ pos
  have timed : other.entry = r.entry := by
    funext p
    simp only [entry, time, same.now, same.interval]
  refine ⟨?_, ?_⟩
  · rw [history, history, History.entries_pushAll_create pos, History.entries_pushAll_create otherPos, ← newest_map,
      ← newest_map, newest_zipIdx, newest_zipIdx, timed, same.capacity, same.newest, same.length]
  · rw [history, history, (History.pushAll_spec _ _).2.1, (History.pushAll_spec _ _).2.1]
    exact same.marker

/-- A replay prints the figures that a poller's history tells when each of its fetches brings one of the texts, whatever
its clock says; the points are timed by the positions of the files. Texts that are older than the newest ones may
be any others. -/
theorem agrees_with_polling [Yaml.Reader] [Config.Validator] {γ : Type} [TimeSource γ] (r : Replay)
    (ready : r.Ready) (clock : γ) (wait : Float) :
    (r.machine.run r.arguments).2 = .exit 0 (document r.points (r.polled clock wait)) ∧
    r.points.map ActivityPoint.figures = (r.polled clock wait).activity.map ActivityPoint.figures ∧
    ∀ other : Replay, other.Ready → r.SameNewest other →
      (other.machine.run other.arguments).2 = (r.machine.run r.arguments).2 := by
  obtain ⟨snapshots, marker⟩ := snapshots_history ready.capacity clock wait
  have points := activity_history ready.capacity
  refine ⟨?printed, ?figures, ?newest⟩
  case printed =>
    rw [run_of_ready ready, document, ← History.queriesDelta_congr snapshots,
      ← History.blockedDelta_congr snapshots marker, ← points]
    rfl
  case figures =>
    rw [← points]
    exact History.figures_activity_congr snapshots marker
  case newest =>
    intro other otherReady same
    obtain ⟨entries, marker⟩ := history_of_sameNewest ready.capacity same
    rw [run_of_ready ready, run_of_ready otherReady, History.toText_congr entries marker]

/-- Two payloads: eight more queries, of which two more were blocked. -/
def twoTexts : List String :=
  [
    "blocky_query_total 12\nblocky_response_total\x7breason=\"BLOCKED\"\x7d 3",
    "blocky_query_total 20\nblocky_response_total\x7breason=\"BLOCKED\"\x7d 5"
  ]

/-- The replay of two payloads as scrapes that are ten seconds apart. -/
def twoScrapes : Replay where
  machine :=
    { journal :=
        { storage :=
            ⟨["a", "b"].zipWith (fun name text => ([name], .file text.toUTF8.data.toList)) twoTexts, [], [], []⟩ }
      input := []
      now := 1000.0 }
  arguments := ["replay", "a", "b", "--interval", "10"]
  config := none
  files := ["a", "b"]
  given := some 10.0
  settings := {}
  texts := twoTexts

theorem ready_twoScrapes : twoScrapes.Ready where
  command := by rfl
  configured := rfl
  capacity := by decide
  fresh := rfl
  logs := rfl
  inputs := .cons ⟨by decide, nofun, rfl, by decide⟩ (.cons ⟨by decide, nofun, rfl, by decide⟩ .nil)

/-- The replay prints one point, with the figures of two cycles of a poller whose clock says otherwise. -/
theorem agrees_with_polling_twoScrapes :
    (twoScrapes.machine.run twoScrapes.arguments).2 =
        .exit 0 ("\x7b\"activity\":[\x7b\"timestamp\":1010.0,\"total\":8.0,\"blocked\":2.0\x7d]," ++
          "\"queries_per_interval\":8.0,\"blocked_per_interval\":2.0\x7d\n") ∧
      (twoScrapes.polled (⟨5.0, 1.0⟩ : Clock) 60.0).activity.map ActivityPoint.figures = [(8.0, 2.0)] := by
  obtain ⟨printed, figures, -⟩ := agrees_with_polling twoScrapes ready_twoScrapes (⟨5.0, 1.0⟩ : Clock) 60.0
  refine ⟨printed.trans ?_, figures.symm.trans ?_⟩
  · decide +kernel
  · decide +kernel

end Replay

end ResolverWatch
