import ResolverWatch.Command.Invocation
import ResolverWatch.Config.File
import ResolverWatch.History.Document
import ResolverWatch.Log.Journal
import ResolverWatch.Scrape
import ResolverWatch.Snapshot.Document

/-!
# The program

The program reads its configuration, sets up the journal, and carries out its task. A configuration
that is rejected and an input that cannot be read end it with a message; other faults of the
configuration and a log file that cannot be opened leave it (`Escape`). The world of the program is
a `Machine`: the files, which the journal holds, the standard input, and a clock that stands still.

What the program prints is told apart from what its standard output receives. They are the same unless the log
file is the standard output itself, which some systems have at a place of their own (`Machine.received`).
-/

namespace ResolverWatch

open Log Text

/-- The journal with the files, what is left of the standard input, the time, and the place at which the standard
output stands among the files, if it does. -/
structure Machine where
  journal : Journal
  input : List UInt8
  now : Float
  output : Option Place := none

/-- A fault that the program does not handle. -/
inductive Escape
  | config (f : Config.Fault)
  | logFile (f : Storage.Fault)
  | nulInPath
  deriving DecidableEq, Repr

/-- The wording of a fault that is not handled. -/
def Escape.message : Escape → String
  | .config f => f.message none
  | .logFile f => f.message ""
  | .nulInPath => Storage.Fault.nulInPath.message ""

/-- Why a task was given up: an input that cannot be read, or a fault that is not handled. -/
inductive Abort
  | unreadable (reason : String)
  | escape (e : Escape)
  deriving DecidableEq, Repr

namespace Machine

/-- Reports a notice. -/
def note (m : Machine) (n : Notice) : Machine :=
  { m with journal := m.journal.note m.now n }

/-- Reads the standard input to its end, of which nothing is left then. -/
def readInput (m : Machine) : Machine × Except Abort (List Char) :=
  let text := match Utf8.decode m.input with
    | .ok cs => .ok (unifyNewlines cs)
    | .error e => .error (.unreadable e.message)
  ({ m with input := [] }, text)

/-- Reads the file at a path, with U+FFFD in place of bytes that are no text. -/
def readFile (m : Machine) (path : String) : Except Abort (List Char) :=
  match m.journal.storage.read path with
  | .ok bytes => .ok (unifyNewlines (Utf8.decodeLossy bytes))
  | .error .nulInPath => .error (.escape .nulInPath)
  | .error f => .error (.unreadable (f.message path))

/-- Reads a payload from a file, or from the standard input if the path is a dash. -/
def readPayload (m : Machine) (path : String) : Machine × Except Abort (List Char) :=
  if path = "-" then m.readInput else (m, m.readFile path)

/-- Reads a payload and what it says. -/
def scrape (m : Machine) (path : String) : Machine × Except Abort Snapshot :=
  match m.readPayload path with
  | (m, .ok text) =>
    let s := Scrape.read text
    (m.note (.payloadRead s.recognized s.skipped), .ok s.snapshot)
  | (m, .error e) => (m, .error e)

/-- Pushes payloads onto a history as scrapes that are `interval` seconds apart, the first of which is
number `i`. -/
def replay (m : Machine) (interval : Float) (h : History) : Nat → List String →
    Machine × Except Abort History
  | _, [] => (m, .ok h)
  | i, path :: rest =>
    match m.scrape path with
    | (m, .error e) => (m, .error e)
    | (m, .ok s) => replay m interval (h.push ⟨m.now + Float.ofInt i * interval, s⟩) (i + 1) rest

/-- Reports a counter that was reset. -/
def noteDelta (m : Machine) : Delta → Machine
  | .reset d => m.note (.counterReset d)
  | _ => m

/-- Reports the payloads that a history is too small for. -/
def noteDropped (m : Machine) (files : Nat) (h : History) : Machine :=
  if h.capacity < files then m.note (.filesDropped files h.capacity) else m

/-- Carries out a task. The result is the line that is printed. -/
def perform (m : Machine) (c : Config) : Command.Task → Machine × Except Abort String
  | .parse file =>
    match m.scrape file with
    | (m, .ok s) => (m, .ok s.toText)
    | (m, .error e) => (m, .error e)
  | .replay files interval =>
    let history := History.create c.capacity c.marker
    match m.replay (interval.getD c.interval) history 0 files with
    | (m, .ok h) =>
      let m := ((m.noteDropped files.length h).noteDelta h.queriesDelta).noteDelta h.blockedDelta
      (m, .ok h.toText)
    | (m, .error e) => (m, .error e)

/-- Writes a text to the console. -/
def display (m : Machine) (text : String) : Machine :=
  { m with journal := m.journal.display text.toList }

/-- What the standard output has received when a text was printed at the end: what was written to it as a file comes
first. -/
def received (m : Machine) (printed : String) : List UInt8 :=
  (m.output.map m.journal.storage.content).getD [] ++ Utf8.encode printed.toList

end Machine

/-- How a run of the program ends: with a code and what it printed, or before it began, or by a
fault that it does not handle. -/
inductive Outcome
  | exit (code : Nat) (output : String)
  | stopped (s : Command.Stop)
  | escaped (e : Escape)
  deriving DecidableEq, Repr

/-- The text of a rejected configuration. -/
def Config.Rejection.report (path : Option String) (r : Config.Rejection) : String :=
  let details := match r with
    | .invalid ds => ds.map fun d => "\n" ++ ".".intercalate d.place ++ ": " ++ d.problem.message
    | _ => []
  r.message path ++ String.join details ++ "\n"

namespace Machine

/-- Sets up the journal and carries out a task. -/
def work (m : Machine) (c : Config) (task : Command.Task) : Machine × Outcome :=
  match m.journal.setUp c.logging with
  | (journal, some f) => ({ m with journal := journal }, .escaped (.logFile f))
  | (journal, none) =>
    match ({ m with journal := journal } : Machine).perform c task with
    | (m, .ok line) => (m, .exit 0 (line ++ "\n"))
    | (m, .error (.unreadable reason)) => (m.note (.inputUnreadable reason), .exit 1 "")
    | (m, .error (.escape e)) => (m, .escaped e)

section Loading

variable [Yaml.Reader] [Config.Validator]

/-- Loads the configuration and carries out a task. -/
def start (m : Machine) (path : Option String) (task : Command.Task) : Machine × Outcome :=
  match Config.load m.journal.storage path with
  | .ok c =>
    let m := match path with
      | some p => m.note (.configLoaded p)
      | none => m
    m.work c task
  | .error (.rejected r) => (m.display (r.report path), .exit 1 "")
  | .error f => (m, .escaped (.config f))

/-- Runs the program with its arguments. -/
def run (m : Machine) (arguments : List String) : Machine × Outcome :=
  match Command.Invocation.ofArguments arguments with
  | .error s => (m, .stopped s)
  | .ok invocation => m.start invocation.config invocation.task

end Loading

/-- A payload is read from a file that is there. -/
theorem scrape_of_read {m : Machine} {path : String} {bytes : List UInt8} (file : path ≠ "-")
    (read : m.journal.storage.read path = .ok bytes) :
    m.scrape path =
      (m.note (.payloadRead (Scrape.read (unifyNewlines (Utf8.decodeLossy bytes))).recognized
          (Scrape.read (unifyNewlines (Utf8.decodeLossy bytes))).skipped),
        .ok (Scrape.read (unifyNewlines (Utf8.decodeLossy bytes))).snapshot) := by
  simp only [scrape, readPayload, if_neg file, readFile, read]

end Machine

end ResolverWatch
