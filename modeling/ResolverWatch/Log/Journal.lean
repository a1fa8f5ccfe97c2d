import ResolverWatch.Config.Setting
import ResolverWatch.Log.Record
import ResolverWatch.Storage.Basic
import ResolverWatch.Text.Utf8

/-!
# The journal

A journal takes records and writes those that are urgent enough to its sinks: the console, a file,
or both. Setting it up replaces its level and its sinks; a fault of the log file leaves what was
done before it. A journal without sinks shows urgent records on the console, by their bare
messages. Warnings are shown on the console too, until the first complete set-up makes records
of them.

A record that has no text, or none that the bytes of a file can stand for, is not written: it is kept among
the `failures` of the journal. The report of a failure that the console gets is left out.
-/

namespace ResolverWatch.Log

open Text

/-- Where records are written to. -/
inductive Sink
  | console
  | file (place : Place)
  deriving DecidableEq, Repr

/-- A record that was not written to a sink. -/
structure Failure where
  record : Record
  sink : Sink

/-- The least level and the sinks of a journal, whether warnings become records and whether one has
yet, what is on the console, what was not written, and the files. -/
structure Journal where
  level : Int := Level.warning.number
  sinks : List Sink := []
  capturing : Bool := false
  captured : Bool := false
  console : String := ""
  failures : List Failure := []
  storage : Storage

/-- Why a journal is not set up completely. -/
inductive SetUpFault
  | refused (r : Config.Refusal)
  | storage (f : Storage.Fault)
  deriving DecidableEq, Repr

/-- A warning, and the line of a file that it comes from, with what stands there if that is known. -/
structure Warning where
  category : String
  message : Points
  file : String
  line : Nat
  source : String

/-- The text of a warning. -/
def Warning.text (w : Warning) : Points :=
  let source := if w.source.isEmpty then "" else "  " ++ String.ofList (trim w.source.toList) ++ "\n"
  (s!"{w.file}:{w.line}: {w.category}: " : Points) ++ w.message ++ ("\n" ++ source : String)

/-- The logger of warnings. -/
def warningLogger : String :=
  "py.warnings"

/-- The logger of warnings, or one below it. -/
def isWarningLogger (name : Points) : Bool :=
  name == (warningLogger : Points) || (warningLogger ++ "." : Points).isPrefixOf name

/-- The record of a warning. -/
def Warning.record (w : Warning) (time : Float) : Record :=
  ⟨Level.warning.number, warningLogger, some w.text, time, []⟩

/-- The level of a name, in any case. Unknown names mean informative records. -/
def levelNamed (name : Points) : Level :=
  match String.ofList (lower name.chars) with
  | "debug" => .debug
  | "warn" | "warning" => .warning
  | "error" => .error
  | "crit" | "critical" => .critical
  | _ => .info

/-- The path of the log file; a blank one is none. No file has a half of a pair in its name. -/
def filePath? (c : Config.Logging) : Option String :=
  match c.file with
  | some path =>
    let path := trim path.chars
    if path.isEmpty then none else some (String.ofList path)
  | none => none

/-- The characters that stand for a text in a sink. The console shows a half of a pair by its number; a file has
no bytes for it. -/
def Sink.characters? : Sink → Points → Option (List Char)
  | .console, text => some (text.flatMap Point.escaped)
  | .file _, text => text.chars?

/-- The line of a record in a sink, if it can be written there. -/
def Record.line (r : Record) (sink : Sink) : Option (List Char) :=
  match r.text true with
  | .ok text => sink.characters? (text ++ ("\n" : Points))
  | .error _ => none

namespace Journal

/-- Writes a text to the console. -/
def display (j : Journal) (text : List Char) : Journal :=
  { j with console := j.console ++ String.ofList text }

/-- Writes a text to a sink. -/
def write (text : List Char) (j : Journal) : Sink → Journal
  | .console => j.display text
  | .file p => { j with storage := j.storage.append p (Utf8.encode text) }

/-- Keeps a record that cannot be written. -/
def fail (j : Journal) (r : Record) (sink : Sink) : Journal :=
  { j with failures := j.failures ++ [⟨r, sink⟩] }

/-- Writes a record to a sink. -/
def emit (r : Record) (j : Journal) (sink : Sink) : Journal :=
  match r.line sink with
  | some line => j.write line sink
  | none => j.fail r sink

/-- Takes a record to a journal without sinks. -/
def takeBare (j : Journal) (r : Record) : Journal :=
  if r.level < Level.warning.number || (j.captured && isWarningLogger r.logger) then j
  else match r.bare with
    | some text => j.display ((text ++ ("\n" : Points)).flatMap Point.escaped)
    | none => j.fail r .console

/-- Takes a record. -/
def take (j : Journal) (r : Record) : Journal :=
  if r.level < j.level then j
  else if j.sinks.isEmpty then j.takeBare r
  else j.sinks.foldl (emit r) j

/-- Takes the record of a notice. -/
def note (j : Journal) (time : Float) (n : Notice) : Journal :=
  j.take (n.record time [])

/-- Takes a warning. -/
def warn (j : Journal) (time : Float) (w : Warning) : Journal :=
  if j.capturing then { j with captured := true }.take (w.record time)
  else j.display (w.text.flatMap Point.escaped)

/-- Adds the file that a path means to the sinks. The file and its directory are made if they are
missing. -/
def addFile (j : Journal) (path : String) : Journal × Option Storage.Fault :=
  let place := j.storage.expanded path
  let (storage, fault) := j.storage.makeDirectories place.dropLast
  let j := { j with storage := storage }
  match fault with
  | some f => (j, some f)
  | none =>
    match storage.touch place with
    | .ok storage => ({ j with storage := storage, sinks := j.sinks ++ [.file place] }, none)
    | .error f => (j, some f)

/-- Replaces the level and the sinks, except for a file. -/
def reset (j : Journal) (c : Config.Logging) : Journal :=
  { j with level := (levelNamed c.level).number, sinks := if c.console then [.console] else [] }

/-- Sets up a journal. -/
def setUp (j : Journal) (c : Config.Logging) : Journal × Option Storage.Fault :=
  match filePath? c with
  | none => ({ j.reset c with capturing := true }, none)
  | some path =>
    match (j.reset c).addFile path with
    | (j, none) => ({ j with capturing := true }, none)
    | (j, some f) => (j, some f)

/-- Sets up a journal by the entries of a logging section. Entries that are wrong leave it as it was. -/
def setUpFrom [Config.Validator] (j : Journal) (entries : List (Yaml.Scalar × Yaml.Value)) :
    Journal × Option SetUpFault :=
  match Config.Logging.ofEntries entries with
  | .ok c =>
    let (j, fault) := j.setUp c
    (j, fault.map .storage)
  | .error r => (j, some (.refused r))

end Journal

end ResolverWatch.Log
