import ResolverWatch.Config.Lenient
import ResolverWatch.Program
import ResolverWatch.Yaml.Document
import Std.Time.DateTime.Timestamp

/-!
# The command line

The outer layer fetches the files that a command line may touch, runs the program on them, and
carries out what it did: output, messages, and the files and directories that are new or longer.
-/

namespace ResolverWatch.Host

/-- The path of a place. -/
def pathOf (p : Place) : String :=
  "/" ++ "/".intercalate p

/-- What is at a place of the host. -/
def probe (p : Place) : IO (Option Storage.Entry) := do
  try
    let bytes ← IO.FS.readBinFile (pathOf p)
    return some (.file bytes.data.toList)
  catch
    | .noFileOrDirectory .. => return none
    | _ => return some .directory

/-- The places on the way along names from a place. -/
def places (here : Place) : List String → List Place
  | [] => [here]
  | name :: rest =>
    let there :=
      if name = "" ∨ name = "." then here else if name = ".." then here.dropLast else here ++ [name]
    here :: places there rest

/-- Fetches what is at places of the host. -/
def fetch (s : Storage) (ps : List Place) : IO Storage := do
  let mut s := s
  for p in ps do
    if (s.get? p).isNone then
      if let some e ← probe p then
        s := s.put p e
  return s

/-- The beginnings of a place. -/
def beginnings (p : Place) : List Place :=
  (List.range (p.length + 1)).map p.take

/-- Fetches everything that a command line may touch: the configuration, the inputs, and the log
file that the configuration names. -/
def fetchFor (s : Storage) (i : Command.Invocation) : IO Storage := do
  let read := (i.config.toList ++ i.task.inputs).flatMap fun path => places (s.origin path) (Storage.names path)
  let s ← fetch s (beginnings s.work ++ read)
  match Config.load s i.config with
  | .ok c =>
    match Log.filePath? c.logging with
    | some path => fetch s (beginnings (s.expanded path))
    | none => return s
  | .error _ => return s

/-- Carries over to the host what is new in a storage. -/
def store (before after : Storage) : IO Unit := do
  for (place, entry) in after.entries do
    match entry with
    | .directory =>
      if (before.get? place).isNone then IO.FS.createDir (pathOf place)
    | .file bytes =>
      if before.get? place ≠ some entry then
        let old := (before.bytes? place).getD []
        let handle ← IO.FS.Handle.mk (pathOf place) .append
        handle.write ⟨(bytes.drop old.length).toArray⟩

/-- Reads a stream to its end. -/
partial def readAll (stream : IO.FS.Stream) (soFar : ByteArray) : IO ByteArray := do
  let more ← stream.read 65536
  if more.isEmpty then return soFar
  readAll stream (soFar ++ more)

/-- The time in seconds from the start of 1970. -/
def now : IO Float := do
  let t ← Std.Time.Timestamp.now
  return Float.ofInt t.toNanosecondsSinceUnixEpoch.val / 1000000000.0

/-- The place of a path from the root. -/
def placeOf (path : String) : Place :=
  (Storage.names path).filter (· ≠ "")

/-- The home directories of the users of the host. -/
def homes : IO (List (String × Place)) := do
  let users ← try IO.FS.lines "/etc/passwd" catch _ => pure #[]
  return users.toList.filterMap fun user =>
    match user.splitOn ":" with
    | name :: _ :: _ :: _ :: _ :: home :: _ => some (name, placeOf home)
    | _ => none

/-- The place of the standard output on the host. -/
def output : Place :=
  ["dev", "stdout"]

/-- The storage of a program that has not touched any file. Nothing was written to its standard output. -/
def emptyStorage : IO Storage := do
  let work := placeOf (← IO.currentDir).toString
  let home := placeOf ((← IO.getEnv "HOME").getD "/")
  return ⟨[(output, .file [])], work, home, ← homes⟩

/-- The machine that a command line runs on. -/
def machineFor (i : Command.Invocation) : IO Machine := do
  let storage ← fetchFor (← emptyStorage) i
  let input ← if i.task.inputs.contains "-" then readAll (← IO.getStdin) .empty else pure .empty
  return ⟨{ storage := storage }, input.data.toList, ← now, some output⟩

/-- Tells how a run ended. -/
def tell : Outcome → IO UInt32
  | .exit code output => do
    IO.print output
    return code.toUInt32
  | .stopped (.help usage) => do
    IO.println usage
    return 0
  | .stopped (.wrong program usage problem) => do
    IO.eprintln usage
    IO.eprintln (problem.line program)
    return 2
  | .escaped e => do
    IO.eprintln e.message
    return 1

end ResolverWatch.Host

open ResolverWatch

/-- Runs the program on the host. -/
def main (arguments : List String) : IO UInt32 := do
  match Command.Invocation.ofArguments arguments with
  | .error s => Host.tell (.stopped s)
  | .ok invocation =>
    let machine ← Host.machineFor invocation
    let (after, outcome) := machine.run arguments
    IO.eprint after.journal.console
    Host.store machine.journal.storage after.journal.storage
    Host.tell outcome
