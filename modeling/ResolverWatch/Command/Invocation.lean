import ResolverWatch.Command.Grammar

/-!
# What the program is told to do

The program parses one payload or replays several as consecutive scrapes. Either task may be given
a configuration file, a replay also the number of seconds between two scrapes.
-/

namespace ResolverWatch.Command

/-- A task: to show what a payload says, or to replay payloads, with the seconds between them if they
are given. -/
inductive Task
  | parse (file : String)
  | replay (files : List String) (interval : Option Float)
  deriving Repr

/-- The paths that a task reads, in order. -/
def Task.inputs : Task → List String
  | .parse file => [file]
  | .replay files _ => files

/-- A task and the path of the configuration file, if there is one. -/
structure Invocation where
  config : Option String
  task : Task
  deriving Repr

/-- The flag that asks for help. -/
def helpFlag : Flag :=
  ⟨["-h", "--help"], .help⟩

/-- The flag of the configuration file. -/
def configFlag : Flag :=
  ⟨["--config"], .text⟩

/-- The flag of the seconds between two scrapes. -/
def intervalFlag : Flag :=
  ⟨["--interval"], .number⟩

/-- The names of the tasks. -/
def taskNames : List String :=
  ["parse", "replay"]

/-- The command line up to the name of a task. -/
def mainGrammar : Grammar where
  program := "blockwatch"
  usage := "usage: blockwatch [-h] [--config CONFIG] \x7bparse,replay\x7d ..."
  flags := [helpFlag, configFlag]
  operand := "command"
  arity := .remainder

/-- The arguments of the task that parses a payload. -/
def parseGrammar : Grammar where
  program := "blockwatch parse"
  usage := "usage: blockwatch parse [-h] file"
  flags := [helpFlag]
  operand := "file"
  arity := .one

/-- The arguments of the task that replays payloads. -/
def replayGrammar : Grammar where
  program := "blockwatch replay"
  usage := "usage: blockwatch replay [-h] [--interval INTERVAL] files [files ...]"
  flags := [helpFlag, intervalFlag]
  operand := "files"
  arity := .several

/-- The text that is the value of a flag. -/
def Value.text? : Value → Option String
  | .text s => some s
  | _ => none

/-- The number that is the value of a flag. -/
def Value.number? : Value → Option Float
  | .number x => some x
  | _ => none

/-- Reads a task and its arguments; also gives those that have no place. -/
def Task.ofArguments : List String → Except Stop (Task × List String)
  | "parse" :: rest => do
    let (p, operands) ← parseGrammar.parse rest
    return (.parse (operands.headD ""), p.extras)
  | "replay" :: rest => do
    let (p, operands) ← replayGrammar.parse rest
    return (.replay operands ((p.value? intervalFlag).bind Value.number?), p.extras)
  | name :: _ => .error (mainGrammar.stop (.badChoice mainGrammar.operand name taskNames))
  | [] => .error (mainGrammar.stop (.missingOperand mainGrammar.operand))

/-- Reads the arguments of the program. -/
def Invocation.ofArguments (arguments : List String) : Except Stop Invocation := do
  let (p, operands) ← mainGrammar.parse arguments
  let (task, extras) ← Task.ofArguments operands
  match p.extras ++ extras with
  | [] => return ⟨(p.value? configFlag).bind Value.text?, task⟩
  | extras => throw (mainGrammar.stop (.unrecognized extras))

end ResolverWatch.Command
