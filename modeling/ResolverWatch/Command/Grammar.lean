import ResolverWatch.Decimal.Literal
import ResolverWatch.Text.Quoted

/-!
# Reading a command line

A `Grammar` says which flags a command has and how many operands. Arguments are first classified:
flags may be abbreviated and may carry their value behind an equals sign, negative numbers and
arguments with spaces are operands, and behind two dashes everything is. Then `Grammar.parse` goes
through them in order; the first fault that it meets counts.
-/

namespace ResolverWatch.Command

open Text Decimal

/-- What a flag is for: it asks for help, or takes a text or a number. -/
inductive Purpose
  | help
  | text
  | number
  deriving DecidableEq, Repr

/-- A flag and its spellings. Only those that ask for help have a spelling of one letter. -/
structure Flag where
  spellings : List String
  purpose : Purpose
  deriving DecidableEq, Repr

/-- How many operands a command has: one, at least one, or one followed by anything. -/
inductive Arity
  | one
  | several
  | remainder
  deriving DecidableEq, Repr

/-- What a command is called, its usage, its flags, and the name and number of its operands. -/
structure Grammar where
  program : String
  usage : String
  flags : List Flag
  operand : String
  arity : Arity

/-- What is wrong with a command line. -/
inductive Problem
  | ambiguous (argument : String) (spellings : List String)
  | missingValue (flag : String)
  | ignoredValue (flag value : String)
  | badNumber (flag value : String)
  | badChoice (operand value : String) (choices : List String)
  | missingOperand (operand : String)
  | unrecognized (arguments : List String)
  deriving DecidableEq, Repr

/-- Why a command line is not carried out: help was asked for, or something is wrong with it. -/
inductive Stop
  | help (usage : String)
  | wrong (program usage : String) (problem : Problem)
  deriving DecidableEq, Repr

/-- A text in quotes. -/
def shown (s : String) : String :=
  String.ofList (quoted s.toList)

/-- The wording of a problem. -/
def Problem.message : Problem → String
  | .ambiguous argument spellings =>
    s!"ambiguous option: {argument} could match " ++ ", ".intercalate spellings
  | .missingValue flag => s!"argument {flag}: expected one argument"
  | .ignoredValue flag value => s!"argument {flag}: ignored explicit argument " ++ shown value
  | .badNumber flag value => s!"argument {flag}: invalid float value: " ++ shown value
  | .badChoice operand value choices =>
    s!"argument {operand}: invalid choice: " ++ shown value ++ " (choose from " ++
      ", ".intercalate (choices.map shown) ++ ")"
  | .missingOperand operand => s!"the following arguments are required: {operand}"
  | .unrecognized arguments => "unrecognized arguments: " ++ " ".intercalate arguments

/-- The line that tells a problem. -/
def Problem.line (program : String) (p : Problem) : String :=
  s!"{program}: error: {p.message}"

/-- The name of a flag in messages: all its spellings. -/
def Flag.name (f : Flag) : String :=
  "/".intercalate f.spellings

/-- A value in the same argument as its flag: behind an equals sign, or right behind a letter. -/
inductive Attached
  | equals (value : String)
  | joined (value : String)
  deriving DecidableEq, Repr

/-- What an argument is: two dashes, an operand, or a flag (known or not), with the value in the same
argument. -/
inductive Reading
  | separator
  | operand
  | flag (f : Option Flag) (attached : Option Attached)
  deriving DecidableEq, Repr

/-- The reading is a flag. -/
def Reading.isFlag : Reading → Bool
  | .flag .. => true
  | _ => false

/-- An argument that is a negative number. A line feed behind it does not matter. -/
def isNegativeNumber (cs : List Char) : Bool :=
  match if cs.getLast? = some '\n' then cs.dropLast else cs with
  | '-' :: ds =>
    match ds.dropWhile isDigit with
    | [] => !ds.isEmpty
    | '.' :: fraction => !fraction.isEmpty && fraction.all isDigit
    | _ => false
  | _ => false

/-- The text before the first equals sign, and the value behind it, if there is one. -/
def splitEquals (cs : List Char) : List Char × Option Attached :=
  match cs.dropWhile (· ≠ '=') with
  | _ :: value => (cs.takeWhile (· ≠ '='), some (.equals (String.ofList value)))
  | [] => (cs, none)

namespace Grammar

/-- Why a command line with a problem is not carried out. -/
def stop (g : Grammar) (p : Problem) : Stop :=
  .wrong g.program g.usage p

/-- All spellings of flags, each with its flag. -/
def spellings (g : Grammar) : List (List Char × Flag) :=
  g.flags.flatMap fun f => f.spellings.map fun s => (s.toList, f)

/-- The flag of a spelling. -/
def flag? (g : Grammar) (cs : List Char) : Option Flag :=
  g.spellings.lookup cs

/-- A way to read an argument: a spelling, its flag, and the value that is attached. -/
abbrev Candidate := List Char × Flag × Option Attached

/-- The ways to read an argument with two dashes: its name may be cut short. -/
def longCandidates (g : Grammar) (cs : List Char) : List Candidate :=
  let (name, value) := splitEquals cs
  (g.spellings.filter fun s => name.isPrefixOf s.1).map fun s => (s.1, s.2, value)

/-- The ways to read an argument with one dash: a letter with a value behind it. -/
def shortCandidates (g : Grammar) (cs : List Char) : List Candidate :=
  g.spellings.filterMap fun s =>
    if s.1 = cs.take 2 then some (s.1, s.2, some (.joined (String.ofList (cs.drop 2))))
    else if cs.isPrefixOf s.1 then some (s.1, s.2, none)
    else none

/-- The ways to read an argument that is no spelling of a flag. -/
def candidates (g : Grammar) (cs : List Char) : List Candidate :=
  if cs.take 2 = ['-', '-'] then g.longCandidates cs else g.shortCandidates cs

/-- The reading of an argument that starts with a dash and has further characters. -/
def readDashed (g : Grammar) (cs : List Char) : Except Stop Reading :=
  let (name, value) := splitEquals cs
  match g.flag? cs, value, g.flag? name with
  | some f, _, _ => .ok (.flag (some f) none)
  | none, some v, some f => .ok (.flag (some f) (some v))
  | none, _, _ =>
    match g.candidates cs with
    | [(_, f, v)] => .ok (.flag (some f) v)
    | [] => .ok (if isNegativeNumber cs || cs.contains ' ' then .operand else .flag none none)
    | several => .error (g.stop (.ambiguous (String.ofList cs) (several.map fun c => String.ofList c.1)))

/-- The reading of an argument. -/
def readOne (g : Grammar) (argument : String) : Except Stop Reading :=
  match argument.toList with
  | '-' :: c :: cs => g.readDashed ('-' :: c :: cs)
  | _ => .ok .operand

/-- The readings of all arguments. -/
def readAll (g : Grammar) : List String → Except Stop (List (String × Reading))
  | [] => .ok []
  | argument :: rest =>
    if argument = "--" then .ok ((argument, .separator) :: rest.map fun a => (a, .operand))
    else do
      let r ← g.readOne argument
      return (argument, r) :: (← readAll g rest)

end Grammar

/-- The value of a flag. -/
inductive Value
  | text (s : String)
  | number (x : Float)

/-- What a command line says: the flags that were given, in order, the operands, and the arguments
that have no place. -/
structure Parsed where
  values : List (Flag × Value) := []
  operands : Option (List String) := none
  extras : List String := []

/-- The value of a flag that was given last. -/
def Parsed.value? (p : Parsed) (f : Flag) : Option Value :=
  (p.values.reverse.find? fun v => v.1 == f).map (·.2)

/-- The number of arguments that are taken as operands. Two dashes count among them. -/
def Arity.count (a : Arity) (readings : List Reading) : Nat :=
  let dashes := (readings.takeWhile (· == .separator)).length
  match a, readings.drop dashes with
  | .one, .operand :: rest => dashes + 1 + (rest.takeWhile (· == .separator)).length
  | .several, .operand :: rest => dashes + 1 + (rest.takeWhile fun r => !r.isFlag).length
  | .remainder, .operand :: _ => readings.length
  | _, _ => 0

/-- The operands among the arguments that were taken: the first two dashes are dropped, unless
everything is passed on. -/
def Arity.operands (a : Arity) (arguments : List String) : List String :=
  match a with
  | .remainder => arguments
  | _ => arguments.erase "--"

namespace Grammar

/-- The value of a flag that takes one. -/
def valueOf (g : Grammar) (f : Flag) (s : String) : Except Stop Value :=
  match f.purpose with
  | .number =>
    match number? s.toList with
    | some x => .ok (.number x)
    | none => .error (g.stop (.badNumber f.name s))
  | _ => .ok (.text s)

/-- What becomes of letters behind the letter of a flag that asks for help: others that do so too may
follow, but neither a dash nor a value. -/
def cluster (g : Grammar) (f : Flag) : List Char → Stop
  | [] => .help g.usage
  | '-' :: cs => g.stop (.ignoredValue f.name (String.ofList ('-' :: cs)))
  | c :: cs =>
    match g.flag? ['-', c], cs with
    | some f, '=' :: value => g.stop (.ignoredValue f.name (String.ofList value))
    | some f, cs => cluster g f cs
    | none, _ => .help g.usage

/-- What becomes of a flag that asks for help. It takes no value. -/
def help (g : Grammar) (f : Flag) : Option Attached → Stop
  | none => .help g.usage
  | some (.equals value) => g.stop (.ignoredValue f.name value)
  | some (.joined letters) => g.cluster f letters.toList

/-- The text of an attached value. -/
def textOf : Attached → String
  | .equals value | .joined value => value

/-- Takes the flag at the head of the arguments. -/
def takeFlag (g : Grammar) (p : Parsed) (argument : String) (f : Option Flag) (attached : Option Attached)
    (rest : List (String × Reading)) : Except Stop (Parsed × List (String × Reading)) :=
  match f with
  | none => .ok ({ p with extras := p.extras ++ [argument] }, rest)
  | some f =>
    match f.purpose, attached, rest with
    | .help, _, _ => .error (g.help f attached)
    | _, some a, _ => do
      let v ← g.valueOf f (textOf a)
      return ({ p with values := p.values ++ [(f, v)] }, rest)
    | _, none, (value, .operand) :: rest => do
      let v ← g.valueOf f value
      return ({ p with values := p.values ++ [(f, v)] }, rest)
    | _, none, _ => .error (g.stop (.missingValue f.name))

/-- Takes operands from the arguments, if none were taken yet. -/
def takeOperands (g : Grammar) (p : Parsed) (arguments : List (String × Reading)) :
    Parsed × List (String × Reading) :=
  match p.operands, g.arity.count (arguments.map (·.2)) with
  | none, n + 1 =>
    ({ p with operands := some (g.arity.operands ((arguments.take (n + 1)).map (·.1))) },
      arguments.drop (n + 1))
  | _, _ => (p, arguments)

/-- Goes through the arguments. Operands are taken where they stand before a flag or at the end;
those that cannot be taken have no place. -/
def go (g : Grammar) : Nat → Parsed → List (String × Reading) → Except Stop Parsed
  | 0, p, _ => .ok p
  | fuel + 1, p, arguments =>
    if arguments.all fun a => !a.2.isFlag then
      let (p, rest) := g.takeOperands p arguments
      .ok { p with extras := p.extras ++ rest.map (·.1) }
    else match arguments with
      | (argument, .flag f attached) :: rest => do
        let (p, rest) ← g.takeFlag p argument f attached rest
        go g fuel p rest
      | _ =>
        let (p, rest) := g.takeOperands p arguments
        if rest.length < arguments.length then go g fuel p rest
        else
          let skipped := (arguments.takeWhile fun a => !a.2.isFlag).map (·.1)
          go g fuel { p with extras := p.extras ++ skipped } (arguments.drop skipped.length)

/-- Reads the arguments of a command. Each step takes one of them at least. -/
def parse (g : Grammar) (arguments : List String) : Except Stop (Parsed × List String) := do
  let readings ← g.readAll arguments
  let p ← g.go (arguments.length + 1) {} readings
  match p.operands with
  | some operands => return (p, operands)
  | none => throw (g.stop (.missingOperand g.operand))

end Grammar

end ResolverWatch.Command
