import ResolverWatch.Config.Validator
import ResolverWatch.History.Basic
import ResolverWatch.Poller

/-!
# Settings

A setting is one entry of a configuration that was read: a field and its value. `Config.set` puts
it in its place, and a configuration is its settings put onto the defaults. Which values a field
admits is for a validator to say; what is declared here are the fields, their types and bounds.
-/

namespace ResolverWatch

open Text Yaml

/-- How the log is set up: the name of its least level, whether it goes to the console, and the
path of a file that it is appended to. -/
structure Config.Logging where
  level : Points := "info"
  console : Bool := true
  file : Option Points := none
  deriving DecidableEq, Repr

/-- A configuration: the log, how many scrapes are kept, which responses count as blocked, and the
seconds between two scrapes. -/
structure Config where
  logging : Config.Logging := {}
  capacity : Int := History.defaultCapacity
  marker : String := defaultMarker
  interval : Float := Poller.defaultInterval

namespace Config

/-- The fields of all sections. -/
inductive Field
  | level
  | console
  | file
  | capacity
  | marker
  | interval
  deriving DecidableEq, Repr

/-- All fields. -/
def Field.all : List Field :=
  [.level, .console, .file, .capacity, .marker, .interval]

/-- The section of a field. -/
def Field.inSection : Field → Section
  | .level | .console | .file => .logging
  | .capacity | .marker => .history
  | .interval => .poller

/-- The key of a field in its section. -/
def Field.name : Field → String
  | .level => "level"
  | .console => "stderr"
  | .file => "file"
  | .capacity => "capacity"
  | .marker => "blocked_marker"
  | .interval => "interval_seconds"

/-- The field of a given key in a section. -/
def Field.ofName? (s : Section) (name : String) : Option Field :=
  Field.all.find? fun f => f.inSection == s && f.name == name

/-- A field with a value. -/
inductive Setting
  | level (name : Points)
  | console (on : Bool)
  | file (path : Option Points)
  | capacity (n : Int)
  | marker (text : String)
  | interval (seconds : Float)

/-- The configuration with one field set. -/
def set (c : Config) : Setting → Config
  | .level name => { c with logging := { c.logging with level := name } }
  | .console on => { c with logging := { c.logging with console := on } }
  | .file path => { c with logging := { c.logging with file := path } }
  | .capacity n => { c with capacity := n }
  | .marker text => { c with marker := text }
  | .interval seconds => { c with interval := seconds }

/-- The configuration with the given settings; all others have their defaults. -/
def ofSettings (settings : List Setting) : Config :=
  settings.foldl set {}

/-- A section without a body is an empty one. -/
def bodied : Value → Value
  | .scalar .null => .mapping []
  | v => v

end Config

/-- A document is no configuration: it is not a mapping, it has a key that is no text, or its
entries are wrong. -/
inductive Config.Refusal
  | notMapping
  | keyNotText
  | invalid (details : List Config.Detail)
  deriving DecidableEq, Repr

namespace Config

section Reading

variable [Validator]

/-- Reads the value of a field, which is declared with a type and perhaps a least value or length. -/
def Field.read : Field → Value → Except Problem Setting
  | .level, v => (Validator.text v).map .level
  | .console, v => (Validator.truth v).map .console
  | .file, v => (Validator.optionalText v).map .file
  | .capacity, v => ((Validator.whole v).bind (Validator.wholeFrom 1)).map .capacity
  | .marker, v => ((Validator.text v).bind (Validator.textFrom 1)).map .marker
  | .interval, v => ((Validator.number v).bind (Validator.numberFrom 1)).map .interval

/-- What is declared of the keys of a section. -/
def Section.fields (s : Section) (name : String) : Option (Value → Except (List Detail) Setting) :=
  (Field.ofName? s name).map fun f v => (f.read v).mapError fun p => [⟨[], p⟩]

/-- Reads a section. -/
def Section.read (s : Section) : Value → Except (List Detail) (List Setting) :=
  Validator.model s.kind s.fields

/-- What is declared of the keys of a configuration. -/
def sections (name : String) : Option (Value → Except (List Detail) (List Setting)) :=
  (Section.ofName? name).map Section.read

/-- Reads the sections of a configuration. -/
def readSections (entries : List (Scalar × Value)) : Except (List Detail) (List (List Setting)) :=
  Validator.model "BlockwatchConfig" sections (.mapping (entries.map fun e => (e.1, bodied e.2)))

/-- What is made of the entries of a mapping whose keys name what is declared, so that they have to be
texts. Details are put in order. -/
def ofNamed {σ : Type} (entries : List (Scalar × Value)) (make : Except (List Detail) σ) : Except Refusal σ :=
  if entries.all isTextKey then make.mapError fun ds => .invalid (Detail.sort ds) else .error .keyNotText

/-- Reads the entries of a configuration. -/
def ofEntries (entries : List (Scalar × Value)) : Except Refusal Config :=
  ofNamed entries ((readSections entries).map fun settings => ofSettings settings.flatten)

/-- Reads a configuration. An empty document is an empty one. -/
def ofValue : Value → Except Refusal Config
  | .scalar .null => .ok {}
  | .mapping entries => ofEntries entries
  | _ => .error .notMapping

/-- Reads the body of a logging section alone. -/
def Logging.ofEntries (entries : List (Scalar × Value)) : Except Refusal Logging :=
  ofNamed entries ((Section.read .logging (.mapping entries)).map fun settings => (ofSettings settings).logging)

end Reading

theorem Field.ofName?_name (f : Field) : Field.ofName? f.inSection f.name = some f := by
  cases f <;> decide +kernel

end Config

end ResolverWatch
