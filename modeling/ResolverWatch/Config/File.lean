import ResolverWatch.Config.Setting
import ResolverWatch.Storage.Basic
import ResolverWatch.Text.Newline
import ResolverWatch.Text.Utf8
import ResolverWatch.Yaml.Reader

/-!
# The configuration file

A configuration is a YAML document in a file. What goes wrong on the way to it is either a
`Rejection` of the file, which names the file and the reason, or a fault that is passed on as it
is: bytes that are no text, a scalar that no value can be made of, or a key that is no text.

The bytes are decoded as a whole before any of the text is read. Where a file is longer than what is decoded at
once, the document may be rejected for its start before its end is found to be no text.
-/

namespace ResolverWatch.Config

open Text

/-- Why a configuration file is rejected. -/
inductive Rejection
  | unreadable (fault : Storage.Fault)
  | malformed
  | notMapping
  | invalid (details : List Detail)
  deriving DecidableEq, Repr

/-- Why there is no configuration. -/
inductive Fault
  | rejected (r : Rejection)
  | nulInPath
  | undecodable (e : Utf8.Error)
  | scalar (f : Yaml.Fault)
  | keyNotText
  deriving DecidableEq, Repr

/-- The wording of a rejection; `details` are given apart. A document that was given without a path, or
with an empty one, has a name of its own. -/
def Rejection.message (path : Option String) (r : Rejection) : String :=
  let file := path.getD ""
  let document := if file.isEmpty then "<config>" else file
  match r with
  | .unreadable f => s!"{file}: cannot read config: " ++ f.message file
  | .malformed => s!"{file}: invalid YAML:"
  | .notMapping => s!"{document}: configuration root must be a mapping"
  | .invalid _ => s!"{document}: invalid configuration:"

/-- The wording of a fault. -/
def Fault.message (path : Option String) : Fault → String
  | .rejected r => r.message path
  | .nulInPath => Storage.Fault.nulInPath.message ""
  | .undecodable e => e.message
  | .scalar f => f.message
  | .keyNotText => "keywords must be strings"

/-- A refused document as a reason why there is no configuration. -/
def Refusal.fault : Refusal → Fault
  | .notMapping => .rejected .notMapping
  | .keyNotText => .keyNotText
  | .invalid details => .rejected (.invalid details)

/-- A fault of a document as a reason why there is no configuration. -/
def faultOfYaml : Yaml.Fault → Fault
  | .invalid => .rejected .malformed
  | f => .scalar f

/-- A fault of the storage as a reason why there is no configuration. -/
def faultOfStorage : Storage.Fault → Fault
  | .nulInPath => .nulInPath
  | f => .rejected (.unreadable f)

/-- The configuration file is read in blocks of this many bytes. -/
def blockSize : Nat :=
  8192

section Loading

variable [Yaml.Reader] [Validator]

/-- Reads the configuration that a document makes. -/
def ofDocument (v : Yaml.Value) : Except Fault Config :=
  (ofValue v).mapError Refusal.fault

/-- Reads the bytes of a configuration file. -/
def ofBytes (bytes : List UInt8) : Except Fault Config := do
  let cs ← (Utf8.decodeBlocks blockSize bytes).mapError .undecodable
  let v ← (Yaml.Reader.read (unifyNewlines cs)).mapError faultOfYaml
  ofDocument v

/-- Reads the configuration file at a path. -/
def ofFile (s : Storage) (path : String) : Except Fault Config := do
  let bytes ← (s.read path).mapError faultOfStorage
  ofBytes bytes

/-- The configuration of a program that was given the path of a file or none. -/
def load (s : Storage) : Option String → Except Fault Config
  | some path => ofFile s path
  | none => .ok {}

end Loading

end ResolverWatch.Config
