import ResolverWatch.Yaml.Scalar.Number
import ResolverWatch.Yaml.Scalar.Timestamp

/-!
# Tags

A tag says what kind of value a node is. A node without a tag is a sequence, a mapping or, if it is
a scalar, what its text looks like when it is plain, and a text when it is not.
-/

namespace ResolverWatch.Yaml

/-- The kinds of nodes. `merge` and `default` are special keys of mappings. -/
inductive Tag
  | null
  | bool
  | int
  | real
  | binary
  | timestamp
  | text
  | sequence
  | mapping
  | set
  | orderedMap
  | pairs
  | merge
  | default
  | unknown
  deriving DecidableEq, Repr

namespace Tag

/-- The expansion of the handle of the standard tags. -/
def standard : String :=
  "tag:yaml.org,2002:"

/-- The standard tags by name. -/
def names : List (String × Tag) :=
  [
    ("null", .null), ("bool", .bool), ("int", .int), ("float", .real), ("binary", .binary),
    ("timestamp", .timestamp), ("str", .text), ("seq", .sequence), ("map", .mapping), ("set", .set),
    ("omap", .orderedMap), ("pairs", .pairs), ("merge", .merge), ("value", .default)
  ]

/-- The tag of a full name. -/
def ofName (name : String) : Tag :=
  match names.find? fun p => standard ++ p.1 == name with
  | some p => p.2
  | none => .unknown

/-- The plain scalars that are true. -/
def trueWords : List String :=
  ["yes", "Yes", "YES", "true", "True", "TRUE", "on", "On", "ON"]

/-- The plain scalars that are false. -/
def falseWords : List String :=
  ["no", "No", "NO", "false", "False", "FALSE", "off", "Off", "OFF"]

/-- The plain scalars that are null. -/
def nullWords : List String :=
  ["", "~", "null", "Null", "NULL"]

/-- The plain scalars that no document may have as a value. -/
def markWords : List String :=
  ["!", "&", "*"]

/-- The tag of a plain scalar that has none. -/
def ofPlain (cs : List Char) : Tag :=
  let word := String.ofList cs
  if trueWords.contains word || falseWords.contains word then .bool
  else if Number.isReal cs then .real
  else if Number.isWhole cs then .int
  else if word = "<<" then .merge
  else if nullWords.contains word then .null
  else if Timestamp.isPlain cs then .timestamp
  else if word = "=" then .default
  else if markWords.contains word then .unknown
  else .text

/-- The tag is for nodes with parts. -/
def isCollection : Tag → Bool
  | .sequence | .mapping | .set | .orderedMap | .pairs => true
  | _ => false

end Tag

end ResolverWatch.Yaml
