import ResolverWatch.Text.Points

/-!
# Tokens of a YAML document

The structure of a document is written by indentation and by marks; both become tokens. A scalar
keeps whether it was written plainly, for only then can it be other than a text.
-/

namespace ResolverWatch.Yaml

/-- A token. A tag is a suffix with the handle of its expansion, or stands for itself. -/
inductive Token
  | streamEnd
  | version (major : Nat)
  | tagHandle (handle expansion : String)
  | directive
  | documentStart
  | documentEnd
  | blockSequence
  | blockMapping
  | blockEnd
  | flowSequence
  | flowSequenceEnd
  | flowMapping
  | flowMappingEnd
  | flowEntry
  | blockEntry
  | key
  | value
  | alias (name : String)
  | anchor (name : String)
  | tag (handle : Option String) (suffix : String)
  | scalar (text : Text.Points) (plain : Bool)
  deriving DecidableEq, Repr

end ResolverWatch.Yaml
