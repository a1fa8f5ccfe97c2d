import ResolverWatch.Text.Points
import ResolverWatch.Yaml.Tag

/-!
# Nodes

A document is a graph of nodes, which refer to each other by number, for an alias may stand for a
node around it.
-/

namespace ResolverWatch.Yaml

/-- A node. Its parts are numbers of nodes. -/
inductive Node
  | scalar (tag : Tag) (text : Text.Points)
  | sequence (tag : Tag) (items : List Nat)
  | mapping (tag : Tag) (entries : List (Nat × Nat))
  deriving DecidableEq, Repr

/-- The tag of a node. -/
def Node.tag : Node → Tag
  | .scalar tag _ => tag
  | .sequence tag _ => tag
  | .mapping tag _ => tag

/-- The nodes of a document. -/
abbrev Graph := Array Node

end ResolverWatch.Yaml
