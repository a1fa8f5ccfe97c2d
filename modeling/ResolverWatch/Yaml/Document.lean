import ResolverWatch.Yaml.Node.Build
import ResolverWatch.Yaml.Node.Grammar
import ResolverWatch.Yaml.Reader
import ResolverWatch.Yaml.Token.Scan

/-!
# Documents

`Yaml.read` reads a text that holds one document, or none, which counts as a null. Ill-formed texts
are found first, and only then are the values made. It gives up no document for its depth.
-/

namespace ResolverWatch.Yaml

/-- The value of a document, of which mappings are shown down to the given depth. -/
def read (depth : Nat) (text : List Char) : Except Fault Value := do
  if !text.all isAllowed then throw .invalid
  let (tokens, ending) := Token.scan text
  let (root, g) ← Graph.ofTokens tokens ending
  match root with
  | some id =>
    g.check id
    g.view depth id
  | none => return .scalar .null

/-- Mappings are shown down to here: the sections of a document and their entries. -/
def shownDepth : Nat :=
  2

instance : Reader where
  read := read shownDepth

end ResolverWatch.Yaml
