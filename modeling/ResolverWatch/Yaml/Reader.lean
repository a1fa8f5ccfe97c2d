import ResolverWatch.Yaml.Fault
import ResolverWatch.Yaml.Value

/-!
# What reads documents

A document is read by a library that is no part of the program. What is said about the program holds of
every `Reader`; the one in `Yaml.Document` is what the program runs on.
-/

namespace ResolverWatch.Yaml

/-- What a text says, or why it says nothing. -/
class Reader where
  read : List Char → Except Fault Value

end ResolverWatch.Yaml
