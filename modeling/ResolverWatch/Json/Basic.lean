import ResolverWatch.Text.Points

/-!
# JSON values

Numbers keep the distinction between an integer of any size and a double. Members of an object
keep their order; `sortKeys` puts those of all objects in the order of their keys.
-/

namespace ResolverWatch

open Text

/-- A JSON value. -/
inductive Json
  | null
  | bool (b : Bool)
  | int (n : Int)
  | real (x : Float)
  | text (s : Points)
  | array (items : List Json)
  | object (members : List (Points × Json))

namespace Json

/-- The member of an object with a given name. -/
def member (name : String) (v : Json) : Points × Json :=
  (name, v)

/-- The members of an object in the order of their keys, by code points. -/
def sortMembers (members : List (Points × Json)) : List (Points × Json) :=
  members.mergeSort fun a b => a.1.before b.1

mutual

/-- Sorts the members of an object and of all objects in it. -/
def sortKeys : Json → Json
  | .array items => .array (sortItems items)
  | .object members => .object (sortMembers (sortEntries members))
  | v => v

/-- Sorts the members of all objects in a list of values. -/
def sortItems : List Json → List Json
  | [] => []
  | v :: vs => sortKeys v :: sortItems vs

/-- Sorts the members of all objects in the values of members. -/
def sortEntries : List (Points × Json) → List (Points × Json)
  | [] => []
  | (k, v) :: rest => (k, sortKeys v) :: sortEntries rest

end

/-- The value of a member of an object; the last one counts when a key is repeated. -/
def get? (key : Points) : Json → Option Json
  | .object members => (members.reverse.find? fun m => m.1 == key).map (·.2)
  | _ => none

end Json

end ResolverWatch
