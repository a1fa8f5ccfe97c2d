/-!
# What can be wrong in a configuration

Each fault of a configuration is a `Detail`: the keys that lead to what it concerns, and the
problem. Details are reported in the order of their places.
-/

namespace ResolverWatch.Config

/-- The sections of a configuration. -/
inductive Section
  | logging
  | history
  | poller
  deriving DecidableEq, Repr

/-- All sections. -/
def Section.all : List Section :=
  [.logging, .history, .poller]

/-- The key of a section. -/
def Section.name : Section → String
  | .logging => "logging"
  | .history => "history"
  | .poller => "poller"

/-- The section of a given key. -/
def Section.ofName? (name : String) : Option Section :=
  Section.all.find? fun s => s.name == name

/-- The kind of value that a section holds, as messages call it. -/
def Section.kind : Section → String
  | .logging => "LoggingConfig"
  | .history => "HistoryConfig"
  | .poller => "PollerConfig"

/-- What is wrong with a value or a key. -/
inductive Problem
  | unknownKey
  | notModel (kind : String)
  | keyNotText
  | notText
  | notUnicode
  | tooShort (least : Nat)
  | notTruth
  | unreadableTruth
  | notWhole
  | unreadableWhole
  | fractional
  | oversized
  | notFinite
  | notNumber
  | unreadableNumber
  | below (least : Nat)
  deriving DecidableEq, Repr

/-- The name that a problem is filed under. -/
def Problem.code : Problem → String
  | .unknownKey => "extra_forbidden"
  | .notModel _ => "model_type"
  | .keyNotText => "invalid_key"
  | .notText => "string_type"
  | .notUnicode => "string_unicode"
  | .tooShort _ => "string_too_short"
  | .notTruth => "bool_type"
  | .unreadableTruth => "bool_parsing"
  | .notWhole => "int_type"
  | .unreadableWhole => "int_parsing"
  | .fractional => "int_from_float"
  | .oversized => "int_parsing_size"
  | .notFinite => "finite_number"
  | .notNumber => "float_type"
  | .unreadableNumber => "float_parsing"
  | .below _ => "greater_than_equal"

/-- The wording of a problem. -/
def Problem.message : Problem → String
  | .unknownKey => "Extra inputs are not permitted"
  | .notModel kind => s!"Input should be a valid dictionary or instance of {kind}"
  | .keyNotText => "Keys should be strings"
  | .notText => "Input should be a valid string"
  | .notUnicode => "Input should be a valid string, unable to parse raw data as a unicode string"
  | .tooShort least => s!"String should have at least {least} character" ++ if least = 1 then "" else "s"
  | .notTruth => "Input should be a valid boolean"
  | .unreadableTruth => "Input should be a valid boolean, unable to interpret input"
  | .notWhole => "Input should be a valid integer"
  | .unreadableWhole => "Input should be a valid integer, unable to parse string as an integer"
  | .fractional => "Input should be a valid integer, got a number with a fractional part"
  | .oversized => "Unable to parse input string as an integer, exceeded maximum size"
  | .notFinite => "Input should be a finite number"
  | .notNumber => "Input should be a valid number"
  | .unreadableNumber => "Input should be a valid number, unable to parse string as a number"
  | .below least => s!"Input should be greater than or equal to {least}"

/-- A problem and where it is: the keys that lead to it. -/
structure Detail where
  place : List String
  problem : Problem
  deriving DecidableEq, Repr

/-- A detail of a value, placed under the key of the value. -/
def Detail.within (key : String) (d : Detail) : Detail :=
  { d with place := key :: d.place }

/-- The order of places, part by part. -/
def placeBefore : List String → List String → Bool
  | [], _ => true
  | _ :: _, [] => false
  | a :: as, b :: bs => if a < b then true else if b < a then false else placeBefore as bs

/-- The order in which details are reported: by place, and at one place by the problem's name. -/
def Detail.before (a b : Detail) : Bool :=
  if a.place = b.place then decide (a.problem.code ≤ b.problem.code)
  else placeBefore a.place b.place

/-- Details in the order in which they are reported. -/
def Detail.sort (details : List Detail) : List Detail :=
  details.mergeSort Detail.before

theorem Section.ofName?_name (s : Section) : Section.ofName? s.name = some s := by
  cases s <;> decide +kernel

theorem Detail.sort_perm (details : List Detail) : (Detail.sort details).Perm details :=
  List.mergeSort_perm details _

end ResolverWatch.Config
