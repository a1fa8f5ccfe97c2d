import ResolverWatch.Config.Problem
import ResolverWatch.Yaml.Value

/-!
# What checks settings

The fields of a configuration are declared with a type and a bound, and a library that is no part of the
program checks values against these declarations. What is said about the program holds of every
`Validator`, or of those that are known to do what a named statement says: to check a mapping entry by
entry (`EntryWise`), to hold values to their bounds (`KeepsBounds`), and to take a value of the declared type
as it is (`KeepsTyped`). The one in `Config.Lenient` is what the program runs on.
-/

namespace ResolverWatch.Config

open Text Yaml

/-- Checks values of the declared types, bounds, and mappings whose keys are declared. The types are read
leniently, so that a value may be accepted that is only like one of the type. -/
class Validator where
  text : Value → Except Problem Points
  optionalText : Value → Except Problem (Option Points)
  truth : Value → Except Problem Bool
  whole : Value → Except Problem Int
  number : Value → Except Problem Float
  textFrom (least : Nat) : Points → Except Problem String
  wholeFrom (least : Nat) : Int → Except Problem Int
  numberFrom (least : Nat) : Float → Except Problem Float
  model {σ : Type} (kind : String) (fields : String → Option (Value → Except (List Detail) σ)) :
    Value → Except (List Detail) (List σ)

/-- The key of an entry is a text. -/
def isTextKey : Scalar × Value → Bool
  | (.text _, _) => true
  | _ => false

/-- The key of an entry is a text that holds a half of a pair. -/
def isBrokenKey : Scalar × Value → Bool
  | (.text name, _) => name.string?.isNone
  | _ => false

/-- What an entry comes to where the given keys are declared: its key has to be declared, and its value is
read as the key says. -/
def outcome {σ : Type} (fields : String → Option (Value → Except (List Detail) σ)) :
    Scalar × Value → Except (List Detail) σ
  | (.text name, v) =>
    match name.string? with
    | none => .error [⟨[], .notUnicode⟩]
    | some name =>
      match fields name with
      | some read => (read v).mapError fun ds => ds.map (Detail.within name)
      | none => .error [⟨[name], .unknownKey⟩]
  | (key, _) => .error [⟨[key.shown], .keyNotText⟩]

namespace Validator

variable [Validator]

/-- A mapping is accepted iff each of its entries is, and gives what they give. What is wrong with it is what
is wrong with its entries, unless a key holds a half of a pair: then that is all that is found. Nothing but a
mapping is accepted. -/
structure EntryWise : Prop where
  accepted {σ : Type} (kind : String) (fields : String → Option (Value → Except (List Detail) σ))
    (entries : List (Scalar × Value)) (xs : List σ) :
    model kind fields (.mapping entries) = .ok xs ↔ entries.map (outcome fields) = xs.map .ok
  refused {σ : Type} (kind : String) (fields : String → Option (Value → Except (List Detail) σ))
    (entries : List (Scalar × Value)) (plain : ∀ e ∈ entries, isBrokenKey e = false) (details : List Detail)
    (refused : model kind fields (.mapping entries) = .error details) (d : Detail) :
    d ∈ details ↔ ∃ own, .error own ∈ entries.map (outcome fields) ∧ d ∈ own
  broken {σ : Type} (kind : String) (fields : String → Option (Value → Except (List Detail) σ))
    (entries : List (Scalar × Value)) (e : Scalar × Value) (among : e ∈ entries) (half : isBrokenKey e = true) :
    model kind fields (.mapping entries) = .error [⟨[], .notUnicode⟩]
  other {σ : Type} (kind : String) (fields : String → Option (Value → Except (List Detail) σ)) (v : Value)
    (unmapped : ∀ entries, v ≠ .mapping entries) : model kind fields v = .error [⟨[], .notModel kind⟩]

/-- A value passes a bound unchanged iff it is within it: numbers are compared as such, and the characters of
a text are counted. A text that passes holds no half of a pair. -/
structure KeepsBounds : Prop where
  text (least : Nat) (s : Points) (t : String) : textFrom least s = .ok t ↔ s = t ∧ least ≤ t.length
  whole (least : Nat) (n m : Int) : wholeFrom least n = .ok m ↔ n = m ∧ (least : Int) ≤ n
  number (least : Nat) (x y : Float) : numberFrom least x = .ok y ↔ x = y ∧ Float.ofNat least ≤ x

/-- A value of the declared type is accepted as it is. -/
structure KeepsTyped : Prop where
  text (s : Points) : text (.scalar (.text s)) = .ok s
  optionalText (s : Points) : optionalText (.scalar (.text s)) = .ok (some s)
  noText : Validator.optionalText (.scalar .null) = .ok none
  truth (b : Bool) : truth (.scalar (.bool b)) = .ok b
  whole (n : Int) : whole (.scalar (.int n)) = .ok n
  number (x : Float) : number (.scalar (.real x)) = .ok x

end Validator

end ResolverWatch.Config
