import ResolverWatch.Config.Reading
import ResolverWatch.Config.Validator

/-!
# The lenient validator

What the program runs on: values are read as `Config.Reading` says, bounds are compared after that, and the
entries of a mapping are checked one by one. A key with a half of a pair ends the check of its mapping, and what
was found in other entries is dropped.
-/

namespace ResolverWatch.Config

open Text Yaml

/-- A text with at least a number of characters. -/
def longEnough (least : Nat) (s : Points) : Except Problem String :=
  match s.string? with
  | some t => if least ≤ t.length then .ok t else .error (.tooShort least)
  | none => .error .notUnicode

/-- A whole number from a least one on. -/
def wholeAtLeast (least : Nat) (n : Int) : Except Problem Int :=
  if (least : Int) ≤ n then .ok n else .error (.below least)

/-- A double from a least one on. -/
def numberAtLeast (least : Nat) (x : Float) : Except Problem Float :=
  if Float.ofNat least ≤ x then .ok x else .error (.below least)

/-- What entries give, or all that is wrong with them. -/
def gather {σ : Type} : List (Except (List Detail) σ) → Except (List Detail) (List σ)
  | [] => .ok []
  | .ok x :: rest => (gather rest).map (x :: ·)
  | .error own :: rest =>
    match gather rest with
    | .ok _ => .error own
    | .error others => .error (own ++ others)

/-- A mapping whose keys are declared. -/
def readModel {σ : Type} (kind : String) (fields : String → Option (Value → Except (List Detail) σ)) :
    Value → Except (List Detail) (List σ)
  | .mapping entries =>
    if entries.any isBrokenKey then .error [⟨[], .notUnicode⟩] else gather (entries.map (outcome fields))
  | _ => .error [⟨[], .notModel kind⟩]

instance : Validator where
  text := readText
  optionalText := readOptional
  truth := readTruth
  whole := readWhole
  number := readNumber
  textFrom := longEnough
  wholeFrom := wholeAtLeast
  numberFrom := numberAtLeast
  model := readModel

end ResolverWatch.Config
