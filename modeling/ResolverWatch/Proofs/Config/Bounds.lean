import ResolverWatch.Proofs.Config.Lenient
import ResolverWatch.Proofs.Config.Readings
import ResolverWatch.Proofs.Float.Order

/-!
# The bounds of settings

However its values are written, a configuration that was read keeps at least one scrape, has a marker
with at least one character, and waits at least one second (`inBounds_of_ofValue`), as long as mappings are checked
entry by entry and values are held to the bounds that their fields declare. The wait is compared as a double,
so it is no undefined value.
-/

namespace ResolverWatch

open Yaml

theorem Double.isNaN_of_le {x y : Float} (le : x ≤ y) : y.isNaN = false := by
  obtain ⟨o, compared, -⟩ := (le_iff x y).1 le
  show y.toModel.unpack.isNaN = false
  revert compared
  cases y.toModel.unpack with
  | notANumber => cases x.toModel.unpack <;> exact nofun
  | infinity | zero | finite => exact fun _ => rfl

namespace Config

/-- What the settings of a configuration are held to. -/
structure InBounds (c : Config) : Prop where
  capacity : 1 ≤ c.capacity
  marker : c.marker ≠ ""
  interval : c.interval ≥ 1.0

/-- What a single setting is held to. -/
def Setting.InBounds : Setting → Prop
  | .level _ | .console _ | .file _ => True
  | .capacity n => 1 ≤ n
  | .marker text => text ≠ ""
  | .interval seconds => seconds ≥ 1.0

/-! ## Settings put together -/

theorem inBounds_default : InBounds {} where
  capacity := by decide
  marker := by decide
  interval := by decide +kernel

/-- A setting within its bounds keeps the configuration within them. -/
theorem InBounds.set {c : Config} (bounds : c.InBounds) {x : Setting} (own : x.InBounds) : (c.set x).InBounds := by
  cases x with
  | level | console | file => exact ⟨bounds.capacity, bounds.marker, bounds.interval⟩
  | capacity n => exact ⟨own, bounds.marker, bounds.interval⟩
  | marker text => exact ⟨bounds.capacity, own, bounds.interval⟩
  | interval seconds => exact ⟨bounds.capacity, bounds.marker, own⟩

theorem InBounds.foldl_set {c : Config} (bounds : c.InBounds) {settings : List Setting}
    (own : ∀ x ∈ settings, x.InBounds) : (settings.foldl Config.set c).InBounds := by
  induction settings generalizing c with
  | nil => exact bounds
  | cons x rest ih =>
    have first : (c.set x).InBounds := bounds.set (own x List.mem_cons_self)
    exact ih first fun y mem => own y (List.mem_cons_of_mem _ mem)

/-! ## What is read -/

section Checked

variable [Validator]

/-- The value of a field is read to a setting within its bounds. -/
theorem Field.inBounds_of_read (held : Validator.KeepsBounds) {f : Field} {v : Value} {x : Setting}
    (read : f.read v = .ok x) : x.InBounds := by
  cases f with
  | level | console | file =>
    obtain ⟨_, -, rfl⟩ := exists_of_map_eq_ok read
    exact trivial
  | capacity =>
    obtain ⟨n, own, rfl⟩ := exists_of_map_eq_ok read
    obtain ⟨m, -, passed⟩ := exists_of_bind_eq_ok own
    obtain ⟨rfl, enough⟩ := (held.whole 1 m n).1 passed
    exact enough
  | marker =>
    obtain ⟨text, own, rfl⟩ := exists_of_map_eq_ok read
    obtain ⟨s, -, passed⟩ := exists_of_bind_eq_ok own
    obtain ⟨-, some⟩ := (held.text 1 s text).1 passed
    rintro rfl
    contradiction
  | interval =>
    obtain ⟨seconds, own, rfl⟩ := exists_of_map_eq_ok read
    obtain ⟨x, -, passed⟩ := exists_of_bind_eq_ok own
    obtain ⟨rfl, enough⟩ := (held.number 1 x seconds).1 passed
    exact enough

theorem inBounds_of_read (entryWise : Validator.EntryWise) (held : Validator.KeepsBounds) {v : Value} {c : Config}
    (read : ofValue v = .ok c) : c.InBounds := by
  obtain ⟨-, rfl⟩ | ⟨root, rfl⟩ := exists_document_of_ofValue read
  · exact inBounds_default
  · obtain ⟨-, rfl⟩ := (ofValue_document_eq_ok_iff entryWise).1 read
    apply inBounds_default.foldl_set
    intro x mem
    obtain ⟨-, e, -, given⟩ := ok_mem_outcomes_iff.1 (mem_toOption_iff.1 mem)
    obtain ⟨f, _, w, -, -, -, -, value⟩ := ok_mem_readSection_iff.1 given
    exact Field.inBounds_of_read held value

/-- A configuration that was read is within the bounds, and its wait is a number. -/
theorem inBounds_of_ofValue (entryWise : Validator.EntryWise) (held : Validator.KeepsBounds) {v : Value} {c : Config}
    (read : ofValue v = .ok c) : c.InBounds ∧ c.interval.isNaN = false := by
  have bounds : c.InBounds := inBounds_of_read entryWise held read
  exact ⟨bounds, Double.isNaN_of_le bounds.interval⟩

end Checked

/-- A document whose numbers are a text with a sign and a fraction and a truth value, and whose marker is bytes. -/
def looselyWritten : Value :=
  .mapping [
    (.text "history", .mapping [
      (.text "capacity", .scalar (.text "+2.0")),
      (.text "blocked_marker", .scalar (.bytes [0x62]))]),
    (.text "poller", .mapping [(.text "interval_seconds", .scalar (.bool true))])]

/-- It is read as a configuration at the edge of the bounds. -/
theorem inBounds_looselyWritten :
    let c : Config := { capacity := 2, marker := "b", interval := 1.0 }
    Validator.EntryWise ∧ Validator.KeepsBounds ∧ ofValue looselyWritten = .ok c ∧ c.InBounds ∧
      c.interval.isNaN = false := by
  intro c
  have read : ofValue looselyWritten = .ok c := by rfl
  exact ⟨entryWise_lenient, keepsBounds_lenient, read, inBounds_of_ofValue entryWise_lenient keepsBounds_lenient read⟩

end Config

end ResolverWatch
