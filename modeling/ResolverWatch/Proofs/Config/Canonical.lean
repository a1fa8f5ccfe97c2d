import ResolverWatch.Proofs.Config.Bounds
import ResolverWatch.Proofs.Config.Entries

/-!
# Configurations written out

However a setting is spelled, what is read is within its bounds. Where values of the declared types are taken as they
are and pass their bounds unchanged, it is read as itself when it is given in its own type (`Field.read_canonical`). So
a configuration that was read is read again from the document that gives all its settings (`reading_idempotent`), and
in any document a spelling may be replaced by the canonical one.
-/

namespace ResolverWatch.Config

open Text Yaml

/-- The value of a setting in its own type. -/
def Setting.canonical : Setting → Value
  | .level name => .scalar (.text name)
  | .console on => .scalar (.bool on)
  | .file (some path) => .scalar (.text path)
  | .file none => .scalar .null
  | .capacity n => .scalar (.int n)
  | .marker text => .scalar (.text text)
  | .interval seconds => .scalar (.real seconds)

/-- The fields of a section, each with its canonical value. -/
def entriesOf (c : Config) (s : Section) : List (Scalar × Value) :=
  (Field.all.filter fun f => f.inSection = s).map fun f => (.text f.name, (c.get f).canonical)

/-- The sections of a configuration with all their fields. -/
def sectionsOf (c : Config) : List (Points × Value) :=
  Section.all.map fun s => (s.name, .mapping (c.entriesOf s))

/-- The document that gives all settings of a configuration. -/
def canonical (c : Config) : Value :=
  document c.sectionsOf

example : canonical { logging := { file := some "bw.log" }, capacity := 7 } =
    .mapping [
      (.text "logging", .mapping [
        (.text "level", .scalar (.text "info")),
        (.text "stderr", .scalar (.bool true)),
        (.text "file", .scalar (.text "bw.log"))]),
      (.text "history", .mapping [
        (.text "capacity", .scalar (.int 7)),
        (.text "blocked_marker", .scalar (.text "blocked"))]),
      (.text "poller", .mapping [(.text "interval_seconds", .scalar (.real 10.0))])] := by
  rfl

/-! ## One setting -/

section Checked

variable [Validator]

/-- A setting within its bounds is read from its canonical value. -/
theorem Setting.InBounds.read_canonical (held : Validator.KeepsBounds) (typed : Validator.KeepsTyped) {x : Setting}
    (bounds : x.InBounds) : x.field.read x.canonical = .ok x := by
  cases x with
  | level name => exact congrArg (Except.map Setting.level) (typed.text name)
  | console on => exact congrArg (Except.map Setting.console) (typed.truth on)
  | file path =>
    cases path with
    | none => exact congrArg (Except.map Setting.file) typed.noText
    | some path => exact congrArg (Except.map Setting.file) (typed.optionalText path)
  | capacity n =>
    have own : (Validator.whole (.scalar (.int n))).bind (Validator.wholeFrom 1) = .ok n := by
      rw [typed.whole]
      exact (held.whole 1 n n).2 ⟨rfl, bounds⟩
    exact congrArg (Except.map Setting.capacity) own
  | marker text =>
    have some : 1 ≤ text.length := Nat.pos_of_ne_zero fun none => bounds (String.length_eq_zero_iff.1 none)
    have own : (Validator.text (.scalar (.text text))).bind (Validator.textFrom 1) = .ok text := by
      rw [typed.text]
      exact (held.text 1 text text).2 ⟨rfl, some⟩
    exact congrArg (Except.map Setting.marker) own
  | interval seconds =>
    have own : (Validator.number (.scalar (.real seconds))).bind (Validator.numberFrom 1) = .ok seconds := by
      rw [typed.number]
      exact (held.number 1 seconds seconds).2 ⟨rfl, bounds⟩
    exact congrArg (Except.map Setting.interval) own

/-- Whatever a setting is read from, it is read from its canonical value, too. -/
theorem Field.read_canonical (held : Validator.KeepsBounds) (typed : Validator.KeepsTyped) {f : Field} {v : Value}
    {x : Setting} (read : f.read v = .ok x) : f.read x.canonical = .ok x := by
  have own := (Field.inBounds_of_read held read).read_canonical held typed
  rwa [Field.field_of_read read] at own

/-! ## Whole documents -/

omit [Validator] in
theorem InBounds.get {c : Config} (bounds : c.InBounds) (f : Field) : (c.get f).InBounds := by
  cases f with
  | level | console | file => exact trivial
  | capacity => exact bounds.capacity
  | marker => exact bounds.marker
  | interval => exact bounds.interval

omit [Validator] in
theorem field_get (c : Config) (f : Field) : (c.get f).field = f := by
  cases f <;> rfl

omit [Validator] in
theorem isBrokenKey_of_mem_entriesOf {c : Config} {s : Section} : ∀ e ∈ c.entriesOf s, isBrokenKey e = false := by
  intro e mem
  obtain ⟨f, -, rfl⟩ := List.mem_map.1 mem
  exact isBrokenKey_name f.name _

/-- Every section of the document of a configuration within the bounds gives its settings. -/
theorem InBounds.readSection_entriesOf (held : Validator.KeepsBounds) (typed : Validator.KeepsTyped) {c : Config}
    (bounds : c.InBounds) (s : Section) :
    readSection s.name (.mapping (c.entriesOf s)) =
      (Field.all.filter fun f => f.inSection = s).map fun f => .ok (c.get f) := by
  rw [readSection_mapping s isBrokenKey_of_mem_entriesOf]
  unfold entriesOf
  rw [List.map_map]
  refine List.map_congr_left fun f mem => ?_
  obtain rfl : f.inSection = s := by simpa using (List.mem_filter.1 mem).2
  have own := (bounds.get f).read_canonical held typed
  rw [field_get] at own
  have entry : readEntry f.inSection (.text f.name, (c.get f).canonical) = .ok (c.get f) :=
    readEntry_eq_ok_iff.2 ⟨f, _, rfl, rfl, own⟩
  show (readEntry f.inSection (.text f.name, (c.get f).canonical)).mapError _ = _
  rw [entry]
  rfl

theorem InBounds.outcomes_sectionsOf (held : Validator.KeepsBounds) (typed : Validator.KeepsTyped) {c : Config}
    (bounds : c.InBounds) : outcomes c.sectionsOf = Field.all.map fun f => .ok (c.get f) := by
  have plain : ∀ e ∈ c.sectionsOf, isBrokenKey (keyed e) = false := by
    intro e mem
    obtain ⟨s, -, rfl⟩ := List.mem_map.1 mem
    exact isBrokenKey_name s.name _
  rw [outcomes_of_plain plain]
  unfold sectionsOf
  rw [List.flatMap_map]
  simp only [bounds.readSection_entriesOf held typed]
  rfl

omit [Validator] in
/-- A configuration is its settings put onto the defaults. -/
theorem ofSettings_get (c : Config) : ofSettings (Field.all.map c.get) = c :=
  rfl

/-- A configuration within the bounds is read from its document. -/
theorem InBounds.ofValue_canonical (entryWise : Validator.EntryWise) (held : Validator.KeepsBounds)
    (typed : Validator.KeepsTyped) {c : Config} (bounds : c.InBounds) : ofValue c.canonical = .ok c := by
  unfold canonical
  rw [ofValue_document_eq_ok_iff entryWise, bounds.outcomes_sectionsOf held typed]
  refine ⟨by simp, ?_⟩
  rw [List.filterMap_map]
  exact (ofSettings_get c).symm

/-- A document in which the value of a field is spelled in some way. -/
def spelled (before after : List (Points × Value)) (es es' : List (Scalar × Value)) (f : Field) (v : Value) : Value :=
  document (before ++ ((f.inSection.name : Points), .mapping (es ++ (.text f.name, v) :: es')) :: after)

/-- Spellings of one setting make no difference to the document that they stand in. -/
theorem readAlike_spelled (entryWise : Validator.EntryWise) {f : Field} {v w : Value} {x : Setting}
    (read : f.read v = .ok x) (other : f.read w = .ok x) (before after : List (Points × Value))
    (es es' : List (Scalar × Value)) :
    ReadAlike (spelled before after es es' f v) (spelled before after es es' f w) := by
  have entry {u : Value} (own : f.read u = .ok x) : readEntry f.inSection (.text f.name, u) = .ok x :=
    readEntry_eq_ok_iff.2 ⟨f, u, rfl, rfl, own⟩
  have same : readSection f.inSection.name (.mapping (es ++ (.text f.name, v) :: es')) =
      readSection f.inSection.name (.mapping (es ++ (.text f.name, w) :: es')) := by
    simp only [readSection, string?_name, Section.ofName?_name, List.any_append, List.any_cons, isBrokenKey_name,
      List.map_append, List.map_cons, entry read, entry other]
  apply readAlike_of_outcomes_eq entryWise
  rw [outcomes_split, outcomes_split, same]

/-- A configuration that was read is read again from the document that gives all its settings; and in every document
each value that a field can be read from may be replaced by the canonical value of what is read. -/
theorem reading_idempotent (entryWise : Validator.EntryWise) (held : Validator.KeepsBounds)
    (typed : Validator.KeepsTyped) :
    (∀ {v : Value} {c : Config}, ofValue v = .ok c → ofValue c.canonical = .ok c) ∧
      ∀ {f : Field} {v : Value} {x : Setting}, f.read v = .ok x → ∀ before after es es',
        ReadAlike (spelled before after es es' f v) (spelled before after es es' f x.canonical) := by
  refine ⟨fun read => ?again, fun read => ?respelled⟩
  case again =>
    exact (inBounds_of_read entryWise held read).ofValue_canonical entryWise held typed
  case respelled => exact readAlike_spelled entryWise read (Field.read_canonical held typed read)

end Checked

/-- A configuration read from a text with a sign and a fraction, a truth value and bytes is read again from an integer,
a double and a text; a word for false is the same as false. -/
theorem reading_idempotent_looselyWritten :
    let c : Config := { capacity := 2, marker := "b", interval := 1.0 }
    let word : Value := .scalar (.text "No")
    Validator.EntryWise ∧ Validator.KeepsBounds ∧ Validator.KeepsTyped ∧
      ofValue looselyWritten = .ok c ∧ ofValue c.canonical = .ok c ∧
      Field.console.read word = .ok (.console false) ∧
      ReadAlike (spelled [] [] [] [] .console word) (spelled [] [] [] [] .console (.scalar (.bool false))) := by
  intro c word
  have read : ofValue looselyWritten = .ok c := by rfl
  have off : Field.console.read word = .ok (.console false) := by rfl
  have idempotent := reading_idempotent entryWise_lenient keepsBounds_lenient keepsTyped_lenient
  exact ⟨entryWise_lenient, keepsBounds_lenient, keepsTyped_lenient, read, idempotent.1 read, off,
    idempotent.2 off [] [] [] []⟩

end ResolverWatch.Config
