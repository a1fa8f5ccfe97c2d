import Mathlib.Data.List.Basic
import Mathlib.Tactic.SplitIfs
import ResolverWatch.Config.Setting

/-!
# What the reading of a document is made of

Where mappings are checked entry by entry, every entry of a document is read alone: it gives a setting or a detail of
what is wrong, and no reading looks at another one (`outcomes`). A document is a configuration iff no reading gives a
detail (`ofValue_document_eq_ok_iff`); else its details are those of all readings (`mem_details_document_iff`). Only
a key that holds a half of a pair is looked for first, in the root and in each section.
-/

namespace ResolverWatch.Config

open Text Yaml

theorem exists_of_map_eq_ok {ε α β : Type} {r : Except ε α} {g : α → β} {b : β} (mapped : r.map g = .ok b) :
    ∃ a, r = .ok a ∧ g a = b := by
  cases r with
  | ok a => exact ⟨a, rfl, Except.ok.inj mapped⟩
  | error e => simp [Except.map] at mapped

theorem exists_of_bind_eq_ok {ε α β : Type} {r : Except ε α} {g : α → Except ε β} {b : β} (bound : r.bind g = .ok b) :
    ∃ a, r = .ok a ∧ g a = .ok b := by
  cases r with
  | ok a => exact ⟨a, rfl, bound⟩
  | error e => simp [Except.bind] at bound

theorem mapError_eq_ok_iff {ε δ α : Type} {r : Except ε α} {g : ε → δ} {a : α} : r.mapError g = .ok a ↔ r = .ok a := by
  cases r <;> simp [Except.mapError]

theorem mapError_eq_error_iff {ε δ α : Type} {r : Except ε α} {g : ε → δ} {d : δ} :
    r.mapError g = .error d ↔ ∃ e, r = .error e ∧ g e = d := by
  cases r <;> simp [Except.mapError]

/-- Results that are all good are those of what they give. -/
theorem eq_map_ok_iff {ε α : Type} {results : List (Except ε α)} {xs : List α} :
    results = xs.map .ok ↔ (∀ e, .error e ∉ results) ∧ xs = results.filterMap Except.toOption := by
  induction results generalizing xs with
  | nil => simp [eq_comm]
  | cons r rest ih =>
    cases r with
    | error e =>
      refine iff_of_false ?_ fun all => all.1 e List.mem_cons_self
      cases xs <;> simp
    | ok x =>
      cases xs with
      | nil => simp [Except.toOption]
      | cons y ys => simp [Except.toOption, ih, eq_comm, and_left_comm]

/-- Other words for what is wrong make no result a good one. -/
theorem map_mapError_eq_map_ok_iff {ε δ α : Type} {g : ε → δ} {results : List (Except ε α)} {xs : List α} :
    results.map (Except.mapError g) = xs.map .ok ↔ results = xs.map .ok := by
  induction results generalizing xs with
  | nil => simp
  | cons r rest ih => cases xs <;> simp [mapError_eq_ok_iff, ih]

theorem mem_toOption_iff {ε α : Type} {results : List (Except ε α)} {x : α} :
    x ∈ results.filterMap Except.toOption ↔ .ok x ∈ results := by
  rw [List.mem_filterMap]
  constructor
  · rintro ⟨r, among, shown⟩
    cases r with
    | ok y =>
      obtain rfl : y = x := by simpa [Except.toOption] using shown
      exact among
    | error d => simp [Except.toOption] at shown
  · intro among
    exact ⟨.ok x, among, rfl⟩

/-- What gives good results part by part gives them as a whole. -/
theorem flatMap_eq_map_ok_iff {ι ε δ α : Type} {whole : ι → Except δ (List α)} {parts : ι → List (Except ε α)}
    (same : ∀ i xs, whole i = .ok xs ↔ parts i = xs.map .ok) {is : List ι} {xs : List α} :
    is.flatMap parts = xs.map .ok ↔ ∃ xss : List (List α), is.map whole = xss.map .ok ∧ xs = xss.flatten := by
  induction is generalizing xs with
  | nil => simp [eq_comm]
  | cons i rest ih =>
    constructor
    · intro good
      rw [List.flatMap_cons, List.append_eq_map_iff] at good
      obtain ⟨first, others, rfl, own, later⟩ := good
      obtain ⟨xss, given, rfl⟩ := ih.1 later.symm
      exact ⟨first :: xss, by simp [(same i first).2 own.symm, given], rfl⟩
    · rintro ⟨xss, given, rfl⟩
      cases xss with
      | nil => simp at given
      | cons first xss =>
        obtain ⟨own, later⟩ := List.cons.inj given
        rw [List.flatMap_cons, List.flatten_cons, List.map_append, (same i first).1 own, ih.2 ⟨xss, later, rfl⟩]

/-! ## Fields by their names -/

theorem Field.ofName?_eq_some_iff {s : Section} {name : String} {f : Field} :
    Field.ofName? s name = some f ↔ f.inSection = s ∧ f.name = name := by
  constructor
  · intro found
    unfold Field.ofName? at found
    have matching := List.find?_some found
    simpa using matching
  · rintro ⟨rfl, rfl⟩
    exact Field.ofName?_name f

theorem Section.ofName?_eq_some_iff {name : String} {s : Section} :
    Section.ofName? name = some s ↔ s.name = name := by
  constructor
  · intro found
    unfold Section.ofName? at found
    have matching := List.find?_some found
    simpa using matching
  · rintro rfl
    exact Section.ofName?_name s

/-- A text is the key of an entry. -/
def keyed (e : Points × Value) : Scalar × Value :=
  (.text e.1, e.2)

/-- A document whose root has texts for keys. -/
def document (root : List (Points × Value)) : Value :=
  .mapping (root.map keyed)

/-- Entries whose keys are texts are those of a root. -/
theorem exists_keyed {entries : List (Scalar × Value)} (named : ∀ e ∈ entries, isTextKey e = true) :
    ∃ root : List (Points × Value), entries = root.map keyed := by
  induction entries with
  | nil => exact ⟨[], rfl⟩
  | cons e rest ih =>
    obtain ⟨root, rfl⟩ := ih fun other mem => named other (List.mem_cons_of_mem e mem)
    obtain ⟨key, v⟩ := e
    cases key with
    | text key => exact ⟨(key, v) :: root, rfl⟩
    | null | bool | int | real | bytes | moment => exact absurd (named _ List.mem_cons_self) nofun

@[simp] theorem string?_name (name : String) : (name : Points).string? = some name :=
  Points.string?_eq_some_iff.2 rfl

@[simp] theorem isBrokenKey_name (name : String) (v : Value) : isBrokenKey (.text name, v) = false := by
  simp [isBrokenKey]

section Checked

variable [Validator]

/-- A document is a configuration. -/
def Accepted (v : Value) : Prop :=
  ∃ c, ofValue v = .ok c

/-- The details of what is wrong with a document. -/
def details (v : Value) : List Detail :=
  match ofValue v with
  | .error (.invalid ds) => ds
  | _ => []

/-! ## Readings -/

/-- Reads an entry of a section. -/
def readEntry (s : Section) : Scalar × Value → Except Detail Setting
  | (.text key, v) =>
    match key.string? with
    | none => .error ⟨[], .notUnicode⟩
    | some name =>
      match Field.ofName? s name with
      | some f => (f.read v).mapError fun p => ⟨[name], p⟩
      | none => .error ⟨[name], .unknownKey⟩
  | (key, _) => .error ⟨[key.shown], .keyNotText⟩

/-- The readings of an entry of the root. A section without a body has none; a value that is no section has one, and so
has a section with a key that holds a half of a pair. -/
def readSection (key : Points) (v : Value) : List (Except Detail Setting) :=
  match key.string? with
  | none => [.error ⟨[], .notUnicode⟩]
  | some name =>
    match Section.ofName? name, v with
    | none, _ => [.error ⟨[name], .unknownKey⟩]
    | some _, .scalar .null => []
    | some s, .mapping entries =>
      if entries.any isBrokenKey then [.error ⟨[name], .notUnicode⟩]
      else entries.map fun e => (readEntry s e).mapError (Detail.within name)
    | some s, _ => [.error ⟨[name], .notModel s.kind⟩]

/-- The readings of all sections, in order, unless a key of the root holds a half of a pair. -/
def outcomes (root : List (Points × Value)) : List (Except Detail Setting) :=
  if root.any fun e => isBrokenKey (keyed e) then [.error ⟨[], .notUnicode⟩]
  else root.flatMap fun e => readSection e.1 e.2

theorem readSection_mapping (s : Section) {entries : List (Scalar × Value)}
    (plain : ∀ e ∈ entries, isBrokenKey e = false) :
    readSection s.name (.mapping entries) = entries.map fun e => (readEntry s e).mapError (Detail.within s.name) := by
  have none : entries.any isBrokenKey = false := by simpa using plain
  simp [readSection, Section.ofName?_name, none]

theorem readSection_of_broken (s : Section) {entries : List (Scalar × Value)} {e : Scalar × Value} (among : e ∈ entries)
    (half : isBrokenKey e = true) : readSection s.name (.mapping entries) = [.error ⟨[s.name], .notUnicode⟩] := by
  have some : entries.any isBrokenKey = true := List.any_eq_true.2 ⟨e, among, half⟩
  simp [readSection, Section.ofName?_name, some]

/-- An entry gives a setting iff its key names a field of the section that its value can be read for. -/
theorem readEntry_eq_ok_iff {s : Section} {e : Scalar × Value} {x : Setting} :
    readEntry s e = .ok x ↔ ∃ (f : Field) (v : Value), f.inSection = s ∧ e = (.text f.name, v) ∧ f.read v = .ok x := by
  obtain ⟨key, v⟩ := e
  constructor
  · intro read
    cases key with
    | text key =>
      cases spelled : key.string? with
      | none => simp [readEntry, spelled] at read
      | some name =>
        obtain rfl := Points.string?_eq_some_iff.1 spelled
        cases found : Field.ofName? s name with
        | none => simp [readEntry, found] at read
        | some f =>
          obtain ⟨inSection, rfl⟩ := Field.ofName?_eq_some_iff.1 found
          refine ⟨f, v, inSection, rfl, ?_⟩
          simpa [readEntry, found, mapError_eq_ok_iff] using read
    | null | bool | int | real | bytes | moment => simp [readEntry] at read
  · rintro ⟨f, w, rfl, same, value⟩
    obtain ⟨rfl, rfl⟩ := Prod.mk.inj same
    simp [readEntry, Field.ofName?_name, value, Except.mapError]

/-- A section gives the settings of its entries. -/
theorem ok_mem_readSection_iff {key : Points} {v : Value} {x : Setting} :
    .ok x ∈ readSection key v ↔
      ∃ (f : Field) (entries : List (Scalar × Value)) (w : Value),
        key = f.inSection.name ∧ v = .mapping entries ∧ (∀ e ∈ entries, isBrokenKey e = false) ∧
          (.text f.name, w) ∈ entries ∧ f.read w = .ok x := by
  constructor
  · intro mem
    unfold readSection at mem
    split at mem
    · simp at mem
    · next name spelled =>
      obtain rfl := Points.string?_eq_some_iff.1 spelled
      split at mem
      · simp at mem
      · simp at mem
      · next s entries found =>
        obtain rfl := Section.ofName?_eq_some_iff.1 found
        split_ifs at mem with broken
        · simp at mem
        · have plain : ∀ e ∈ entries, isBrokenKey e = false := by simpa using broken
          obtain ⟨e, among, read⟩ := List.mem_map.1 mem
          obtain ⟨f, w, rfl, rfl, value⟩ := readEntry_eq_ok_iff.1 (mapError_eq_ok_iff.1 read)
          exact ⟨f, entries, w, rfl, rfl, plain, among, value⟩
      · simp at mem
  · rintro ⟨f, entries, w, rfl, rfl, plain, among, value⟩
    have own : readEntry f.inSection (.text f.name, w) = .ok x := readEntry_eq_ok_iff.2 ⟨f, w, rfl, rfl, value⟩
    rw [readSection_mapping f.inSection plain]
    exact List.mem_map.2 ⟨(.text f.name, w), among, by rw [own]; rfl⟩

/-! ## Mappings, entry by entry -/

/-- What is declared of a section reads its entries. -/
theorem outcome_fields (s : Section) (e : Scalar × Value) :
    outcome s.fields e = (readEntry s e).mapError fun d => [d] := by
  obtain ⟨key, v⟩ := e
  cases key with
  | text key =>
    cases spelled : key.string? with
    | none => simp [outcome, readEntry, spelled, Except.mapError]
    | some name =>
      cases found : Field.ofName? s name with
      | none => simp [outcome, readEntry, spelled, Section.fields, found, Except.mapError]
      | some f =>
        cases value : f.read v <;>
          simp [outcome, readEntry, spelled, Section.fields, found, value, Except.mapError, Detail.within]
  | null | bool | int | real | bytes | moment => rfl

/-- What is wrong with a mapping whose keys are plain is what is wrong with its entries. -/
theorem Validator.EntryWise.mem_error_iff (entryWise : Validator.EntryWise) {σ : Type} {kind : String}
    {fields : String → Option (Value → Except (List Detail) σ)} {entries : List (Scalar × Value)}
    (plain : ∀ e ∈ entries, isBrokenKey e = false) {d : Detail} :
    (∃ details, Validator.model kind fields (.mapping entries) = .error details ∧ d ∈ details) ↔
      ∃ e ∈ entries, ∃ own, outcome fields e = .error own ∧ d ∈ own := by
  constructor
  · rintro ⟨details, refused, mem⟩
    obtain ⟨own, among, wrong⟩ := (entryWise.refused kind fields entries plain details refused d).1 mem
    obtain ⟨e, given, same⟩ := List.mem_map.1 among
    exact ⟨e, given, own, same, wrong⟩
  · rintro ⟨e, given, own, same, wrong⟩
    have among : .error own ∈ entries.map (outcome fields) := List.mem_map.2 ⟨e, given, same⟩
    cases read : Validator.model kind fields (.mapping entries) with
    | ok xs =>
      have all := eq_map_ok_iff.1 ((entryWise.accepted kind fields entries xs).1 read)
      exact absurd among (all.1 own)
    | error details =>
      exact ⟨details, rfl, (entryWise.refused kind fields entries plain details read d).2 ⟨own, among, wrong⟩⟩

variable (entryWise : Validator.EntryWise)

include entryWise

/-- A mapping is read as a section iff all its entries give settings. -/
theorem Section.read_mapping_eq_ok_iff {s : Section} {entries : List (Scalar × Value)} {xs : List Setting} :
    s.read (.mapping entries) = .ok xs ↔ entries.map (readEntry s) = xs.map .ok := by
  have reworded : entries.map (outcome s.fields) = (entries.map (readEntry s)).map (Except.mapError fun d => [d]) := by
    rw [List.map_map]
    exact List.map_congr_left fun e _ => outcome_fields s e
  unfold Section.read
  rw [entryWise.accepted, reworded, map_mapError_eq_map_ok_iff]

/-- What is wrong with a section is what is wrong with its entries. -/
theorem Section.read_mapping_error_iff {s : Section} {entries : List (Scalar × Value)}
    (plain : ∀ e ∈ entries, isBrokenKey e = false) {d : Detail} :
    (∃ own, s.read (.mapping entries) = .error own ∧ d ∈ own) ↔ .error d ∈ entries.map (readEntry s) := by
  unfold Section.read
  rw [entryWise.mem_error_iff plain]
  simp only [outcome_fields, mapError_eq_error_iff, List.mem_map]
  constructor
  · rintro ⟨e, given, own, ⟨wrong, read, rfl⟩, mem⟩
    obtain rfl := List.mem_singleton.1 mem
    exact ⟨e, given, read⟩
  · rintro ⟨e, given, read⟩
    exact ⟨e, given, [d], ⟨d, read, rfl⟩, List.mem_singleton_self d⟩

/-! ## The root, entry by entry -/

/-- An entry of the root is a section that is read entry by entry, or it has one reading and is refused for that. -/
theorem readSection_cases (key : Points) (v : Value) :
    (∃ (s : Section) (entries : List (Scalar × Value)), key = s.name ∧ bodied v = .mapping entries ∧
      (∀ e ∈ entries, isBrokenKey e = false) ∧
      readSection key v = entries.map fun e => (readEntry s e).mapError (Detail.within s.name)) ∨
    ∃ d, outcome sections (.text key, bodied v) = .error [d] ∧ readSection key v = [.error d] := by
  cases spelled : key.string? with
  | none => exact .inr ⟨⟨[], .notUnicode⟩, by simp [outcome, spelled], by simp [readSection, spelled]⟩
  | some name =>
    obtain rfl := Points.string?_eq_some_iff.1 spelled
    cases found : Section.ofName? name with
    | none =>
      exact .inr ⟨⟨[name], .unknownKey⟩, by simp [outcome, sections, found], by simp [readSection, found]⟩
    | some s =>
      obtain rfl := Section.ofName?_eq_some_iff.1 found
      have refused {p : Problem} (own : s.read (bodied v) = .error [⟨[], p⟩]) :
          outcome sections (.text s.name, bodied v) = .error [⟨[s.name], p⟩] := by
        simp [outcome, sections, Section.ofName?_name, own, Except.mapError, Detail.within]
      have other (unmapped : ∀ entries, bodied v ≠ .mapping entries) :
          outcome sections (.text s.name, bodied v) = .error [⟨[s.name], .notModel s.kind⟩] :=
        refused (entryWise.other _ _ _ unmapped)
      cases v with
      | scalar x =>
        cases x with
        | null => exact .inl ⟨s, [], rfl, rfl, by simp, by simp [readSection, found]⟩
        | bool | int | real | text | bytes | moment => exact .inr ⟨_, other nofun, by simp [readSection, found]⟩
      | sequence => exact .inr ⟨_, other nofun, by simp [readSection, found]⟩
      | mapping entries =>
        by_cases broken : ∃ e ∈ entries, isBrokenKey e = true
        · obtain ⟨e, among, half⟩ := broken
          exact .inr ⟨_, refused (entryWise.broken _ _ entries e among half), readSection_of_broken s among half⟩
        · have plain : ∀ e ∈ entries, isBrokenKey e = false := by simpa using broken
          exact .inl ⟨s, entries, rfl, rfl, plain, readSection_mapping s plain⟩

/-- An entry of the root is accepted iff all its readings give settings. -/
theorem outcome_bodied_eq_ok_iff {key : Points} {v : Value} {xs : List Setting} :
    outcome sections (.text key, bodied v) = .ok xs ↔ readSection key v = xs.map .ok := by
  rcases readSection_cases entryWise key v with ⟨s, entries, rfl, body, plain, readings⟩ | ⟨d, refused, readings⟩
  · have reworded : entries.map (fun e => (readEntry s e).mapError (Detail.within s.name)) =
        (entries.map (readEntry s)).map (Except.mapError (Detail.within s.name)) := by
      rw [List.map_map]
      rfl
    rw [readings, reworded, map_mapError_eq_map_ok_iff, ← Section.read_mapping_eq_ok_iff entryWise, body]
    simp [outcome, sections, Section.ofName?_name, mapError_eq_ok_iff]
  · rw [refused, readings]
    cases xs <;> simp

/-- What is wrong with an entry of the root is what is wrong with its readings. -/
theorem outcome_bodied_error_iff {key : Points} {v : Value} {d : Detail} :
    (∃ own, outcome sections (.text key, bodied v) = .error own ∧ d ∈ own) ↔ .error d ∈ readSection key v := by
  rcases readSection_cases entryWise key v with ⟨s, entries, rfl, body, plain, readings⟩ | ⟨e, refused, readings⟩
  · have placed : outcome sections (.text s.name, .mapping entries) =
        (s.read (.mapping entries)).mapError (List.map (Detail.within s.name)) := by
      simp [outcome, sections, Section.ofName?_name]
    rw [readings, body, placed]
    simp only [mapError_eq_error_iff, List.mem_map]
    constructor
    · rintro ⟨_, ⟨own, refused, rfl⟩, mem⟩
      obtain ⟨inner, wrong, rfl⟩ := List.mem_map.1 mem
      obtain ⟨entry, given, read⟩ := List.mem_map.1
        ((Section.read_mapping_error_iff entryWise plain).1 ⟨own, refused, wrong⟩)
      exact ⟨entry, given, inner, read, rfl⟩
    · rintro ⟨entry, given, inner, read, rfl⟩
      obtain ⟨own, refused, wrong⟩ := (Section.read_mapping_error_iff entryWise plain).2
        (List.mem_map.2 ⟨entry, given, read⟩)
      exact ⟨_, ⟨own, refused, rfl⟩, List.mem_map_of_mem wrong⟩
  · rw [refused, readings]
    simp

/-! ## Documents -/

omit entryWise in
theorem outcomes_of_plain {root : List (Points × Value)} (plain : ∀ e ∈ root, isBrokenKey (keyed e) = false) :
    outcomes root = root.flatMap fun e => readSection e.1 e.2 := by
  have none : root.any (fun e => isBrokenKey (keyed e)) = false := by simpa using plain
  simp [outcomes, none]

omit entryWise in
theorem outcomes_of_broken {root : List (Points × Value)} {e : Points × Value} (given : e ∈ root)
    (half : isBrokenKey (keyed e) = true) : outcomes root = [.error ⟨[], .notUnicode⟩] :=
  if_pos (List.any_eq_true.2 ⟨e, given, half⟩)

omit entryWise in
theorem ok_mem_outcomes_iff {root : List (Points × Value)} {x : Setting} :
    .ok x ∈ outcomes root ↔
      (∀ e ∈ root, isBrokenKey (keyed e) = false) ∧ ∃ e ∈ root, .ok x ∈ readSection e.1 e.2 := by
  by_cases broken : ∃ e ∈ root, isBrokenKey (keyed e) = true
  · obtain ⟨e, given, half⟩ := broken
    rw [outcomes_of_broken given half]
    refine iff_of_false (by simp) fun all => ?_
    rw [all.1 e given] at half
    contradiction
  · have plain : ∀ e ∈ root, isBrokenKey (keyed e) = false := by simpa using broken
    rw [outcomes_of_plain plain, List.mem_flatMap]
    exact (and_iff_right plain).symm

omit entryWise in
theorem outcomes_eq_map_ok_iff {root : List (Points × Value)} {settings : List Setting} :
    outcomes root = settings.map .ok ↔ (root.flatMap fun e => readSection e.1 e.2) = settings.map .ok := by
  by_cases broken : ∃ e ∈ root, isBrokenKey (keyed e) = true
  · obtain ⟨e, given, half⟩ := broken
    have spelled : e.1.string? = none := by simpa [isBrokenKey, keyed] using half
    have wrong : .error ⟨[], .notUnicode⟩ ∈ root.flatMap fun e => readSection e.1 e.2 :=
      List.mem_flatMap.2 ⟨e, given, by simp [readSection, spelled]⟩
    rw [outcomes_of_broken given half]
    refine iff_of_false ?_ fun all => (eq_map_ok_iff.1 all).1 _ wrong
    cases settings <;> simp
  · rw [outcomes_of_plain (by simpa using broken)]

theorem readSections_eq_ok_iff {root : List (Points × Value)} {settings : List Setting} :
    (∃ xss, readSections (root.map keyed) = .ok xss ∧ settings = xss.flatten) ↔ outcomes root = settings.map .ok := by
  rw [outcomes_eq_map_ok_iff, flatMap_eq_map_ok_iff fun e xs => outcome_bodied_eq_ok_iff entryWise]
  simp only [readSections, entryWise.accepted, List.map_map]
  rfl

/-- What the check of a root reports is what is wrong with it. -/
theorem readSections_error_iff {root : List (Points × Value)} {d : Detail} :
    (∃ ds, readSections (root.map keyed) = .error ds ∧ d ∈ ds) ↔ .error d ∈ outcomes root := by
  have entries : (root.map keyed).map (fun e => (e.1, bodied e.2)) = root.map fun e => (.text e.1, bodied e.2) :=
    List.map_map
  unfold readSections
  rw [entries]
  by_cases broken : ∃ e ∈ root, isBrokenKey (keyed e) = true
  · obtain ⟨e, given, half⟩ := broken
    rw [entryWise.broken _ _ _ (.text e.1, bodied e.2) (List.mem_map.2 ⟨e, given, rfl⟩) half,
      outcomes_of_broken given half]
    simp
  · have plain : ∀ e ∈ root, isBrokenKey (keyed e) = false := by simpa using broken
    have declared : ∀ e ∈ root.map fun e => (Scalar.text e.1, bodied e.2), isBrokenKey e = false :=
      List.forall_mem_map.2 plain
    rw [entryWise.mem_error_iff declared, outcomes_of_plain plain]
    simp [outcome_bodied_error_iff entryWise]

omit entryWise in
theorem ofValue_document (root : List (Points × Value)) :
    ofValue (document root) = ((readSections (root.map keyed)).map fun settings => ofSettings settings.flatten).mapError
      fun ds => .invalid (Detail.sort ds) :=
  if_pos (by simp [keyed, isTextKey])

/-- A document is a configuration iff nothing is wrong with it, and it is that of its settings then. -/
theorem ofValue_document_eq_ok_iff {root : List (Points × Value)} {c : Config} :
    ofValue (document root) = .ok c ↔
      (∀ d, .error d ∉ outcomes root) ∧ c = ofSettings ((outcomes root).filterMap Except.toOption) := by
  rw [ofValue_document, mapError_eq_ok_iff]
  constructor
  · intro read
    obtain ⟨xss, given, rfl⟩ := exists_of_map_eq_ok read
    obtain ⟨fine, settings⟩ := eq_map_ok_iff.1 ((readSections_eq_ok_iff entryWise).1 ⟨xss, given, rfl⟩)
    exact ⟨fine, congrArg ofSettings settings⟩
  · rintro ⟨fine, rfl⟩
    obtain ⟨xss, given, flat⟩ := (readSections_eq_ok_iff entryWise).2 (eq_map_ok_iff.2 ⟨fine, rfl⟩)
    rw [given, flat]
    rfl

theorem accepted_document_iff {root : List (Points × Value)} :
    Accepted (document root) ↔ ∀ d, .error d ∉ outcomes root := by
  simp [Accepted, ofValue_document_eq_ok_iff entryWise]

/-- A document that is no configuration is rejected with details, which are what is wrong with it. -/
theorem exists_details_of_error {root : List (Points × Value)} {r : Refusal}
    (failed : ofValue (document root) = .error r) :
    r = .invalid (details (document root)) ∧ details (document root) ≠ [] ∧
      ∀ d, d ∈ details (document root) ↔ .error d ∈ outcomes root := by
  have checked := failed
  rw [ofValue_document, mapError_eq_error_iff] at checked
  obtain ⟨ds, refused, rfl⟩ := checked
  have checked : readSections (root.map keyed) = .error ds := by
    revert refused
    cases readSections (root.map keyed) with
    | ok xss => exact nofun
    | error own => exact congrArg Except.error ∘ Except.error.inj
  have given : details (document root) = Detail.sort ds := by
    unfold details
    rw [failed]
  have same : ∀ d, d ∈ details (document root) ↔ .error d ∈ outcomes root := by
    intro d
    rw [given, (Detail.sort_perm ds).mem_iff, ← readSections_error_iff entryWise, checked]
    simp
  refine ⟨congrArg Refusal.invalid given.symm, ?_, same⟩
  intro none
  have fine : ∀ d, .error d ∉ outcomes root := by
    intro d wrong
    have reported := (same d).2 wrong
    rw [none] at reported
    exact List.not_mem_nil reported
  have read := (ofValue_document_eq_ok_iff entryWise).2 ⟨fine, rfl⟩
  rw [failed] at read
  contradiction

theorem mem_details_document_iff {root : List (Points × Value)} {d : Detail} :
    d ∈ details (document root) ↔ .error d ∈ outcomes root := by
  cases read : ofValue (document root) with
  | ok c =>
    have fine := ((ofValue_document_eq_ok_iff entryWise).1 read).1 d
    simp [details, read, fine]
  | error r => exact (exists_details_of_error entryWise read).2.2 d

omit entryWise in
/-- A value that is a configuration is an empty document, or a mapping whose keys are texts. -/
theorem exists_document_of_ofValue {v : Value} {c : Config} (read : ofValue v = .ok c) :
    v = .scalar .null ∧ c = {} ∨ ∃ root, v = document root := by
  cases v with
  | scalar x =>
    cases x with
    | null => exact .inl ⟨rfl, (Except.ok.inj read).symm⟩
    | bool | int | real | text | bytes | moment => exact absurd read nofun
  | sequence => exact absurd read nofun
  | mapping entries =>
    refine .inr ?_
    by_cases named : entries.all isTextKey = true
    · obtain ⟨root, rfl⟩ := exists_keyed (by simpa using named)
      exact ⟨root, rfl⟩
    · have read : ofEntries entries = .ok c := read
      unfold ofEntries ofNamed at read
      rw [if_neg named] at read
      contradiction

end Checked

end ResolverWatch.Config
