import Mathlib.Data.List.Nodup
import ResolverWatch.Proofs.Config.Lenient

/-!
# Configurations, entry by entry

A document with texts for keys falls into documents of one entry each: a key of the root with a value
that has no entries, or a key of the root with one key and value of its section. Where mappings are checked entry by
entry, the document is read as they are, each alone (`document_read_by_parts`): it is a configuration iff they all
are, every setting is that of its own part or the default, and the order of keys does not matter; a section without a
body is an empty one, which is none. What is wrong with the document is what is wrong with its parts, unless a key
holds a half of a pair: then the mapping of that key has one detail, and hides those of its entries
(`hidden_halfKey`).
-/

namespace ResolverWatch.Config

open Text Yaml

/-! ## The settings of a configuration -/

/-- The field that a setting sets. -/
def Setting.field : Setting → Field
  | .level _ => .level
  | .console _ => .console
  | .file _ => .file
  | .capacity _ => .capacity
  | .marker _ => .marker
  | .interval _ => .interval

/-- The setting of a field. -/
def get (c : Config) : Field → Setting
  | .level => .level c.logging.level
  | .console => .console c.logging.console
  | .file => .file c.logging.file
  | .capacity => .capacity c.capacity
  | .marker => .marker c.marker
  | .interval => .interval c.interval

@[simp] theorem get_set_self (c : Config) (x : Setting) : (c.set x).get x.field = x := by
  cases x <;> rfl

theorem get_set_of_ne (c : Config) {x : Setting} {f : Field} (other : x.field ≠ f) : (c.set x).get f = c.get f := by
  cases x <;> cases f <;> first | rfl | exact absurd rfl other

/-- A configuration is what its fields are set to. -/
theorem eq_of_get {c d : Config} (same : ∀ f, c.get f = d.get f) : c = d := by
  obtain ⟨⟨level, console, file⟩, capacity, marker, interval⟩ := c
  obtain ⟨⟨level', console', file'⟩, capacity', marker', interval'⟩ := d
  obtain rfl : level = level' := Setting.level.inj (same .level)
  obtain rfl : console = console' := Setting.console.inj (same .console)
  obtain rfl : file = file' := Setting.file.inj (same .file)
  obtain rfl : capacity = capacity' := Setting.capacity.inj (same .capacity)
  obtain rfl : marker = marker' := Setting.marker.inj (same .marker)
  obtain rfl : interval = interval' := Setting.interval.inj (same .interval)
  rfl

/-- A field that no setting is for stays as it was. -/
theorem get_foldl_set_of_ne {settings : List Setting} {f : Field} (c : Config)
    (other : ∀ y ∈ settings, y.field ≠ f) : (settings.foldl set c).get f = c.get f := by
  induction settings generalizing c with
  | nil => rfl
  | cons y rest ih =>
    have later : ∀ z ∈ rest, z.field ≠ f := fun z mem => other z (List.mem_cons_of_mem _ mem)
    rw [List.foldl_cons, ih (c.set y) later, get_set_of_ne c (other y List.mem_cons_self)]

/-- A field that all settings for it agree on is set to what they say, if there is one. -/
theorem get_foldl_set_of_forall {settings : List Setting} {x : Setting} (c : Config) (mem : x ∈ settings)
    (agree : ∀ y ∈ settings, y.field = x.field → y = x) : (settings.foldl set c).get x.field = x := by
  induction settings generalizing c with
  | nil => simp at mem
  | cons y rest ih =>
    have later : ∀ z ∈ rest, z.field = x.field → z = x := fun z mem => agree z (List.mem_cons_of_mem _ mem)
    by_cases again : ∃ z ∈ rest, z.field = x.field
    · obtain ⟨z, among, same⟩ := again
      obtain rfl : z = x := later z among same
      exact ih (c.set y) among later
    · have other : ∀ z ∈ rest, z.field ≠ x.field := fun z among same => again ⟨z, among, same⟩
      obtain rfl : x = y := by
        rcases List.mem_cons.1 mem with rfl | among
        · rfl
        · exact absurd rfl (other x among)
      rw [List.foldl_cons, get_foldl_set_of_ne (c.set x) other, get_set_self]

theorem Field.field_of_read [Validator] {f : Field} {v : Value} {x : Setting} (read : f.read v = .ok x) :
    x.field = f := by
  cases f <;>
  · obtain ⟨_, -, rfl⟩ := exists_of_map_eq_ok read
    rfl

/-! ## Documents and their parts -/

/-- The documents of one entry that an entry of the root falls into. -/
def pieces (key : Points) : Value → List Value
  | .mapping (e :: rest) => (e :: rest).map fun entry => document [(key, .mapping [entry])]
  | v => [document [(key, v)]]

/-- The documents of one entry that a document falls into. -/
def parts (root : List (Points × Value)) : List Value :=
  root.flatMap fun e => pieces e.1 e.2

/-- The document that gives one field a value, and nothing else. -/
def Field.alone (f : Field) (v : Value) : Value :=
  document [(f.inSection.name, .mapping [(.text f.name, v)])]

/-- Documents that differ in the order of their keys, at the root or in a section. -/
inductive Reordered : List (Points × Value) → List (Points × Value) → Prop
  | root {a b : List (Points × Value)} (perm : a.Perm b) : Reordered a b
  | entries (before : List (Points × Value)) (key : Points) {es es' : List (Scalar × Value)} (perm : es.Perm es')
      (after : List (Points × Value)) :
      Reordered (before ++ (key, .mapping es) :: after) (before ++ (key, .mapping es') :: after)
  | trans {a b c : List (Points × Value)} (first : Reordered a b) (second : Reordered b c) : Reordered a c

/-- A text is the key of one entry at most, in the root and in each section. This is so in every mapping. -/
structure Distinct (root : List (Points × Value)) : Prop where
  sections : (root.map Prod.fst).Nodup
  entries : ∀ key es, (key, .mapping es) ∈ root → ∀ name v w, (.text name, v) ∈ es → (.text name, w) ∈ es → v = w

/-- No key of the root, and no key of a section, holds a half of a pair. -/
structure Plain (root : List (Points × Value)) : Prop where
  sections : ∀ e ∈ root, isBrokenKey (keyed e) = false
  entries : ∀ (s : Section) es, ((s.name : Points), .mapping es) ∈ root → ∀ e ∈ es, isBrokenKey e = false

/-- Values are read alike: the same configuration is read, and the same is wrong. -/
structure ReadAlike [Validator] (v w : Value) : Prop where
  read : ∀ c, ofValue v = .ok c ↔ ofValue w = .ok c
  wrong : ∀ d, d ∈ details v ↔ d ∈ details w

/-- A document is read as its parts are: it is accepted iff they all are, a setting is that of its own part or the
default, a section without a body is an empty one and none, and the order of keys does not matter. What is wrong with
it, compared as a set, is what is wrong with its parts; but a key that holds a half of a pair is all that is reported
of its mapping, and hides nothing beside that mapping. -/
structure ReadByParts [Validator] (root : List (Points × Value)) : Prop where
  accepted : Accepted (document root) ↔ ∀ part ∈ parts root, Accepted part
  given {c : Config} (read : ofValue (document root) = .ok c) {f : Field} {v : Value} (given : f.alone v ∈ parts root) :
    ∃ own, ofValue (f.alone v) = .ok own ∧ c.get f = own.get f
  missing {c : Config} (read : ofValue (document root) = .ok c) {f : Field} (missing : ∀ v, f.alone v ∉ parts root) :
    c.get f = ({} : Config).get f
  bodiless (s : Section) (before after : List (Points × Value))
    (same : root = before ++ ((s.name : Points), .scalar .null) :: after) :
    ReadAlike (document root) (document (before ++ after)) ∧
      ReadAlike (document root) (document (before ++ ((s.name : Points), .mapping []) :: after))
  rejected {r : Refusal} (failed : ofValue (document root) = .error r) :
    r = .invalid (details (document root)) ∧ details (document root) ≠ []
  union (plain : Plain root) (d : Detail) : d ∈ details (document root) ↔ ∃ part ∈ parts root, d ∈ details part
  unionOfEntries (plain : ∀ e ∈ root, isBrokenKey (keyed e) = false) (d : Detail) :
    d ∈ details (document root) ↔ ∃ e ∈ root, d ∈ details (document [e])
  brokenRoot {e : Points × Value} (given : e ∈ root) (half : isBrokenKey (keyed e) = true) (d : Detail) :
    d ∈ details (document root) ↔ d = ⟨[], .notUnicode⟩
  brokenSection (s : Section) (es : List (Scalar × Value)) (given : ((s.name : Points), .mapping es) ∈ root)
    (e : Scalar × Value) (mem : e ∈ es) (half : isBrokenKey e = true) (d : Detail) :
    d ∈ details (document [((s.name : Points), .mapping es)]) ↔ d = ⟨[s.name], .notUnicode⟩
  order {other : List (Points × Value)} (same : Reordered root other) : ReadAlike (document other) (document root)

/-! ## One entry of the root -/

section Pieces

variable {key : Points} {v part : Value}

theorem bare_or_entries (v : Value) :
    (∀ e rest, v ≠ .mapping (e :: rest)) ∨ ∃ e rest, v = .mapping (e :: rest) := by
  cases v with
  | scalar | sequence => exact .inl nofun
  | mapping es =>
    cases es with
    | nil => exact .inl nofun
    | cons e rest => exact .inr ⟨e, rest, rfl⟩

theorem pieces_of_bare (bare : ∀ e rest, v ≠ .mapping (e :: rest)) : pieces key v = [document [(key, v)]] := by
  unfold pieces
  split
  · next e rest => exact absurd rfl (bare e rest)
  · rfl

/-- A piece gives a field a value iff the entry does. -/
theorem alone_mem_pieces_iff {f : Field} {w : Value} :
    f.alone w ∈ pieces key v ↔ key = f.inSection.name ∧ ∃ es, v = .mapping es ∧ (.text f.name, w) ∈ es := by
  have same {key' : Points} {v' : Value} :
      f.alone w = document [(key', v')] ↔ key' = f.inSection.name ∧ v' = .mapping [(.text f.name, w)] := by
    simp [Field.alone, document, keyed, eq_comm]
  rcases bare_or_entries v with bare | ⟨e, rest, rfl⟩
  · rw [pieces_of_bare bare, List.mem_singleton, same]
    constructor
    · rintro ⟨-, rfl⟩
      exact absurd rfl (bare _ _)
    · rintro ⟨-, es, rfl, mem⟩
      cases es with
      | nil => simp at mem
      | cons e rest => exact absurd rfl (bare e rest)
  · unfold pieces
    rw [List.mem_map]
    constructor
    · rintro ⟨entry, mem, given⟩
      obtain ⟨rfl, entries⟩ := same.1 given.symm
      obtain rfl : entry = (.text f.name, w) := by simpa using entries
      exact ⟨rfl, e :: rest, rfl, mem⟩
    · rintro ⟨rfl, es, entries, mem⟩
      obtain rfl : e :: rest = es := by simpa using entries
      exact ⟨(.text f.name, w), mem, (same.2 ⟨rfl, rfl⟩).symm⟩

theorem mem_pieces_of_perm {es es' : List (Scalar × Value)} (perm : es.Perm es')
    (mem : part ∈ pieces key (.mapping es)) : part ∈ pieces key (.mapping es') := by
  cases es with
  | nil =>
    rw [perm.nil_eq] at mem
    exact mem
  | cons e rest =>
    obtain ⟨entry, among, rfl⟩ := List.mem_map.1 mem
    have moved : entry ∈ es' := perm.mem_iff.1 among
    cases es' with
    | nil => simp at moved
    | cons e' rest' => exact List.mem_map.2 ⟨entry, moved, rfl⟩

theorem alone_mem_parts_iff {root : List (Points × Value)} {f : Field} {w : Value} :
    f.alone w ∈ parts root ↔ ∃ es, ((f.inSection.name : Points), .mapping es) ∈ root ∧ (.text f.name, w) ∈ es := by
  unfold parts
  simp only [List.mem_flatMap, alone_mem_pieces_iff]
  constructor
  · rintro ⟨⟨key, v⟩, mem, rfl, es, rfl, given⟩
    exact ⟨es, mem, given⟩
  · rintro ⟨es, mem, given⟩
    exact ⟨(f.inSection.name, .mapping es), mem, rfl, es, rfl, given⟩

/-- A document that gives one field is its own part. -/
theorem distinct_alone (f : Field) (v : Value) : Distinct [(f.inSection.name, .mapping [(.text f.name, v)])] where
  sections := List.nodup_singleton _
  entries := by
    intro key es mem name a b left right
    simp only [List.mem_singleton, Prod.mk.injEq, Value.mapping.injEq] at mem
    rw [mem.2] at left right
    simp only [List.mem_singleton, Prod.mk.injEq] at left right
    rw [left.2, right.2]

end Pieces

/-! ## The order of keys -/

namespace Reordered

variable {a b : List (Points × Value)}

theorem symm (same : Reordered a b) : Reordered b a := by
  induction same with
  | root perm => exact .root perm.symm
  | entries before key perm after => exact .entries before key perm.symm after
  | trans _ _ first second => exact .trans second first

theorem mem_parts (same : Reordered a b) {part : Value} (mem : part ∈ parts a) : part ∈ parts b := by
  induction same with
  | root perm =>
    obtain ⟨e, among, piece⟩ := List.mem_flatMap.1 mem
    exact List.mem_flatMap.2 ⟨e, perm.mem_iff.1 among, piece⟩
  | entries before key perm after =>
    simp only [parts, List.flatMap_append, List.flatMap_cons, List.mem_append] at mem ⊢
    rcases mem with earlier | here | later
    · exact .inl earlier
    · exact .inr (.inl (mem_pieces_of_perm perm here))
    · exact .inr (.inr later)
  | trans _ _ first second => exact second (first mem)

theorem distinct (same : Reordered a b) (own : Distinct a) : Distinct b := by
  induction same with
  | root perm =>
    refine ⟨(perm.map Prod.fst).nodup_iff.1 own.sections, fun key es mem => ?_⟩
    exact own.entries key es (perm.mem_iff.2 mem)
  | @entries before key es es' perm after =>
    refine ⟨by simpa using own.sections, fun key' fs mem name v w left right => ?_⟩
    rcases List.mem_append.1 mem with earlier | here
    · exact own.entries key' fs (List.mem_append_left _ earlier) name v w left right
    · rcases List.mem_cons.1 here with moved | later
      · obtain ⟨rfl, sections⟩ := Prod.mk.inj moved
        obtain rfl := Value.mapping.inj sections
        have unmoved : (key', .mapping es) ∈ before ++ (key', .mapping es) :: after := by simp
        exact own.entries key' es unmoved name v w (perm.mem_iff.2 left) (perm.mem_iff.2 right)
      · exact own.entries key' fs (by simp [later]) name v w left right
  | trans _ _ first second => exact second (first own)

end Reordered

/-! ## What is wrong with a document -/

section Checked

variable [Validator] {root : List (Points × Value)}

section Entry

variable {key : Points} {v : Value}

/-- A key is that of a section, or it is refused whatever its value is. -/
theorem section_or_refused (key : Points) :
    (∃ s : Section, key = s.name) ∨ ∃ d, ∀ v, readSection key v = [.error d] := by
  cases spelled : key.string? with
  | none => exact .inr ⟨⟨[], .notUnicode⟩, fun v => by simp [readSection, spelled]⟩
  | some name =>
    obtain rfl := Points.string?_eq_some_iff.1 spelled
    cases found : Section.ofName? name with
    | none => exact .inr ⟨⟨[name], .unknownKey⟩, fun v => by simp [readSection, found]⟩
    | some s => exact .inl ⟨s, congrArg _ (Section.ofName?_eq_some_iff.1 found).symm⟩

theorem outcomes_singleton (key : Points) (v : Value) : outcomes [(key, v)] = readSection key v := by
  by_cases half : isBrokenKey (keyed (key, v)) = true
  · have spelled : key.string? = none := by simpa [isBrokenKey, keyed] using half
    rw [outcomes_of_broken List.mem_cons_self half]
    simp [readSection, spelled]
  · rw [outcomes_of_plain (by simpa using half)]
    simp

/-- What is wrong with a section is what is wrong with its entries; a key that names no section is wrong with each. -/
theorem error_mem_readSection_mapping_iff {es : List (Scalar × Value)} (some : es ≠ [])
    (plain : ∀ s : Section, key = s.name → ∀ e ∈ es, isBrokenKey e = false) {d : Detail} :
    .error d ∈ readSection key (.mapping es) ↔ ∃ entry ∈ es, .error d ∈ readSection key (.mapping [entry]) := by
  rcases section_or_refused key with ⟨s, rfl⟩ | ⟨_, refused⟩
  · have own := plain s rfl
    have single : ∀ entry ∈ es, readSection s.name (.mapping [entry]) =
        [(readEntry s entry).mapError (Detail.within s.name)] := fun entry mem =>
      readSection_mapping s (by simpa using own entry mem)
    rw [readSection_mapping s own, List.mem_map]
    constructor
    · rintro ⟨entry, mem, wrong⟩
      exact ⟨entry, mem, by simp [single entry mem, wrong]⟩
    · rintro ⟨entry, mem, wrong⟩
      rw [single entry mem, List.mem_singleton] at wrong
      exact ⟨entry, mem, wrong.symm⟩
  · obtain ⟨entry, mem⟩ := List.exists_mem_of_ne_nil es some
    simp only [refused]
    exact ⟨fun wrong => ⟨entry, mem, wrong⟩, fun ⟨_, _, wrong⟩ => wrong⟩

/-- A section with a key that holds a half of a pair is wrong. -/
theorem exists_error_of_broken {es : List (Scalar × Value)} {e : Scalar × Value} (mem : e ∈ es)
    (half : isBrokenKey e = true) : ∃ d, .error d ∈ readSection key (.mapping es) := by
  rcases section_or_refused key with ⟨s, rfl⟩ | ⟨d, refused⟩
  · rw [readSection_of_broken s mem half]
    exact ⟨_, List.mem_singleton_self _⟩
  · rw [refused]
    exact ⟨d, List.mem_singleton_self _⟩

variable (entryWise : Validator.EntryWise)

include entryWise

theorem mem_details_single_iff {d : Detail} : d ∈ details (document [(key, v)]) ↔ .error d ∈ readSection key v := by
  rw [mem_details_document_iff entryWise, outcomes_singleton]

theorem accepted_single_iff : Accepted (document [(key, v)]) ↔ ∀ d, .error d ∉ readSection key v := by
  rw [accepted_document_iff entryWise, outcomes_singleton]

/-- What is wrong with an entry of the root is what is wrong with its pieces. -/
theorem error_mem_readSection_iff
    (plain : ∀ (s : Section) es, key = s.name → v = .mapping es → ∀ e ∈ es, isBrokenKey e = false) {d : Detail} :
    .error d ∈ readSection key v ↔ ∃ part ∈ pieces key v, d ∈ details part := by
  rcases bare_or_entries v with bare | ⟨e, rest, rfl⟩
  · simp [pieces_of_bare bare, mem_details_single_iff entryWise]
  · have own : ∀ s : Section, key = s.name → ∀ entry ∈ e :: rest, isBrokenKey entry = false :=
      fun s same => plain s (e :: rest) same rfl
    rw [error_mem_readSection_mapping_iff (List.cons_ne_nil e rest) own]
    simp only [pieces, List.mem_map, exists_exists_and_eq_and, mem_details_single_iff entryWise]

/-- An entry of the root is accepted iff its pieces are. -/
theorem accepted_single_iff_pieces : Accepted (document [(key, v)]) ↔ ∀ part ∈ pieces key v, Accepted part := by
  rcases bare_or_entries v with bare | ⟨e, rest, rfl⟩
  · simp [pieces_of_bare bare]
  · simp only [pieces, List.forall_mem_map, accepted_single_iff entryWise]
    by_cases broken : ∃ entry ∈ e :: rest, isBrokenKey entry = true
    · obtain ⟨entry, mem, half⟩ := broken
      obtain ⟨d, wrong⟩ := exists_error_of_broken mem half
      obtain ⟨own, alone⟩ := exists_error_of_broken (List.mem_singleton_self entry) half
      exact iff_of_false (fun fine => fine d wrong) fun fine => fine entry mem own alone
    · have plain : ∀ s : Section, key = s.name → ∀ entry ∈ e :: rest, isBrokenKey entry = false :=
        fun _ _ => by simpa using broken
      simp only [error_mem_readSection_mapping_iff (List.cons_ne_nil e rest) plain]
      constructor
      · intro fine entry mem d wrong
        exact fine d ⟨entry, mem, wrong⟩
      · rintro fine d ⟨entry, mem, wrong⟩
        exact fine entry mem d wrong

end Entry

section Root

theorem fine_iff : (∀ d, .error d ∉ outcomes root) ↔ ∀ e ∈ root, ∀ d, .error d ∉ readSection e.1 e.2 := by
  by_cases broken : ∃ e ∈ root, isBrokenKey (keyed e) = true
  · obtain ⟨e, given, half⟩ := broken
    have alone : readSection e.1 e.2 = [.error ⟨[], .notUnicode⟩] := by
      rw [← outcomes_singleton, outcomes_of_broken (List.mem_singleton_self e) half]
    refine iff_of_false (fun fine => ?_) fun fine => ?_
    · exact fine _ (outcomes_of_broken given half ▸ List.mem_singleton_self _)
    · exact fine e given _ (alone ▸ List.mem_singleton_self _)
  · rw [outcomes_of_plain (by simpa using broken)]
    simp only [List.mem_flatMap, not_exists, not_and]
    exact ⟨fun fine e given d => fine d e given, fun fine d e given => fine e given d⟩

/-- A document that nothing is wrong with has no key with a half of a pair. -/
theorem plain_of_fine (fine : ∀ d, .error d ∉ outcomes root) : Plain root where
  sections := by
    intro e given
    by_contra half
    rw [outcomes_of_broken given (by simpa using half)] at fine
    exact fine _ (List.mem_singleton_self _)
  entries := by
    intro s es given e mem
    by_contra half
    obtain ⟨d, wrong⟩ := exists_error_of_broken mem (by simpa using half)
    exact fine_iff.1 fine (s.name, .mapping es) given d wrong

/-- The settings that a document gives are those that its parts give. -/
theorem ok_mem_outcomes_iff_parts (plain : Plain root) {x : Setting} :
    .ok x ∈ outcomes root ↔ ∃ w, x.field.alone w ∈ parts root ∧ x.field.read w = .ok x := by
  rw [ok_mem_outcomes_iff]
  simp only [ok_mem_readSection_iff, alone_mem_parts_iff]
  constructor
  · rintro ⟨-, ⟨key, v⟩, mem, f, es, w, rfl, rfl, -, given, read⟩
    obtain rfl : x.field = f := Field.field_of_read read
    exact ⟨w, ⟨es, mem, given⟩, read⟩
  · rintro ⟨w, ⟨es, mem, given⟩, read⟩
    exact ⟨plain.sections, (x.field.inSection.name, .mapping es), mem, x.field, es, w, rfl, rfl,
      plain.entries x.field.inSection es mem, given, read⟩

/-- The readings of a root around one of its entries, of which only the key is looked at first. -/
theorem outcomes_split (before : List (Points × Value)) (key : Points) (v : Value) (after : List (Points × Value)) :
    outcomes (before ++ (key, v) :: after) =
      if before.any (fun e => isBrokenKey (keyed e)) || (key.string?.isNone || after.any fun e => isBrokenKey (keyed e))
      then [.error ⟨[], .notUnicode⟩]
      else before.flatMap (fun e => readSection e.1 e.2) ++
        (readSection key v ++ after.flatMap fun e => readSection e.1 e.2) := by
  unfold outcomes
  rw [List.any_append, List.flatMap_append]
  rfl

theorem readSection_perm (key : Points) {es es' : List (Scalar × Value)} (perm : es.Perm es') :
    (readSection key (.mapping es)).Perm (readSection key (.mapping es')) := by
  rcases section_or_refused key with ⟨s, rfl⟩ | ⟨d, refused⟩
  · by_cases broken : ∃ e ∈ es, isBrokenKey e = true
    · obtain ⟨e, mem, half⟩ := broken
      rw [readSection_of_broken s mem half, readSection_of_broken s (perm.mem_iff.1 mem) half]
    · have plain : ∀ e ∈ es, isBrokenKey e = false := by simpa using broken
      rw [readSection_mapping s plain, readSection_mapping s fun e mem => plain e (perm.mem_iff.2 mem)]
      exact perm.map _
  · rw [refused, refused]

/-- The order of keys is that of the readings. -/
theorem Reordered.outcomes_perm {a b : List (Points × Value)} (same : Reordered a b) :
    (outcomes a).Perm (outcomes b) := by
  induction same with
  | @root a b perm =>
    unfold outcomes
    rw [perm.any_eq]
    split
    · exact .rfl
    · exact perm.flatMap_right _
  | @entries before key es es' perm after =>
    rw [outcomes_split, outcomes_split]
    split
    · exact .rfl
    · exact ((readSection_perm key perm).append_right _).append_left _
  | trans _ _ first second => exact first.trans second

/-- An entry of the root without readings is none. -/
theorem outcomes_of_empty {key : Points} {v : Value} (plain : isBrokenKey (keyed (key, v)) = false)
    (none : readSection key v = []) (before after : List (Points × Value)) :
    outcomes (before ++ (key, v) :: after) = outcomes (before ++ after) := by
  have some : key.string?.isNone = false := plain
  rw [outcomes_split, some, none]
  unfold outcomes
  rw [List.any_append, List.flatMap_append]
  rfl

variable (entryWise : Validator.EntryWise)

include entryWise

theorem accepted_document_iff_parts : Accepted (document root) ↔ ∀ part ∈ parts root, Accepted part := by
  rw [accepted_document_iff entryWise, fine_iff]
  simp only [← accepted_single_iff entryWise, accepted_single_iff_pieces entryWise]
  constructor
  · intro accepted part mem
    obtain ⟨e, given, among⟩ := List.mem_flatMap.1 mem
    exact accepted e given part among
  · intro accepted e given part among
    exact accepted part (List.mem_flatMap.2 ⟨e, given, among⟩)

/-- What is wrong with a root without halves in its keys is what is wrong with its entries, each alone. -/
theorem mem_details_iff_entries (plain : ∀ e ∈ root, isBrokenKey (keyed e) = false) {d : Detail} :
    d ∈ details (document root) ↔ ∃ e ∈ root, d ∈ details (document [e]) := by
  rw [mem_details_document_iff entryWise, outcomes_of_plain plain, List.mem_flatMap]
  simp only [← mem_details_single_iff entryWise]

/-- What is wrong with a document without halves in its keys is what is wrong with its parts. -/
theorem mem_details_iff_parts (plain : Plain root) {d : Detail} :
    d ∈ details (document root) ↔ ∃ part ∈ parts root, d ∈ details part := by
  have pieces_of (e : Points × Value) (given : e ∈ root) :
      d ∈ details (document [e]) ↔ ∃ part ∈ pieces e.1 e.2, d ∈ details part := by
    rw [mem_details_single_iff entryWise]
    refine error_mem_readSection_iff entryWise fun s es same body => plain.entries s es ?_
    rwa [← same, ← body]
  rw [mem_details_iff_entries entryWise plain.sections]
  unfold parts
  simp only [List.mem_flatMap]
  constructor
  · rintro ⟨e, given, wrong⟩
    obtain ⟨part, among, own⟩ := (pieces_of e given).1 wrong
    exact ⟨part, ⟨e, given, among⟩, own⟩
  · rintro ⟨part, ⟨e, given, among⟩, own⟩
    exact ⟨e, given, (pieces_of e given).2 ⟨part, among, own⟩⟩

/-- A key of the root that holds a half of a pair is all that is found. -/
theorem mem_details_of_brokenRoot {e : Points × Value} (given : e ∈ root) (half : isBrokenKey (keyed e) = true)
    {d : Detail} : d ∈ details (document root) ↔ d = ⟨[], .notUnicode⟩ := by
  rw [mem_details_document_iff entryWise, outcomes_of_broken given half]
  simp

/-- A key of a section that holds a half of a pair is all that is found in the section. -/
theorem mem_details_of_brokenSection (s : Section) {es : List (Scalar × Value)} {e : Scalar × Value} (mem : e ∈ es)
    (half : isBrokenKey e = true) {d : Detail} :
    d ∈ details (document [((s.name : Points), .mapping es)]) ↔ d = ⟨[s.name], .notUnicode⟩ := by
  rw [mem_details_single_iff entryWise, readSection_of_broken s mem half]
  simp

/-- A value that cannot be read for its field is reported. -/
theorem mem_details_alone {f : Field} {v : Value} {p : Problem} (failed : f.read v = .error p) :
    ⟨[f.inSection.name, f.name], p⟩ ∈ details (f.alone v) := by
  unfold Field.alone
  rw [mem_details_single_iff entryWise, readSection_mapping f.inSection (by simp)]
  simp [readEntry, Field.ofName?_name, failed, Except.mapError, Detail.within]

/-- What is given for a field is read for it, and the configuration has it. -/
theorem get_of_alone_mem_parts (distinct : Distinct root) {c : Config} (read : ofValue (document root) = .ok c)
    {f : Field} {v : Value} (given : f.alone v ∈ parts root) : f.read v = .ok (c.get f) := by
  obtain ⟨fine, rfl⟩ := (ofValue_document_eq_ok_iff entryWise).1 read
  have plain : Plain root := plain_of_fine fine
  cases value : f.read v with
  | error p =>
    have wrong := (mem_details_iff_parts entryWise plain).2 ⟨_, given, mem_details_alone entryWise value⟩
    exact absurd ((mem_details_document_iff entryWise).1 wrong) (fine _)
  | ok x =>
    obtain rfl : x.field = f := Field.field_of_read value
    have mem : x ∈ (outcomes root).filterMap Except.toOption :=
      mem_toOption_iff.2 ((ok_mem_outcomes_iff_parts plain).2 ⟨v, given, value⟩)
    -- Another setting of the field would come from another value of its key, of which there is but one.
    have agree : ∀ y ∈ (outcomes root).filterMap Except.toOption, y.field = x.field → y = x := by
      intro y among same
      obtain ⟨w, alsoGiven, alsoRead⟩ := (ok_mem_outcomes_iff_parts plain).1 (mem_toOption_iff.1 among)
      rw [same] at alsoGiven alsoRead
      obtain ⟨es, inRoot, entry⟩ := alone_mem_parts_iff.1 given
      obtain ⟨es', inRoot', entry'⟩ := alone_mem_parts_iff.1 alsoGiven
      obtain ⟨-, sections⟩ := Prod.mk.inj (List.inj_on_of_nodup_map distinct.sections inRoot inRoot' rfl)
      obtain rfl : es = es' := Value.mapping.inj sections
      obtain rfl : v = w := distinct.entries _ es inRoot _ _ _ entry entry'
      exact Except.ok.inj (alsoRead.symm.trans value)
    rw [ofSettings, get_foldl_set_of_forall {} mem agree]

/-- A field that nothing is given for has its default. -/
theorem get_of_alone_not_mem_parts {c : Config} (read : ofValue (document root) = .ok c) {f : Field}
    (missing : ∀ v, f.alone v ∉ parts root) : c.get f = ({} : Config).get f := by
  obtain ⟨fine, rfl⟩ := (ofValue_document_eq_ok_iff entryWise).1 read
  have plain : Plain root := plain_of_fine fine
  apply get_foldl_set_of_ne
  rintro y among rfl
  obtain ⟨w, given, -⟩ := (ok_mem_outcomes_iff_parts plain).1 (mem_toOption_iff.1 among)
  exact missing w given

/-- Every setting is read as it is alone. -/
theorem exists_own_of_alone_mem_parts (distinct : Distinct root) {c : Config}
    (read : ofValue (document root) = .ok c) {f : Field} {v : Value} (given : f.alone v ∈ parts root) :
    ∃ own, ofValue (f.alone v) = .ok own ∧ c.get f = own.get f := by
  obtain ⟨own, alone⟩ := (accepted_document_iff_parts entryWise).1 ⟨c, read⟩ _ given
  refine ⟨own, alone, ?_⟩
  have here := get_of_alone_mem_parts entryWise distinct read given
  have there := get_of_alone_mem_parts entryWise (distinct_alone f v) alone
    (alone_mem_parts_iff.2 ⟨_, List.mem_singleton_self _, List.mem_singleton_self _⟩)
  exact Except.ok.inj (here.symm.trans there)

/-- Documents whose readings are the same are read alike. -/
theorem readAlike_of_outcomes_eq {other : List (Points × Value)} (same : outcomes root = outcomes other) :
    ReadAlike (document root) (document other) where
  read c := by rw [ofValue_document_eq_ok_iff entryWise, ofValue_document_eq_ok_iff entryWise, same]
  wrong d := by rw [mem_details_document_iff entryWise, mem_details_document_iff entryWise, same]

/-- A section without a body is an empty one, and none at all. -/
theorem readAlike_bodiless (s : Section) (before after : List (Points × Value)) :
    ReadAlike (document (before ++ ((s.name : Points), .scalar .null) :: after)) (document (before ++ after)) ∧
      ReadAlike (document (before ++ ((s.name : Points), .scalar .null) :: after))
        (document (before ++ ((s.name : Points), .mapping []) :: after)) := by
  have plain (v : Value) : isBrokenKey (keyed ((s.name : Points), v)) = false := isBrokenKey_name s.name v
  have bodiless := outcomes_of_empty (plain (.scalar .null)) (by simp [readSection, Section.ofName?_name]) before after
  have empty := outcomes_of_empty (plain (.mapping [])) (by simp [readSection, Section.ofName?_name]) before after
  exact ⟨readAlike_of_outcomes_eq entryWise bodiless, readAlike_of_outcomes_eq entryWise (bodiless.trans empty.symm)⟩

/-- Documents with the same parts are read alike. -/
theorem ofValue_eq_ok_of_parts {other : List (Points × Value)} (distinct : Distinct root) (also : Distinct other)
    (same : ∀ part, part ∈ parts other ↔ part ∈ parts root) {c : Config} (read : ofValue (document root) = .ok c) :
    ofValue (document other) = .ok c := by
  have accepted : Accepted (document other) := by
    rw [accepted_document_iff_parts entryWise]
    intro part mem
    exact (accepted_document_iff_parts entryWise).1 ⟨c, read⟩ part ((same part).1 mem)
  obtain ⟨d, alsoRead⟩ := accepted
  have equal : d = c := by
    apply eq_of_get
    intro f
    by_cases given : ∃ v, f.alone v ∈ parts root
    · obtain ⟨v, mem⟩ := given
      have here := get_of_alone_mem_parts entryWise distinct read mem
      have there := get_of_alone_mem_parts entryWise also alsoRead ((same _).2 mem)
      exact Except.ok.inj (there.symm.trans here)
    · have missing : ∀ v, f.alone v ∉ parts root := fun v mem => given ⟨v, mem⟩
      have alsoMissing : ∀ v, f.alone v ∉ parts other := fun v mem => missing v ((same _).1 mem)
      rw [get_of_alone_not_mem_parts entryWise read missing, get_of_alone_not_mem_parts entryWise alsoRead alsoMissing]
  rw [alsoRead, equal]

/-- Documents that differ in the order of their keys are read alike. -/
theorem Reordered.readAlike {other : List (Points × Value)} (distinct : Distinct root) (same : Reordered root other) :
    ReadAlike (document other) (document root) where
  read c := by
    have also : Distinct other := same.distinct distinct
    have equal : ∀ part, part ∈ parts other ↔ part ∈ parts root := fun part =>
      ⟨same.symm.mem_parts, same.mem_parts⟩
    exact ⟨ofValue_eq_ok_of_parts entryWise also distinct fun part => (equal part).symm,
      ofValue_eq_ok_of_parts entryWise distinct also equal⟩
  wrong d := by
    rw [mem_details_document_iff entryWise, mem_details_document_iff entryWise, same.outcomes_perm.mem_iff]

/-- A document is read as its parts are, each alone. -/
theorem document_read_by_parts (distinct : Distinct root) : ReadByParts root where
  accepted := accepted_document_iff_parts entryWise
  given read _ _ given := exists_own_of_alone_mem_parts entryWise distinct read given
  missing read _ missing := get_of_alone_not_mem_parts entryWise read missing
  bodiless := by
    rintro s before after rfl
    exact readAlike_bodiless entryWise s before after
  rejected failed := by
    obtain ⟨reason, some, -⟩ := exists_details_of_error entryWise failed
    exact ⟨reason, some⟩
  union plain _ := mem_details_iff_parts entryWise plain
  unionOfEntries plain _ := mem_details_iff_entries entryWise plain
  brokenRoot given half _ := mem_details_of_brokenRoot entryWise given half
  brokenSection s _ _ _ mem half _ := mem_details_of_brokenSection entryWise s mem half
  order same := same.readAlike entryWise distinct

end Root

end Checked

/-- A root with an unknown key, a section without a body, a good setting and two bad entries. -/
def mixedRoot : List (Points × Value) :=
  [
    ("history", .mapping [(.text "capacity", .scalar (.text "0"))]),
    ("logging", .scalar .null),
    ("poller", .mapping [(.int 1, .scalar .null), (.text "interval_seconds", .scalar (.bool true))]),
    ("extra", .mapping [])
  ]

theorem distinct_mixedRoot : Distinct mixedRoot where
  sections := by decide +kernel
  entries := by
    intro key es mem name v w left right
    simp only [mixedRoot, List.mem_cons, Prod.mk.injEq, Value.mapping.injEq, List.not_mem_nil, or_false] at mem
    rcases mem with ⟨-, rfl⟩ | ⟨-, bodiless⟩ | ⟨-, rfl⟩ | ⟨-, rfl⟩
    · simp_all
    · contradiction
    · simp_all
    · simp at left

theorem plain_mixedRoot : Plain mixedRoot where
  sections := by decide +kernel
  entries := by
    intro s es mem
    simp only [mixedRoot, List.mem_cons, Prod.mk.injEq, Value.mapping.injEq, List.not_mem_nil, or_false] at mem
    rcases mem with ⟨-, rfl⟩ | ⟨-, bodiless⟩ | ⟨-, rfl⟩ | ⟨-, rfl⟩
    · decide +kernel
    · contradiction
    · decide +kernel
    · simp

/-- Each of the three faults is reported, whatever stands beside it. -/
theorem document_read_by_parts_mixedRoot :
    Validator.EntryWise ∧ Distinct mixedRoot ∧ Plain mixedRoot ∧
      ∀ d,
        (d ∈ details (document mixedRoot) ↔ d = ⟨["history", "capacity"], .below 1⟩ ∨
          d = ⟨["poller", "1"], .keyNotText⟩ ∨ d = ⟨["extra"], .unknownKey⟩) ∧
        (d ∈ details (document mixedRoot) ↔ ∃ part ∈ parts mixedRoot, d ∈ details part) := by
  have results : outcomes mixedRoot =
      [.error ⟨["history", "capacity"], .below 1⟩, .error ⟨["poller", "1"], .keyNotText⟩, .ok (.interval 1.0),
        .error ⟨["extra"], .unknownKey⟩] := by rfl
  refine ⟨entryWise_lenient, distinct_mixedRoot, plain_mixedRoot, fun d => ⟨?_, ?_⟩⟩
  · rw [mem_details_document_iff entryWise_lenient, results]
    simp
  · exact (document_read_by_parts entryWise_lenient distinct_mixedRoot).union plain_mixedRoot d

/-- A section whose key with a half of a pair stands beside a number out of bounds. -/
def halfKeyRoot : List (Points × Value) :=
  [("history", .mapping [(.text [.half 0], .scalar (.int 1)), (.text "capacity", .scalar (.int 0))])]

/-- The key hides the number, which alone is reported. -/
theorem hidden_halfKey :
    details (document halfKeyRoot) = [⟨["history"], .notUnicode⟩] ∧
      ¬ ∀ d, d ∈ details (document halfKeyRoot) ↔ ∃ part ∈ parts halfKeyRoot, d ∈ details part := by
  have reported : details (document halfKeyRoot) = [⟨["history"], .notUnicode⟩] := by decide +kernel
  refine ⟨reported, fun union => ?_⟩
  have alone : ⟨["history", "capacity"], .below 1⟩ ∈ details (Field.capacity.alone (.scalar (.int 0))) := by
    decide +kernel
  have part : Field.capacity.alone (.scalar (.int 0)) ∈ parts halfKeyRoot :=
    List.mem_cons_of_mem _ (List.mem_singleton_self _)
  have wrong := (union _).2 ⟨_, part, alone⟩
  rw [reported] at wrong
  simp at wrong

end ResolverWatch.Config
