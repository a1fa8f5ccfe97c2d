import Mathlib.Tactic.SplitIfs
import ResolverWatch.Config.File
import ResolverWatch.Config.Lenient
import ResolverWatch.Proofs.Storage.Reading
import ResolverWatch.Proofs.Text.Utf8
import ResolverWatch.Yaml.Document

/-!
# When loading a configuration is settled

Loading ends in a configuration or in a rejection of the file, or a fault passes. A fault passes when the
path is none, when the bytes of the file are no text, when its text holds a scalar that no value can be
made of, or when a key of the root is no text; in all other cases loading is settled (`settled_load`).
-/

namespace ResolverWatch.Config

open Text

/-- There is a configuration, or the file is rejected for a reason. -/
def Settled (r : Except Fault Config) : Prop :=
  (∃ c, r = .ok c) ∨ ∃ reason, r = .error (.rejected reason)

theorem settled_ok (c : Config) : Settled (.ok c) :=
  .inl ⟨c, rfl⟩

theorem settled_of_isSome {r : Except Fault Config} (loaded : r.toOption.isSome) : Settled r := by
  cases r with
  | ok c => exact settled_ok c
  | error f => nomatch loaded

theorem settled_error_iff {f : Fault} : Settled (.error f) ↔ ∃ reason, f = .rejected reason := by
  simp [Settled]

section Checked

variable [Yaml.Reader] [Validator]

/-! ## Documents -/

/-- The keys of the root, if it is a mapping, are texts. -/
def HasTextKeys (v : Yaml.Value) : Prop :=
  ∀ entries, v = .mapping entries → ∀ e ∈ entries, ∃ name, e.1 = .text name

omit [Yaml.Reader] [Validator] in
theorem hasTextKeys_mapping_iff {entries : List (Yaml.Scalar × Yaml.Value)} :
    HasTextKeys (.mapping entries) ↔ entries.all isTextKey = true := by
  have text (e : Yaml.Scalar × Yaml.Value) : isTextKey e = true ↔ ∃ name, e.1 = .text name := by
    obtain ⟨key, v⟩ := e
    cases key <;> simp [isTextKey]
  simp only [HasTextKeys, Yaml.Value.mapping.injEq, forall_eq', List.all_eq_true, text]

omit [Yaml.Reader] in
theorem settled_ofDocument_iff (v : Yaml.Value) : Settled (ofDocument v) ↔ HasTextKeys v := by
  cases v with
  | scalar s =>
    have settled : Settled (ofDocument (.scalar s)) := by
      cases s with
      | null => exact settled_ok {}
      | bool | int | real | text | bytes | moment => exact .inr ⟨.notMapping, rfl⟩
    exact iff_of_true settled (by simp [HasTextKeys])
  | sequence => exact iff_of_true (.inr ⟨.notMapping, rfl⟩) (by simp [HasTextKeys])
  | mapping entries =>
    rw [hasTextKeys_mapping_iff]
    show Settled ((ofEntries entries).mapError Refusal.fault) ↔ _
    unfold ofEntries ofNamed
    split_ifs with named
    · refine iff_of_true ?_ named
      cases readSections entries with
      | ok settings => exact settled_ok _
      | error details => exact .inr ⟨.invalid (Detail.sort details), rfl⟩
    · exact iff_of_false (by simp [Settled, Except.mapError, Refusal.fault]) named

/-! ## Bytes -/

/-- A text is no YAML at all, or a document that values can be made of and whose root has texts for keys. -/
def IsReadable (cs : List Char) : Prop :=
  (∀ f, Yaml.Reader.read (unifyNewlines cs) = .error f → f = .invalid) ∧
  ∀ v, Yaml.Reader.read (unifyNewlines cs) = .ok v → HasTextKeys v

omit [Yaml.Reader] [Validator] in
theorem settled_faultOfYaml_iff {f : Yaml.Fault} : Settled (.error (faultOfYaml f)) ↔ f = .invalid := by
  rw [settled_error_iff]
  cases f <;> simp [faultOfYaml]

theorem settled_ofBytes_iff (bytes : List UInt8) :
    Settled (ofBytes bytes) ↔ ∃ cs, bytes = Utf8.encode cs ∧ IsReadable cs := by
  have accepted (cs : List Char) : Utf8.decodeBlocks blockSize bytes = .ok cs ↔ bytes = Utf8.encode cs :=
    Utf8.decodeBlocks_eq_ok_iff (by decide)
  simp only [← accepted]
  unfold ofBytes
  cases Utf8.decodeBlocks blockSize bytes with
  | error e => simp [Except.mapError, settled_error_iff, bind, Except.bind]
  | ok cs =>
    simp only [Except.ok.injEq, exists_eq_left']
    show Settled ((Yaml.Reader.read (unifyNewlines cs)).mapError faultOfYaml >>= ofDocument) ↔ IsReadable cs
    unfold IsReadable
    cases Yaml.Reader.read (unifyNewlines cs) with
    | error f =>
      simp only [Except.error.injEq, forall_eq', reduceCtorEq, false_implies, implies_true, and_true]
      exact settled_faultOfYaml_iff
    | ok v =>
      simp only [Except.ok.injEq, forall_eq', reduceCtorEq, false_implies, implies_true, true_and]
      exact settled_ofDocument_iff v

/-! ## Files -/

/-- A path is one, and the bytes that it leads to, if any, are a text that is a document or none. -/
structure Legible (s : Storage) (path : String) : Prop where
  plain : '\x00' ∉ path.toList
  text : ∀ bytes, s.read path = .ok bytes → ∃ cs, bytes = Utf8.encode cs ∧ IsReadable cs

theorem settled_ofFile_iff (s : Storage) (path : String) : Settled (ofFile s path) ↔ Legible s path := by
  have nul : s.read path = .error .nulInPath ↔ '\x00' ∈ path.toList := Storage.read_eq_nulInPath_iff
  unfold ofFile
  cases read : s.read path with
  | error f =>
    -- Every fault of a read is turned into a rejection, but for that of a path that is none.
    show Settled (.error (faultOfStorage f)) ↔ _
    rw [settled_error_iff]
    constructor
    · rintro ⟨reason, rejected⟩
      refine ⟨fun mem => ?_, fun bytes found => ?_⟩
      · obtain rfl : f = .nulInPath := Except.error.inj (read.symm.trans (nul.2 mem))
        contradiction
      · rw [read] at found
        contradiction
    · rintro ⟨plain, -⟩
      have other : f ≠ .nulInPath := fun same => plain (nul.1 (by rw [read, same]))
      cases f with
      | nulInPath => exact absurd rfl other
      | _ => exact ⟨_, rfl⟩
  | ok bytes =>
    show Settled (ofBytes bytes) ↔ _
    rw [settled_ofBytes_iff]
    constructor
    · intro text
      refine ⟨fun mem => ?_, fun found same => ?_⟩
      · rw [nul.2 mem] at read
        contradiction
      · obtain rfl : bytes = found := Except.ok.inj (read.symm.trans same)
        exact text
    · rintro ⟨-, text⟩
      exact text bytes read

/-- A file of at most this many bytes is decoded as a whole before any of its text is looked at. -/
def decodedAtOnce : Nat :=
  4096

/-- Loading is settled for every file that is legible or not there, and for no other, as far as a file is decoded
at once: of a longer file a part may be rejected before the rest is found to be no text. -/
theorem settled_load (s : Storage) (path : Option String) :
    ((∀ p ∈ path, Legible s p) → Settled (load s path)) ∧
    ((∀ p ∈ path, ∀ bytes, s.read p = .ok bytes → bytes.length ≤ decodedAtOnce) → Settled (load s path) →
      ∀ p ∈ path, Legible s p) := by
  cases path with
  | none => exact ⟨fun _ => settled_ok {}, fun _ _ => by simp⟩
  | some p =>
    have file : Settled (load s (some p)) ↔ Legible s p := settled_ofFile_iff s p
    refine ⟨fun legible => file.2 (legible p rfl), fun _ settled q given => ?_⟩
    obtain rfl : p = q := Option.some.inj given
    exact file.1 settled

end Checked

/-- Loading a file with a byte that starts no character is not settled: a fault passes. -/
theorem not_settled_of_strayByte :
    let s : Storage := ⟨[(["bw.yaml"], .file [0xff])], [], [], []⟩
    load s (some "bw.yaml") = .error (.undecodable ⟨.invalidStart, [0xff], 0⟩) ∧
      ¬ Settled (load s (some "bw.yaml")) := by
  intro s
  have fault : load s (some "bw.yaml") = .error (.undecodable ⟨.invalidStart, [0xff], 0⟩) := rfl
  refine ⟨fault, ?_⟩
  rw [fault, settled_error_iff]
  simp

end ResolverWatch.Config
