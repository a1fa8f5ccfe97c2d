import ResolverWatch.Proofs.Log.Files

/-!
# What a journal leaves as it was

Once a journal is set up, it only makes its log file longer: the same places are files and directories after
everything that is noted (`Attached.note`), so a path that can be read still can, and one that cannot fails for
the same reason (`SameKinds.read_eq_error_iff`).
-/

namespace ResolverWatch

open Log

namespace Storage

/-- The entry is a file. -/
def Entry.isFile : Entry → Bool
  | .file _ => true
  | .directory => false

/-- The same places are files and directories. -/
structure SameKinds (s t : Storage) : Prop where
  work : t.work = s.work
  kind : ∀ p, (t.get? p).map Entry.isFile = (s.get? p).map Entry.isFile

namespace SameKinds

variable {s t u : Storage}

theorem refl (s : Storage) : SameKinds s s where
  work := rfl
  kind := fun _ => rfl

theorem trans (first : SameKinds s t) (second : SameKinds t u) : SameKinds s u where
  work := second.work.trans first.work
  kind := fun p => (second.kind p).trans (first.kind p)

/-- The bytes of a file can be replaced. -/
theorem put {p : Place} {old : List UInt8} (found : s.get? p = some (.file old)) (bytes : List UInt8) :
    SameKinds s (s.put p (.file bytes)) where
  work := rfl
  kind := by
    have named : p ≠ [] := ne_nil_of_get? found (by simp)
    intro q
    by_cases same : q = p
    · rw [same, get?_put_self named, found]
      rfl
    · rw [get?_put_of_ne same]

theorem get?_cases (kinds : SameKinds s t) (p : Place) :
    (s.get? p = none ∧ t.get? p = none) ∨ (s.get? p = some .directory ∧ t.get? p = some .directory) ∨
      ∃ old new, s.get? p = some (.file old) ∧ t.get? p = some (.file new) := by
  have kind := kinds.kind p
  match before : s.get? p, after : t.get? p with
  | none, none => exact .inl ⟨rfl, rfl⟩
  | some .directory, some .directory => exact .inr (.inl ⟨rfl, rfl⟩)
  | some (.file old), some (.file new) => exact .inr (.inr ⟨old, new, rfl, rfl⟩)
  | none, some e | some e, none => simp [before, after] at kind
  | some .directory, some (.file new) | some (.file old), some .directory => simp [before, after, Entry.isFile] at kind

theorem exists_file (kinds : SameKinds s t) {p : Place} {old : List UInt8} (found : s.get? p = some (.file old)) :
    ∃ new, t.get? p = some (.file new) := by
  rcases kinds.get?_cases p with ⟨before, -⟩ | ⟨before, -⟩ | ⟨-, new, -, after⟩
  · simp [found] at before
  · simp [found] at before
  · exact ⟨new, after⟩

/-- Names are followed to the same place, or fail for the same reason. -/
theorem follow (kinds : SameKinds s t) (here : Place) (names : List String) :
    t.follow here names = s.follow here names := by
  induction names generalizing here with
  | nil => rfl
  | cons name rest ih =>
    unfold Storage.follow
    rcases kinds.get?_cases here with ⟨before, after⟩ | ⟨before, after⟩ | ⟨old, new, before, after⟩
    · rw [before, after]
    · rw [before, after]
      simp only [ih]
    · rw [before, after]

theorem fileAt_eq_error_iff (kinds : SameKinds s t) {p : Place} {f : Fault} :
    t.fileAt p = .error f ↔ s.fileAt p = .error f := by
  unfold fileAt
  rcases kinds.get?_cases p with ⟨before, after⟩ | ⟨before, after⟩ | ⟨old, new, before, after⟩
  · rw [before, after]
  · rw [before, after]
  · rw [before, after]
    simp

/-- A path cannot be read for the same reason. -/
theorem read_eq_error_iff (kinds : SameKinds s t) {path : String} {f : Fault} :
    t.read path = .error f ↔ s.read path = .error f := by
  have origin : t.origin path = s.origin path := by rw [Storage.origin, Storage.origin, kinds.work]
  rw [read_eq, read_eq, origin, kinds.follow]
  split_ifs
  · exact Iff.rfl
  · exact Iff.rfl
  · cases s.follow (s.origin path) (names path) with
    | error => exact Iff.rfl
    | ok p => exact kinds.fileAt_eq_error_iff

end SameKinds

end Storage

namespace Log.Journal

/-- The files of the journal are those of a storage, except that log files which are there may have got longer. -/
structure Attached (s : Storage) (j : Journal) : Prop where
  kinds : Storage.SameKinds s j.storage
  sinks : ∀ p, .file p ∈ j.sinks → ∃ bytes, s.get? p = some (.file bytes)

namespace Attached

variable {s : Storage} {j : Journal}

theorem write (attached : Attached s j) (text : List Char) {sink : Sink}
    (there : ∀ p, sink = .file p → ∃ bytes, s.get? p = some (.file bytes)) :
    Attached s (Journal.write text j sink) := by
  cases sink with
  | console => exact ⟨attached.kinds, attached.sinks⟩
  | file p =>
    obtain ⟨old, found⟩ := there p rfl
    obtain ⟨new, after⟩ := attached.kinds.exists_file found
    exact ⟨attached.kinds.trans (.put after _), attached.sinks⟩

theorem take (attached : Attached s j) (r : Record) : Attached s (j.take r) := by
  refine take_induction attached (fun k _ kept => ⟨kept.kinds, kept.sinks⟩) ?written
    (fun k _ _ kept => ⟨kept.kinds, kept.sinks⟩) r
  case written =>
    intro k text sink among kept
    apply kept.write text
    intro p same
    rw [same] at among
    exact attached.sinks p among

/-- What is noted makes log files longer and nothing else. -/
theorem note (attached : Attached s j) (time : Float) (n : Notice) : Attached s (j.note time n) :=
  attached.take (n.record time [])

end Attached

/-- After it was set up, a journal has the files that it writes to. -/
theorem attached_setUp {j : Journal} {c : Config.Logging} (fine : (j.setUp c).2 = none) :
    Attached (j.setUp c).1.storage (j.setUp c).1 where
  kinds := .refl _
  sinks := by
    intro p mem
    rcases setUp_of_fine fine with ⟨-, after⟩ | ⟨path, -, added, after⟩
    · rw [after] at mem
      exact absurd mem (file_not_mem_sinks_reset j c p)
    · obtain ⟨storage, touched, added⟩ := addFile_of_fine added
      rw [after, added] at mem ⊢
      rcases List.mem_append.1 mem with earlier | own
      · exact absurd earlier (file_not_mem_sinks_reset j c p)
      · obtain rfl : p = (j.reset c).storage.expanded path := by simpa using own
        exact Storage.exists_file_of_touch touched

end Log.Journal

end ResolverWatch
