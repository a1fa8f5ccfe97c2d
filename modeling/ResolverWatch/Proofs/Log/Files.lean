import ResolverWatch.Log.Journal
import ResolverWatch.Proofs.Storage.Reading

/-!
# A journal and the files beside it

A journal writes to no file but its log file. Setting it up may make the log file and directories on
the way to it; from then on all other files stay as they were, whatever is noted (`Guards.note`).
-/

namespace ResolverWatch

open Log

theorem Storage.exists_file_of_touch {s t : Storage} {p : Place} (touched : s.touch p = .ok t) :
    ∃ bytes, t.get? p = some (.file bytes) := by
  unfold touch at touched
  split at touched
  · next bytes found =>
    cases touched
    exact ⟨bytes, found⟩
  · contradiction
  · next missing =>
    have named : p ≠ [] := ne_nil_of_get? missing (by simp)
    split at touched
    · contradiction
    · cases touched
      exact ⟨[], get?_put_self named _⟩

namespace Log.Journal

/-- What showing a text, writing to the sinks of a journal and failing to do so keep is kept when it takes a record. -/
theorem take_induction {Kept : Journal → Prop} {j : Journal} (kept : Kept j)
    (display : ∀ k text, Kept k → Kept (k.display text))
    (write : ∀ k text, ∀ sink ∈ j.sinks, Kept k → Kept (Journal.write text k sink))
    (fail : ∀ k r sink, Kept k → Kept (k.fail r sink)) (r : Record) : Kept (j.take r) := by
  have all : ∀ (sinks : List Sink) (k : Journal), (∀ sink ∈ sinks, sink ∈ j.sinks) → Kept k →
      Kept (sinks.foldl (emit r) k) := by
    intro sinks
    induction sinks with
    | nil => exact fun _ _ kept => kept
    | cons sink rest ih =>
      intro k own kept
      obtain ⟨first, later⟩ := List.forall_mem_cons.1 own
      refine ih (emit r k sink) later ?_
      unfold emit
      split
      · exact write k _ sink first kept
      · exact fail k r sink kept
  unfold Journal.take
  split_ifs
  · exact kept
  · unfold takeBare
    split_ifs
    · exact kept
    · split
      · exact display j _ kept
      · exact fail j r .console kept
  · exact all j.sinks j (fun _ mem => mem) kept

/-- The place of the log file that a configuration asks for. -/
def logPlace? (s : Storage) (c : Config.Logging) : Option Place :=
  (filePath? c).map s.expanded

/-- The journal keeps all files but its log file, which it can write to. -/
structure Guards (s : Storage) (log : Option Place) (j : Journal) : Prop where
  keeps : Storage.Keeps log s j.storage
  sinks : ∀ p, .file p ∈ j.sinks → log = some p
  writable : ∀ p, log = some p → j.storage.get? p ≠ some .directory

namespace Guards

variable {s : Storage} {log : Option Place} {j : Journal}

theorem write (guards : Guards s log j) (text : List Char) {sink : Sink} (own : ∀ p, sink = .file p → log = some p) :
    Guards s log (Journal.write text j sink) := by
  cases sink with
  | console => exact ⟨guards.keeps, guards.sinks, guards.writable⟩
  | file p =>
    have isLog : log = some p := own p rfl
    have file : j.storage.get? p ≠ some .directory := guards.writable p isLog
    refine ⟨guards.keeps.trans (.append isLog file _), guards.sinks, ?_⟩
    intro q isLog'
    obtain rfl : p = q := Option.some.inj (isLog.symm.trans isLog')
    have named : p ≠ [] := Storage.ne_nil_of_get? rfl file
    show (j.storage.append p _).get? p ≠ some .directory
    rw [Storage.append, Storage.get?_put_self named]
    simp

/-- Taking a record writes to no other file. -/
theorem take (guards : Guards s log j) (r : Record) : Guards s log (j.take r) := by
  refine take_induction guards (fun k _ kept => ⟨kept.keeps, kept.sinks, kept.writable⟩) ?written
    (fun k _ _ kept => ⟨kept.keeps, kept.sinks, kept.writable⟩) r
  case written =>
    intro k text sink among kept
    apply kept.write text
    intro p same
    rw [same] at among
    exact guards.sinks p among

theorem note (guards : Guards s log j) (time : Float) (n : Notice) : Guards s log (j.note time n) :=
  guards.take (n.record time [])

end Guards

/-- A journal without sinks writes to no file at all. -/
theorem storage_note_of_sinks {j : Journal} (fileless : j.sinks = []) (time : Float) (n : Notice) :
    (j.note time n).storage = j.storage := by
  have empty : j.sinks.isEmpty = true := by rw [fileless]; rfl
  unfold Journal.note Journal.take takeBare
  rw [if_pos empty]
  split_ifs
  · rfl
  · rfl
  · split <;> rfl

/-- What adding a log file leaves when nothing goes wrong. -/
theorem addFile_of_fine {j : Journal} {path : String} (fine : (j.addFile path).2 = none) :
    ∃ storage,
      (j.storage.makeFrom [] (j.storage.expanded path).dropLast).1.touch (j.storage.expanded path) = .ok storage ∧
        (j.addFile path).1 = { j with storage := storage, sinks := j.sinks ++ [.file (j.storage.expanded path)] } := by
  unfold addFile at fine ⊢
  unfold Storage.makeDirectories at fine ⊢
  dsimp only at fine ⊢
  cases fault : (j.storage.makeFrom [] (j.storage.expanded path).dropLast).2 with
  | some f => simp [fault] at fine
  | none =>
    simp only [fault] at fine ⊢
    cases touched : (j.storage.makeFrom [] (j.storage.expanded path).dropLast).1.touch (j.storage.expanded path) with
    | error f => simp [touched] at fine
    | ok storage => exact ⟨storage, rfl, rfl⟩

/-- What setting up leaves when nothing goes wrong. -/
theorem setUp_of_fine {j : Journal} {c : Config.Logging} (fine : (j.setUp c).2 = none) :
    (filePath? c = none ∧ (j.setUp c).1 = { j.reset c with capturing := true }) ∨
      ∃ path, filePath? c = some path ∧ ((j.reset c).addFile path).2 = none ∧
        (j.setUp c).1 = { ((j.reset c).addFile path).1 with capturing := true } := by
  unfold setUp at fine ⊢
  cases asked : filePath? c with
  | none => exact .inl ⟨rfl, rfl⟩
  | some path =>
    simp only [asked] at fine
    refine .inr ⟨path, rfl, ?_⟩
    cases added : (j.reset c).addFile path with
    | mk k fault =>
      cases fault with
      | some f => simp [added] at fine
      | none =>
        refine ⟨rfl, ?_⟩
        simp only [added]

/-- When adding a log file goes wrong, only files and directories may have been made. -/
theorem addFile_of_fault {j : Journal} {path : String} (fault : (j.addFile path).2 ≠ none) :
    ∃ storage, (j.addFile path).1 = { j with storage := storage } := by
  unfold addFile at fault ⊢
  dsimp only at fault ⊢
  split
  · exact ⟨_, rfl⟩
  · next none =>
    rw [none] at fault
    dsimp only at fault
    split
    · next touched => exact absurd (by rw [touched]) fault
    · exact ⟨_, rfl⟩

/-- What setting up leaves when something goes wrong. -/
theorem setUp_of_fault {j : Journal} {c : Config.Logging} (fault : (j.setUp c).2 ≠ none) :
    ∃ storage, (j.setUp c).1 = { j.reset c with storage := storage } := by
  unfold setUp at fault ⊢
  cases asked : filePath? c with
  | none =>
    rw [asked] at fault
    exact absurd rfl fault
  | some path =>
    rw [asked] at fault
    dsimp only at fault ⊢
    split at fault
    · exact absurd rfl fault
    · next failed =>
      have added : ((j.reset c).addFile path).2 ≠ none := by
        rw [failed]
        exact Option.some_ne_none _
      obtain ⟨storage, same⟩ := addFile_of_fault added
      rw [failed] at same
      exact ⟨storage, same⟩

/-- Resetting drops all log files. -/
theorem file_not_mem_sinks_reset (j : Journal) (c : Config.Logging) (p : Place) : .file p ∉ (j.reset c).sinks := by
  unfold reset
  dsimp only
  split_ifs <;> simp

/-- Adding the log file makes it writable and leaves all other files as they are. -/
theorem guards_addFile {j : Journal} {path : String} (fileless : ∀ p, .file p ∉ j.sinks)
    (fine : (j.addFile path).2 = none) :
    Guards j.storage (some (j.storage.expanded path)) (j.addFile path).1 := by
  obtain ⟨storage, touched, added⟩ := addFile_of_fine fine
  rw [added]
  refine ⟨(Storage.Keeps.makeFrom _ j.storage [] _).trans (.touch touched), ?_, ?_⟩
  · intro p mem
    rcases List.mem_append.1 mem with earlier | added
    · exact absurd earlier (fileless p)
    · simpa [eq_comm] using added
  · intro p isLog
    obtain rfl : j.storage.expanded path = p := Option.some.inj isLog
    obtain ⟨bytes, found⟩ := Storage.exists_file_of_touch touched
    show storage.get? (j.storage.expanded path) ≠ some .directory
    simp [found]

/-- A journal that was set up keeps all files but its log file. -/
theorem guards_setUp {j : Journal} {c : Config.Logging} (fine : (j.setUp c).2 = none) :
    Guards j.storage (logPlace? j.storage c) (j.setUp c).1 := by
  unfold logPlace?
  rcases setUp_of_fine fine with ⟨none, after⟩ | ⟨path, asked, added, after⟩
  · rw [none, after]
    exact ⟨.refl _ _, fun p mem => absurd mem (file_not_mem_sinks_reset j c p), by simp⟩
  · obtain ⟨keeps, sinks, writable⟩ := guards_addFile (file_not_mem_sinks_reset j c) added
    rw [asked, after]
    exact ⟨keeps, sinks, writable⟩

theorem addFile_snd (j : Journal) (path : String) :
    (j.addFile path).2 =
      ((j.storage.makeDirectories (j.storage.expanded path).dropLast).2).or
        (match (j.storage.makeDirectories (j.storage.expanded path).dropLast).1.touch (j.storage.expanded path) with
          | .ok _ => none
          | .error f => some f) := by
  unfold addFile
  dsimp only
  cases (j.storage.makeDirectories (j.storage.expanded path).dropLast).2 with
  | some f => rfl
  | none =>
    cases (j.storage.makeDirectories (j.storage.expanded path).dropLast).1.touch (j.storage.expanded path) <;> rfl

theorem setUp_snd (j : Journal) (c : Config.Logging) :
    (j.setUp c).2 = (filePath? c).bind fun path => ((j.reset c).addFile path).2 := by
  unfold setUp
  cases filePath? c with
  | none => rfl
  | some path =>
    show _ = ((j.reset c).addFile path).2
    dsimp only
    split <;> simp_all

/-- Whether setting up goes well depends on the files alone. -/
theorem setUp_snd_congr {j k : Journal} (same : k.storage = j.storage) (c : Config.Logging) :
    (k.setUp c).2 = (j.setUp c).2 := by
  -- Resetting drops the sinks and sets the level, neither of which making the file looks at.
  have storage (i : Journal) : (i.reset c).storage = i.storage := rfl
  simp only [setUp_snd, addFile_snd, storage, same]

end Log.Journal

end ResolverWatch
