import Mathlib.Data.List.Basic
import ResolverWatch.Storage.Basic

/-!
# Reading files

A path with a NUL is none, and nothing else makes a path be none (`read_eq_nulInPath_iff`). A file can still
be read, with the same bytes, after others were made or made longer: making directories and a log file and
writing to the log file keep all other files (`Keeps.read`).
-/

namespace ResolverWatch.Storage

/-- The root is a directory. -/
theorem ne_nil_of_get? {s : Storage} {p : Place} {e : Option Entry} (found : s.get? p = e)
    (other : e ≠ some .directory) : p ≠ [] := by
  rintro rfl
  exact other found.symm

/-! ## Paths -/

theorem mem_of_mem_splitSlashes {piece cs : List Char} (among : piece ∈ names.splitSlashes cs) {c : Char}
    (mem : c ∈ piece) : c ∈ cs := by
  induction cs generalizing piece with
  | nil => simp_all [names.splitSlashes]
  | cons d cs ih =>
    unfold names.splitSlashes at among
    split_ifs at among
    · rcases List.mem_cons.1 among with rfl | later
      · simp at mem
      · exact List.mem_cons_of_mem _ (ih later mem)
    · cases pieces : names.splitSlashes cs with
      | nil =>
        rw [pieces] at among
        obtain rfl : piece = [d] := by simpa using among
        rw [List.mem_singleton.1 mem]
        exact List.mem_cons_self
      | cons first others =>
        -- The character goes to the front of the first piece of the rest.
        rw [pieces] at among ih
        rcases List.mem_cons.1 among with rfl | later
        · rcases List.mem_cons.1 mem with rfl | mem
          · exact List.mem_cons_self
          · exact List.mem_cons_of_mem _ (ih List.mem_cons_self mem)
        · exact List.mem_cons_of_mem _ (ih (List.mem_cons_of_mem _ later) mem)

theorem mem_of_mem_names {path name : String} (among : name ∈ names path) {c : Char} (mem : c ∈ name.toList) :
    c ∈ path.toList := by
  obtain ⟨piece, split, rfl⟩ := List.mem_map.1 among
  rw [String.toList_ofList] at mem
  exact mem_of_mem_splitSlashes split mem

theorem nameFault?_ne_nulInPath {name : String} (plain : '\x00' ∉ name.toList) : nameFault? name ≠ some .nulInPath := by
  unfold nameFault?
  rw [if_neg (by simpa using plain)]
  split_ifs <;> simp

theorem follow_ne_nulInPath (s : Storage) {names : List String} (plain : ∀ name ∈ names, '\x00' ∉ name.toList)
    (here : Place) : s.follow here names ≠ .error .nulInPath := by
  induction names generalizing here with
  | nil => simp [follow]
  | cons name rest ih =>
    have later : ∀ name ∈ rest, '\x00' ∉ name.toList := fun name mem => plain name (List.mem_cons_of_mem _ mem)
    have named := nameFault?_ne_nulInPath (plain name List.mem_cons_self)
    unfold follow
    cases s.get? here with
    | none => simp
    | some e =>
      cases e with
      | file => simp
      | directory =>
        dsimp only
        split_ifs
        · exact ih later here
        · exact ih later here.dropLast
        · cases fault : nameFault? name with
          | none => exact ih later (here ++ [name])
          | some f =>
            rw [fault] at named
            simpa using named

/-- The bytes at a place, or why there are none. -/
def fileAt (s : Storage) (p : Place) : Except Fault (List UInt8) :=
  match s.get? p with
  | some (.file bytes) => .ok bytes
  | some .directory => .error .isDirectory
  | none => .error .missing

theorem read_eq (s : Storage) (path : String) :
    s.read path =
      if '\x00' ∈ path.toList then .error .nulInPath
      else if path.isEmpty then .error .missing
      else (s.follow (s.origin path) (names path)).bind s.fileAt := by
  unfold read
  by_cases nul : '\x00' ∈ path.toList
  · rw [if_pos (by simpa using nul), if_pos nul]
    rfl
  · rw [if_neg (by simpa using nul), if_neg nul]
    by_cases empty : path.isEmpty = true
    · simp only [empty, if_true]
      rfl
    · rw [if_neg empty, if_neg empty]
      cases s.follow (s.origin path) (names path) with
      | error f => rfl
      | ok p =>
        show (match s.get? p with | some (.file bytes) => _ | some .directory => _ | none => _) = s.fileAt p
        unfold fileAt
        cases s.get? p with
        | none => rfl
        | some e => cases e <;> rfl

/-- A path is none iff it holds a NUL. -/
theorem read_eq_nulInPath_iff {s : Storage} {path : String} :
    s.read path = .error .nulInPath ↔ '\x00' ∈ path.toList := by
  rw [read_eq]
  split_ifs with nul empty
  · simp [nul]
  · simp [nul]
  · refine iff_of_false (fun fault => ?_) nul
    have walk : s.follow (s.origin path) (names path) ≠ .error .nulInPath :=
      s.follow_ne_nulInPath (fun name among mem => nul (mem_of_mem_names among mem)) (s.origin path)
    cases followed : s.follow (s.origin path) (names path) with
    | error f =>
      rw [followed] at walk fault
      have same : f = .nulInPath := Except.error.inj fault
      exact walk (congrArg Except.error same)
    | ok p =>
      rw [followed] at fault
      change s.fileAt p = _ at fault
      unfold fileAt at fault
      split at fault <;> simp at fault

/-! ## Files that stay as they are -/

/-- Directories stay directories, and files stay as they are except for the log file, if there is one. -/
structure Keeps (log : Option Place) (s t : Storage) : Prop where
  work : t.work = s.work
  directory : ∀ p, s.get? p = some .directory → t.get? p = some .directory
  file : ∀ p bytes, log ≠ some p → s.get? p = some (.file bytes) → t.get? p = some (.file bytes)

namespace Keeps

variable {log : Option Place} {s t u : Storage}

theorem refl (log : Option Place) (s : Storage) : Keeps log s s where
  work := rfl
  directory := fun _ found => found
  file := fun _ _ _ found => found

theorem trans (first : Keeps log s t) (second : Keeps log t u) : Keeps log s u where
  work := second.work.trans first.work
  directory := fun p found => second.directory p (first.directory p found)
  file := fun p bytes other found => second.file p bytes other (first.file p bytes other found)

/-- Something can be put where nothing was, and in the place of the log file. -/
theorem put {p : Place} {e : Entry} (free : s.get? p = none ∨ (log = some p ∧ s.get? p ≠ some .directory)) :
    Keeps log s (s.put p e) where
  work := rfl
  directory := by
    intro q found
    have other : q ≠ p := by
      rintro rfl
      rcases free with missing | ⟨-, file⟩
      · rw [missing] at found
        contradiction
      · exact file found
    rw [get?_put_of_ne other, found]
  file := by
    intro q bytes notLog found
    have other : q ≠ p := by
      rintro rfl
      rcases free with missing | ⟨same, -⟩
      · rw [missing] at found
        contradiction
      · exact notLog same
    rw [get?_put_of_ne other, found]

theorem makeFrom (log : Option Place) (s : Storage) (here : Place) (names : List String) :
    Keeps log s (s.makeFrom here names).1 := by
  induction names generalizing s here with
  | nil => exact refl log s
  | cons name rest ih =>
    unfold Storage.makeFrom
    dsimp only
    split
    · exact ih s (here ++ [name])
    · exact refl log s
    · exact refl log s
    · next missing _ =>
      exact (put (.inl missing)).trans (ih _ (here ++ [name]))

theorem touch {p : Place} (touched : s.touch p = .ok t) : Keeps log s t := by
  unfold Storage.touch at touched
  split at touched
  · cases touched
    exact refl log s
  · contradiction
  · next missing =>
    split at touched
    · contradiction
    · cases touched
      exact put (.inl missing)

theorem append {p : Place} (isLog : log = some p) (file : s.get? p ≠ some .directory) (bytes : List UInt8) :
    Keeps log s (s.append p bytes) :=
  put (.inr ⟨isLog, file⟩)

theorem follow (keeps : Keeps log s t) {here p : Place} {names : List String} (found : s.follow here names = .ok p) :
    t.follow here names = .ok p := by
  induction names generalizing here with
  | nil => exact found
  | cons name rest ih =>
    unfold Storage.follow at found ⊢
    cases entry : s.get? here with
    | none => simp [entry] at found
    | some e =>
      cases e with
      | file => simp [entry] at found
      | directory =>
        -- What was a directory on the way still is one, so the same step is taken.
        simp only [entry] at found
        simp only [keeps.directory here entry]
        split_ifs at found ⊢
        · exact ih found
        · exact ih found
        · cases fault : nameFault? name with
          | some f => simp [fault] at found
          | none =>
            simp only [fault] at found
            exact ih found

/-- A file that is not the log file is read as before. -/
theorem read (keeps : Keeps log s t) {path : String} {bytes : List UInt8} (found : s.read path = .ok bytes)
    (notLog : ∀ p, s.follow (s.origin path) (names path) = .ok p → log ≠ some p) : t.read path = .ok bytes := by
  have origin : t.origin path = s.origin path := by rw [Storage.origin, Storage.origin, keeps.work]
  rw [read_eq] at found ⊢
  split_ifs at found ⊢
  cases followed : s.follow (s.origin path) (names path) with
  | error f =>
    rw [followed] at found
    contradiction
  | ok p =>
    rw [followed] at found
    rw [origin, keeps.follow followed]
    change s.fileAt p = .ok bytes at found
    show t.fileAt p = .ok bytes
    unfold fileAt at found ⊢
    cases entry : s.get? p with
    | none => simp [entry] at found
    | some e =>
      cases e with
      | directory => simp [entry] at found
      | file own =>
        rw [keeps.file p own (notLog p followed) entry]
        simpa [entry] using found

end Keeps

end ResolverWatch.Storage
