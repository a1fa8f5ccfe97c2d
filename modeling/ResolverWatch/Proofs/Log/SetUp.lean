import ResolverWatch.Proofs.Log.Files

/-!
# Setting up again

What a journal was set up to before has no say in what it is set up to (`setUpBy_forgets`). A request that is refused
leaves it alone. One that fails at the log file has dropped the earlier sinks and set the level by then, but has not
turned on the capturing of warnings.
-/

namespace ResolverWatch.Log

/-- What a journal is set up by: nothing at all, settings, or the entries of a section. -/
inductive Request
  | nothing
  | settings (c : Config.Logging)
  | entries (es : List (Yaml.Scalar × Yaml.Value))

/-- The settings that a request means. -/
def Request.meant [Config.Validator] : Request → Except Config.Refusal Config.Logging
  | .nothing => .ok {}
  | .settings c => .ok c
  | .entries es => Config.Logging.ofEntries es

theorem filePath?_eq_some_iff {c : Config.Logging} {path : String} :
    filePath? c = some path ↔
      ∃ text, c.file = some text ∧ Text.trim text.chars ≠ [] ∧ path = String.ofList (Text.trim text.chars) := by
  unfold filePath?
  cases c.file with
  | none => simp
  | some text =>
    dsimp only
    split
    · next blank =>
      have nil : Text.trim text.chars = [] := List.isEmpty_iff.1 blank
      simp [nil]
    · next marked =>
      have named : Text.trim text.chars ≠ [] := fun nil => marked (List.isEmpty_iff.2 nil)
      constructor
      · intro same
        exact ⟨text, rfl, named, (Option.some.inj same).symm⟩
      · rintro ⟨text, same, -, rfl⟩
        rw [Option.some.inj same]

namespace Journal

variable [Config.Validator]

omit [Config.Validator] in
/-- There is a log file iff the text for it is not blank. -/
theorem isSome_logPlace?_iff (s : Storage) (c : Config.Logging) :
    (logPlace? s c).isSome ↔ ∃ text, c.file = some text ∧ Text.trim text.chars ≠ [] := by
  unfold logPlace?
  rw [Option.isSome_map, Option.isSome_iff_exists]
  constructor
  · rintro ⟨path, asked⟩
    obtain ⟨text, file, marked, -⟩ := filePath?_eq_some_iff.1 asked
    exact ⟨text, file, marked⟩
  · rintro ⟨text, file, marked⟩
    exact ⟨_, filePath?_eq_some_iff.2 ⟨text, file, marked, rfl⟩⟩

/-- Sets up a journal by a request. -/
def setUpBy (j : Journal) : Request → Journal × Option SetUpFault
  | .nothing =>
    let (j, fault) := j.setUp {}
    (j, fault.map .storage)
  | .settings c =>
    let (j, fault) := j.setUp c
    (j, fault.map .storage)
  | .entries es => j.setUpFrom es

theorem setUpBy_of_ok {r : Request} {c : Config.Logging} (meant : r.meant = .ok c) (j : Journal) :
    j.setUpBy r = ((j.setUp c).1, (j.setUp c).2.map .storage) := by
  cases r with
  | nothing | settings =>
    cases meant
    rfl
  | entries es =>
    have read : Config.Logging.ofEntries es = .ok c := meant
    show j.setUpFrom es = _
    rw [setUpFrom, read]

theorem setUpBy_of_error {r : Request} {reason : Config.Refusal} (refused : r.meant = .error reason) (j : Journal) :
    j.setUpBy r = (j, some (.refused reason)) := by
  cases r with
  | nothing | settings => cases refused
  | entries es =>
    have wrong : Config.Logging.ofEntries es = .error reason := refused
    show j.setUpFrom es = _
    rw [setUpFrom, wrong]

/-- A journal has the level of a configuration, its console, and a log file where there is one. -/
structure Installed (c : Config.Logging) (log : Option Place) (j : Journal) : Prop where
  level : j.level = (levelNamed c.level).number
  sinks : j.sinks = (if c.console then [.console] else []) ++ (log.map .file).toList

omit [Config.Validator] in
theorem installed_reset (j : Journal) (c : Config.Logging) : Installed c none (j.reset c) where
  level := rfl
  sinks := (List.append_nil _).symm

omit [Config.Validator] in
theorem installed_setUp_of_fine {j : Journal} {c : Config.Logging} (fine : (j.setUp c).2 = none) :
    Installed c (logPlace? j.storage c) (j.setUp c).1 ∧ (j.setUp c).1.capturing = true := by
  unfold logPlace?
  rcases setUp_of_fine fine with ⟨none, after⟩ | ⟨path, asked, added, after⟩
  · rw [none, after]
    exact ⟨⟨rfl, (installed_reset j c).sinks⟩, rfl⟩
  · obtain ⟨storage, -, same⟩ := addFile_of_fine added
    rw [asked, after, same]
    exact ⟨⟨rfl, rfl⟩, rfl⟩

omit [Config.Validator] in
theorem installed_setUp_of_fault {j : Journal} {c : Config.Logging} (fault : (j.setUp c).2 ≠ none) :
    Installed c none (j.setUp c).1 ∧ (j.setUp c).1.capturing = j.capturing := by
  obtain ⟨storage, after⟩ := setUp_of_fault fault
  rw [after]
  exact ⟨⟨rfl, (installed_reset j c).sinks⟩, rfl⟩

/-- Whether a request goes well depends on the files alone. -/
theorem setUpBy_snd_congr {j k : Journal} (same : k.storage = j.storage) (r : Request) :
    (k.setUpBy r).2 = (j.setUpBy r).2 := by
  cases meant : r.meant with
  | error reason => rw [setUpBy_of_error meant, setUpBy_of_error meant]
  | ok c =>
    rw [setUpBy_of_ok meant, setUpBy_of_ok meant]
    exact congrArg (Option.map SetUpFault.storage) (setUp_snd_congr same c)

/-- What a request leaves of a journal, by how it ends. -/
def Leaves (j : Journal) (r : Request) (after : Journal) : Option SetUpFault → Prop
  | none => ∃ c, r.meant = .ok c ∧ Installed c (logPlace? j.storage c) after ∧ after.capturing = true
  | some (.refused reason) => r.meant = .error reason ∧ after = j
  | some (.storage _) => ∃ c, r.meant = .ok c ∧ Installed c none after ∧ after.capturing = j.capturing

theorem leaves_setUpBy (j : Journal) (r : Request) : Leaves j r (j.setUpBy r).1 (j.setUpBy r).2 := by
  cases meant : r.meant with
  | error reason =>
    rw [setUpBy_of_error meant]
    exact ⟨meant, rfl⟩
  | ok c =>
    rw [setUpBy_of_ok meant]
    cases ends : (j.setUp c).2 with
    | none => exact ⟨c, meant, installed_setUp_of_fine ends⟩
    | some fault =>
      have failed : (j.setUp c).2 ≠ none := by simp [ends]
      exact ⟨c, meant, installed_setUp_of_fault failed⟩

/-- Whatever a journal was set up to before, a request ends as on a fresh one. If it goes well, the level and the sinks
are those of a fresh one too: the console if it is asked for, then one log file if the text for it is not blank; and
warnings become records. If it is refused, nothing changes. If the log file fails, the level is set, no earlier sink is
left, and warnings are taken as before. -/
theorem setUpBy_forgets (j : Journal) (r : Request) :
    let fresh : Journal := { storage := j.storage }
    (j.setUpBy r).2 = (fresh.setUpBy r).2 ∧
      Leaves j r (j.setUpBy r).1 (j.setUpBy r).2 ∧
      ((j.setUpBy r).2 = none →
        (j.setUpBy r).1.level = (fresh.setUpBy r).1.level ∧ (j.setUpBy r).1.sinks = (fresh.setUpBy r).1.sinks) ∧
      ∀ c, (logPlace? j.storage c).isSome ↔ ∃ text, c.file = some text ∧ Text.trim text.chars ≠ [] := by
  intro fresh
  have ends : (j.setUpBy r).2 = (fresh.setUpBy r).2 := setUpBy_snd_congr (j := fresh) (k := j) rfl r
  refine ⟨ends, leaves_setUpBy j r, ?_, isSome_logPlace?_iff j.storage⟩
  intro fine
  have mine := leaves_setUpBy j r
  have theirs := leaves_setUpBy fresh r
  rw [← ends, fine] at theirs
  rw [fine] at mine
  obtain ⟨c, meant, installed, -⟩ := mine
  obtain ⟨c', meant', installed', -⟩ := theirs
  obtain rfl : c = c' := Except.ok.inj (meant.symm.trans meant')
  exact ⟨installed.level.trans installed'.level.symm, installed.sinks.trans installed'.sinks.symm⟩

/-! ## Any requests -/

/-- The journal after requests. -/
def setUpAll (j : Journal) (rs : List Request) : Journal :=
  rs.foldl (fun j r => (j.setUpBy r).1) j

/-- After any requests a journal is as it was, and then all were refused, or it has the level and the console of one of
them, with its log file or none. -/
theorem setUpAll_cases (j : Journal) (rs : List Request) :
    (j.setUpAll rs = j ∧ ∀ r ∈ rs, ∃ reason, r.meant = .error reason) ∨
      ∃ r ∈ rs, ∃ c log, r.meant = .ok c ∧ Installed c log (j.setUpAll rs) := by
  induction rs generalizing j with
  | nil => exact .inl ⟨rfl, by simp⟩
  | cons r rs ih =>
    show ((j.setUpBy r).1.setUpAll rs = j ∧ _) ∨ _
    rcases ih (j.setUpBy r).1 with ⟨same, refused⟩ | ⟨r', mem, c, log, meant, installed⟩
    · have left := leaves_setUpBy j r
      rw [← same] at left
      cases ends : (j.setUpBy r).2 with
      | none =>
        rw [ends] at left
        obtain ⟨c, meant, installed, -⟩ := left
        exact .inr ⟨r, List.mem_cons_self, c, _, meant, installed⟩
      | some fault =>
        rw [ends] at left
        cases fault with
        | refused reason =>
          obtain ⟨wrong, after⟩ := left
          refine .inl ⟨after, List.forall_mem_cons.2 ⟨⟨reason, wrong⟩, refused⟩⟩
        | storage =>
          obtain ⟨c, meant, installed, -⟩ := left
          exact .inr ⟨r, List.mem_cons_self, c, _, meant, installed⟩
    · exact .inr ⟨r', List.mem_cons_of_mem _ mem, c, log, meant, installed⟩

end Journal

end ResolverWatch.Log
