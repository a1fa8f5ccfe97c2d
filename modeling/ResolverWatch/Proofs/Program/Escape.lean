import ResolverWatch.Proofs.Config.Settled
import ResolverWatch.Proofs.Program.Exit
import ResolverWatch.Proofs.Storage.Making

/-!
# What leaves a run

A run whose arguments are accepted and whose configuration is loaded or rejected exits with a code, unless its log file
cannot be appended to, or the first input that cannot be read has a NUL in its path (`exits_iff`). Neither is
caught: a log file below a regular file, or one that is a directory, ends the run with a fault.
-/

namespace ResolverWatch

open Log

namespace Log.Journal

theorem addFile_snd_eq_none_iff (j : Journal) (path : String) :
    (j.addFile path).2 = none ↔ j.storage.Appendable (j.storage.expanded path) := by
  rw [addFile_snd, Option.or_eq_none_iff, ← Storage.touch_makeDirectories_iff]
  refine and_congr_right fun _ => ?_
  cases (j.storage.makeDirectories (j.storage.expanded path).dropLast).1.touch (j.storage.expanded path) with
  | ok t => simp
  | error f => simp

/-- A journal is set up completely iff its log file can be appended to. -/
theorem setUp_snd_eq_none_iff (j : Journal) (c : Config.Logging) :
    (j.setUp c).2 = none ↔ ∀ p, logPlace? j.storage c = some p → j.storage.Appendable p := by
  have files : (j.reset c).storage = j.storage := rfl
  unfold logPlace?
  rw [setUp_snd]
  cases filePath? c with
  | none => simp
  | some path =>
    show ((j.reset c).addFile path).2 = none ↔ _
    rw [addFile_snd_eq_none_iff, files]
    simp

end Log.Journal

/-- The run ends with one of its two codes. -/
def Outcome.Exits : Outcome → Prop
  | .exit code _ => code = 0 ∨ code = 1
  | _ => False

namespace Machine

/-! ## Inputs with a NUL -/

section Input

variable {m n : Machine} {path : String}

theorem readPayload_of_nul (n : Machine) (nul : '\x00' ∈ path.toList) :
    n.readPayload path = (n, .error (.escape .nulInPath)) := by
  have file : path ≠ "-" := by
    rintro rfl
    exact absurd nul (by decide)
  have fault : n.journal.storage.read path = .error .nulInPath := Storage.read_eq_nulInPath_iff.2 nul
  unfold readPayload readFile
  rw [if_neg file, fault]

theorem nul_of_readPayload {e : Escape} (left : (n.readPayload path).2 = .error (.escape e)) :
    '\x00' ∈ path.toList := by
  unfold readPayload readInput readFile at left
  split_ifs at left
  · dsimp only at left
    split at left
    · nomatch left
    · nomatch left
  · dsimp only at left
    split at left
    · nomatch left
    · next fault => exact Storage.read_eq_nulInPath_iff.1 fault
    · nomatch left

theorem escape_scrape_iff (n : Machine) (path : String) :
    (∃ e, (n.scrape path).2 = .error (.escape e)) ↔ '\x00' ∈ path.toList := by
  constructor
  · rintro ⟨e, left⟩
    unfold scrape at left
    split at left
    · nomatch left
    · next failed =>
      obtain rfl := Except.error.inj left
      exact nul_of_readPayload (by rw [failed])
  · intro nul
    refine ⟨.nulInPath, ?_⟩
    unfold scrape
    rw [readPayload_of_nul n nul]

/-- The first of the inputs that cannot be read has a NUL in its path. -/
def Escaping (m : Machine) (paths : List String) : Prop :=
  ∃ before path after, paths = before ++ path :: after ∧ '\x00' ∈ path.toList ∧ ∀ p ∈ before, ¬ m.Unreadable p

theorem escaping_nil (m : Machine) : ¬ m.Escaping [] := by
  rintro ⟨before, path, after, split, -⟩
  simp at split

theorem escaping_cons {rest : List String} :
    m.Escaping (path :: rest) ↔ '\x00' ∈ path.toList ∨ ¬ m.Unreadable path ∧ m.Escaping rest := by
  constructor
  · rintro ⟨before, first, after, split, nul, readable⟩
    cases before with
    | nil =>
      obtain ⟨rfl, rfl⟩ := List.cons.inj split
      exact .inl nul
    | cons p before =>
      obtain ⟨rfl, rfl⟩ := List.cons.inj split
      obtain ⟨here, later⟩ := List.forall_mem_cons.1 readable
      exact .inr ⟨here, before, first, after, rfl, nul, later⟩
  · rintro (nul | ⟨here, before, first, after, rfl, nul, later⟩)
    · exact ⟨[], path, rest, rfl, nul, fun _ mem => absurd mem List.not_mem_nil⟩
    · exact ⟨path :: before, first, after, rfl, nul, List.forall_mem_cons.2 ⟨here, later⟩⟩

/-- A replay is left iff the first input that it cannot read has a NUL in its path. -/
theorem escape_replay_iff (onward : Onward m n) (interval : Float) (h : History) (i : Nat) (files : List String) :
    (∃ e, (n.replay interval h i files).2 = .error (.escape e)) ↔ m.Escaping files := by
  induction files generalizing n h i with
  | nil =>
    refine iff_of_false ?_ (escaping_nil m)
    rintro ⟨e, left⟩
    nomatch left
  | cons path files ih =>
    rw [escaping_cons, ← escape_scrape_iff n]
    unfold replay
    rcases scrape_cases onward path with
      ⟨text, n', reads, onward', scraped⟩ | ⟨reason, n', unreadable, failed⟩ | ⟨n', failed⟩
    · have here := reads.not_unreadable
      rw [scraped]
      dsimp only
      rw [ih onward', and_iff_right here]
      simp
    · rw [failed]
      simp [unreadable]
    · rw [failed]
      simp

theorem escape_perform_iff (onward : Onward m n) (c : Config) (task : Command.Task) :
    (∃ e, (n.perform c task).2 = .error (.escape e)) ↔ m.Escaping task.inputs := by
  unfold perform
  cases task with
  | parse file =>
    have alone : m.Escaping [file] ↔ '\x00' ∈ file.toList := by
      rw [escaping_cons]
      exact or_iff_left fun rest => escaping_nil m rest.2
    show _ ↔ m.Escaping [file]
    rw [alone, ← escape_scrape_iff n]
    dsimp only
    split
    · next done => simp [done]
    · next failed => simp [failed]
  | replay files given =>
    show _ ↔ m.Escaping files
    rw [← escape_replay_iff onward (given.getD c.interval) (History.create c.capacity c.marker) 0]
    dsimp only
    split
    · next done => simp [done]
    · next failed => simp [failed]

end Input

/-! ## The whole run -/

/-- The machine when its journal is about to be set up. -/
def noted (m : Machine) (path : Option String) : Machine :=
  match path with
  | some p => m.note (.configLoaded p)
  | none => m

theorem journal_prepared (m : Machine) (path : Option String) (c : Config) :
    m.prepared path c = { m.noted path with journal := ((m.noted path).journal.setUp c.logging).1 } := rfl

theorem exits_work_iff (m : Machine) (c : Config) (task : Command.Task) :
    (m.work c task).2.Exits ↔
      (∀ p, Journal.logPlace? m.journal.storage c.logging = some p → m.journal.storage.Appendable p) ∧
        ¬ Escaping { m with journal := (m.journal.setUp c.logging).1 } task.inputs := by
  rw [← Journal.setUp_snd_eq_none_iff]
  unfold work
  cases setUp : m.journal.setUp c.logging with
  | mk j fault =>
    cases fault with
    | some f => exact iff_of_false id fun ⟨fine, _⟩ => nomatch fine
    | none =>
      have attached := Journal.attached_setUp (j := m.journal) (c := c.logging) (by rw [setUp])
      rw [setUp] at attached
      have onward : Onward { m with journal := j } { m with journal := j } := ⟨rfl, attached, .inl rfl⟩
      have escape := escape_perform_iff onward c task
      dsimp only
      rw [and_iff_right rfl, ← escape]
      generalize ({ m with journal := j } : Machine).perform c task = performed
      match performed with
      | (_, .ok line) => exact iff_of_true (.inl rfl) fun ⟨e, left⟩ => nomatch left
      | (_, .error (.unreadable reason)) => exact iff_of_true (.inr rfl) fun ⟨e, left⟩ => nomatch left
      | (_, .error (.escape e)) => exact iff_of_false id fun stays => stays ⟨e, rfl⟩

section Loading

variable [Yaml.Reader] [Config.Validator]

/-- A run whose arguments are accepted and whose configuration is loaded or rejected exits with code 0 or 1 iff, where
the configuration is loaded, its log file can be appended to and the first input that cannot be read has no NUL in its
path.

Whether the configuration is loaded or rejected depends on the whole file: one that is no UTF-8 text counts as neither
(`Config.ofBytes`), also where a reader that takes the file in pieces rejects it before it meets the wrong bytes. -/
theorem exits_iff {m : Machine} {arguments : List String} {i : Command.Invocation}
    (accepted : Command.Invocation.ofArguments arguments = .ok i)
    (settled : Config.Settled (Config.load m.journal.storage i.config)) :
    (m.run arguments).2.Exits ↔ ∀ c, Config.load m.journal.storage i.config = .ok c →
      (∀ p, Journal.logPlace? (m.noted i.config).journal.storage c.logging = some p →
        (m.noted i.config).journal.storage.Appendable p) ∧
      ¬ (m.prepared i.config c).Escaping i.task.inputs := by
  unfold run
  rw [accepted]
  dsimp only
  unfold start
  cases loaded : Config.load m.journal.storage i.config with
  | ok c =>
    have works := exits_work_iff (m.noted i.config) c i.task
    rw [← journal_prepared] at works
    constructor
    · rintro exits c' same
      obtain rfl := Except.ok.inj same
      exact works.1 exits
    · intro all
      exact works.2 (all c rfl)
  | error f =>
    rw [loaded, Config.settled_error_iff] at settled
    obtain ⟨r, rfl⟩ := settled
    exact iff_of_true (.inr rfl) fun c same => nomatch same

end Loading

/-- A machine with a payload, and a configuration that names a log file. -/
def loggingTo (path : String) : Machine where
  journal :=
    { storage := ⟨[(["a"], .file "blocky_query_total 12".toUTF8.data.toList),
        (["c"], .file ("\x7b\"logging\":\x7b\"file\":\"" ++ path ++ "\"\x7d\x7d").toUTF8.data.toList)], [], [], []⟩ }
  input := []
  now := 1000.0

/-- With a log file in a directory that can be made, the run exits. -/
theorem exits_iff_ownDirectory :
    Config.Settled (Config.load (loggingTo "l/x").journal.storage (some "c")) ∧
      ((loggingTo "l/x").run ["--config", "c", "parse", "a"]).2.Exits := by
  have accepted : Command.Invocation.ofArguments ["--config", "c", "parse", "a"] = .ok ⟨some "c", .parse "a"⟩ := by rfl
  have settled : Config.Settled (Config.load (loggingTo "l/x").journal.storage (some "c")) :=
    Config.settled_of_isSome (by decide +kernel)
  have named : (Config.load (loggingTo "l/x").journal.storage (some "c")).toOption.map (fun c => c.logging.file) =
      some (some ("l/x" : Text.Points)) := by decide +kernel
  refine ⟨settled, ?_⟩
  rw [exits_iff accepted settled]
  intro c loaded
  dsimp only at loaded ⊢
  refine ⟨?appendable, ?stays⟩
  case appendable =>
    have file : c.logging.file = some ("l/x" : Text.Points) := by
      rw [loaded] at named
      exact Option.some.inj named
    have below :
        Journal.logPlace? ((loggingTo "l/x").noted (some "c")).journal.storage c.logging = some ["l", "x"] := by
      unfold Journal.logPlace? filePath?
      rw [file]
      decide +kernel
    intro p place
    rw [below] at place
    obtain rfl := Option.some.inj place
    rw [← Storage.touch_makeDirectories_iff, Storage.exists_touch_iff]
    exact ⟨by decide +kernel, .inr ⟨by decide +kernel, rfl⟩⟩
  case stays =>
    rw [Command.Task.inputs, escaping_cons]
    rintro (nul | ⟨-, rest⟩)
    · exact absurd nul (by decide)
    · exact escaping_nil _ rest

/-- With a log file below the payload, the run does not exit. -/
theorem escaped_belowPayload :
    Command.Invocation.ofArguments ["--config", "c", "parse", "a"] = .ok ⟨some "c", .parse "a"⟩ ∧
      Config.Settled (Config.load (loggingTo "a/x").journal.storage (some "c")) ∧
      ((loggingTo "a/x").run ["--config", "c", "parse", "a"]).2 = .escaped (.logFile .exists) := by
  have settled : Config.Settled (Config.load (loggingTo "a/x").journal.storage (some "c")) :=
    Config.settled_of_isSome (by decide +kernel)
  exact ⟨by rfl, settled, by decide +kernel⟩

end Machine

end ResolverWatch
