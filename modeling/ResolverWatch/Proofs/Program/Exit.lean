import ResolverWatch.Config.Lenient
import ResolverWatch.Program
import ResolverWatch.Proofs.History.Figures
import ResolverWatch.Proofs.Json.Line
import ResolverWatch.Proofs.Log.Kinds
import ResolverWatch.Proofs.Text.Utf8
import ResolverWatch.Yaml.Document

/-!
# How a run exits

A run that exits has nothing to print exactly when its configuration is rejected or an input cannot be read; it prints
one line otherwise (`exit_decided_by_inputs`). Which inputs can be read is settled before the first one is read: what
is noted on the way makes only log files longer, and of a standard input that was read nothing is left, which is a
text like any other (`Onward.unreadable_iff`).

What a run prints it hands to its output stream, all at once and at its end. The place behind the stream receives that
and nothing else, as long as it is not the log file too: no other file is written to (`received_eq_printed`).
-/

namespace ResolverWatch

open Text

/-! ## What is printed -/

/-- The scrape of a payload at a position. -/
def scrapeAt (start interval : Float) (p : List Char × Nat) : Entry :=
  ⟨start + Float.ofInt p.2 * interval, (Scrape.read p.1).snapshot⟩

/-- What a task tells about the payloads that it read. -/
def Command.Task.document (task : Command.Task) (c : Config) (start : Float) (texts : List (List Char)) : Json :=
  match task with
  | .parse _ => (Scrape.read (texts.headD [])).snapshot.toJson
  | .replay _ given =>
    ((History.create c.capacity c.marker).pushAll (texts.zipIdx.map (scrapeAt start (given.getD c.interval)))).toJson

namespace Machine

/-! ## Inputs -/

/-- The standard input is no text, or no file can be read at the path. -/
def Unreadable (m : Machine) (path : String) : Prop :=
  if path = "-" then ∀ cs, m.input ≠ Utf8.encode cs else ∀ bytes, m.journal.storage.read path ≠ .ok bytes

/-- A machine and the same one later, after it noted something and maybe read its standard input. -/
structure Onward (m n : Machine) : Prop where
  now : n.now = m.now
  files : n.journal.Attached m.journal.storage
  input : n.input = m.input ∨ n.input = [] ∧ ∃ cs, m.input = Utf8.encode cs

/-- The text is read from the path, at once or later. -/
def Reads (m : Machine) (path : String) (text : List Char) : Prop :=
  ∃ n, Onward m n ∧ (n.readPayload path).2 = .ok text

section Later

variable {m n : Machine} {path : String} {text : List Char}

theorem Onward.note (onward : Onward m n) (notice : Log.Notice) : Onward m (n.note notice) where
  now := onward.now
  files := onward.files.note n.now notice
  input := onward.input

/-- What cannot be read later cannot be read at once. -/
theorem Onward.unreadable_iff (onward : Onward m n) : n.Unreadable path ↔ m.Unreadable path := by
  unfold Unreadable
  split_ifs with dash
  · rcases onward.input with same | ⟨empty, cs, whole⟩
    · rw [same]
    · have read : n.input = Utf8.encode [] := empty
      exact iff_of_false (fun stray => stray [] read) fun stray => stray cs whole
  · have faults : ∀ s : Storage, (∀ bytes, s.read path ≠ .ok bytes) ↔ ∃ f, s.read path = .error f := by
      intro s
      cases s.read path <;> simp
    rw [faults, faults]
    exact exists_congr fun f => onward.files.kinds.read_eq_error_iff

/-- A payload is read, or it cannot be, or its path leaves the run. -/
theorem readPayload_cases (onward : Onward m n) (path : String) :
    (∃ text n', ¬ m.Unreadable path ∧ Onward m n' ∧ n.readPayload path = (n', .ok text)) ∨
      (∃ reason n', m.Unreadable path ∧ n.readPayload path = (n', .error (.unreadable reason))) ∨
      ∃ n', n.readPayload path = (n', .error (.escape .nulInPath)) := by
  rw [← onward.unreadable_iff]
  unfold readPayload Unreadable
  split_ifs
  · unfold readInput
    cases decoded : Utf8.decode n.input with
    | ok cs =>
      have whole : n.input = Utf8.encode cs := Utf8.decode_eq_ok_iff.1 decoded
      refine .inl ⟨unifyNewlines cs, _, fun stray => stray cs whole, ?_, rfl⟩
      refine ⟨onward.now, onward.files, .inr ⟨rfl, ?_⟩⟩
      rcases onward.input with same | ⟨-, read⟩
      · exact ⟨cs, same ▸ whole⟩
      · exact read
    | error e =>
      refine .inr (.inl ⟨e.message, _, fun cs whole => ?_, rfl⟩)
      simp [Utf8.decode_eq_ok_iff.2 whole] at decoded
  · unfold readFile
    cases n.journal.storage.read path with
    | ok bytes => exact .inl ⟨_, n, fun none => none bytes rfl, onward, rfl⟩
    | error f =>
      by_cases nul : f = .nulInPath
      · rw [nul]
        exact .inr (.inr ⟨n, rfl⟩)
      · refine .inr (.inl ⟨f.message path, n, by simp, ?_⟩)
        cases f <;> first | rfl | contradiction

theorem Reads.not_unreadable (reads : m.Reads path text) : ¬ m.Unreadable path := by
  obtain ⟨n, onward, read⟩ := reads
  rcases readPayload_cases onward path with ⟨_, _, readable, -⟩ | ⟨_, _, -, failed⟩ | ⟨_, failed⟩
  · exact readable
  · simp [failed] at read
  · simp [failed] at read

/-- A scrape is that of a text that is read, or its input cannot be, or its path leaves the run. -/
theorem scrape_cases (onward : Onward m n) (path : String) :
    (∃ text n', m.Reads path text ∧ Onward m n' ∧ n.scrape path = (n', .ok (Scrape.read text).snapshot)) ∨
      (∃ reason n', m.Unreadable path ∧ n.scrape path = (n', .error (.unreadable reason))) ∨
      ∃ n', n.scrape path = (n', .error (.escape .nulInPath)) := by
  unfold scrape
  rcases readPayload_cases onward path with
    ⟨text, n', -, onward', read⟩ | ⟨reason, n', unreadable, failed⟩ | ⟨n', failed⟩
  · have reads : m.Reads path text := ⟨n, onward, by rw [read]⟩
    rw [read]
    exact .inl ⟨text, _, reads, onward'.note _, rfl⟩
  · rw [failed]
    exact .inr (.inl ⟨reason, n', unreadable, rfl⟩)
  · rw [failed]
    exact .inr (.inr ⟨n', rfl⟩)

/-! ## One payload after the other -/

/-- A result that the inputs decide: it is what `told` says of the texts that are read from the paths, or an input
cannot be read. A fault that leaves the run is decided otherwise. -/
def DecidedBy {α : Type} (m : Machine) (paths : List String) (told : List (List Char) → α) : Except Abort α → Prop
  | .ok a => ∃ texts, List.Forall₂ m.Reads paths texts ∧ a = told texts
  | .error (.unreadable _) => ∃ path ∈ paths, m.Unreadable path
  | .error (.escape _) => True

theorem replay_decidedBy (onward : Onward m n) (interval : Float) (h : History) (i : Nat) (files : List String) :
    m.DecidedBy files (fun texts => h.pushAll ((texts.zipIdx i).map (scrapeAt m.now interval)))
      (n.replay interval h i files).2 := by
  induction files generalizing n h i with
  | nil => exact ⟨[], .nil, rfl⟩
  | cons path files ih =>
    unfold replay
    rcases scrape_cases onward path with
      ⟨text, n', reads, onward', scraped⟩ | ⟨_, _, unreadable, failed⟩ | ⟨_, failed⟩
    · rw [scraped]
      have later := ih onward' (h.push ⟨n'.now + Float.ofInt i * interval, (Scrape.read text).snapshot⟩) (i + 1)
      dsimp only
      generalize (n'.replay interval _ (i + 1) files).2 = result at later ⊢
      match result, later with
      | .ok _, ⟨texts, others, pushed⟩ =>
        refine ⟨text :: texts, .cons reads others, ?_⟩
        rw [pushed, onward'.now]
        rfl
      | .error (.unreadable _), ⟨other, mem, unreadable⟩ => exact ⟨other, List.mem_cons_of_mem _ mem, unreadable⟩
      | .error (.escape _), _ => trivial
    · rw [failed]
      exact ⟨path, List.mem_cons_self, unreadable⟩
    · rw [failed]
      trivial

/-- The line of a task is decided by its inputs. -/
theorem perform_decidedBy (onward : Onward m n) (c : Config) (task : Command.Task) :
    m.DecidedBy task.inputs (fun texts => (task.document c m.now texts).toText) (n.perform c task).2 := by
  unfold perform
  cases task with
  | parse file =>
    dsimp only
    rcases scrape_cases onward file with ⟨text, _, reads, -, scraped⟩ | ⟨_, _, unreadable, failed⟩ | ⟨_, failed⟩
    · rw [scraped]
      exact ⟨[text], .cons reads .nil, rfl⟩
    · rw [failed]
      exact ⟨file, List.mem_singleton_self file, unreadable⟩
    · rw [failed]
      trivial
  | replay files given =>
    dsimp only
    have decided := replay_decidedBy onward (given.getD c.interval) (History.create c.capacity c.marker) 0 files
    generalize n.replay (given.getD c.interval) (History.create c.capacity c.marker) 0 files = replayed at decided ⊢
    match replayed, decided with
    | (_, .ok _), ⟨texts, reads, pushed⟩ => exact ⟨texts, reads, congrArg History.toText pushed⟩
    | (_, .error (.unreadable _)), unreadable => exact unreadable
    | (_, .error (.escape _)), _ => trivial

end Later

/-! ## What a task keeps -/

section Kept

variable {P : Machine → Prop} (note : ∀ m n, P m → P (m.note n)) (input : ∀ m bytes, P m → P { m with input := bytes })

include note input

/-- What notes and the reading of the standard input keep, a scrape keeps. -/
theorem scrape_keeps {m : Machine} (start : P m) (path : String) : P (m.scrape path).1 := by
  have read : P (m.readPayload path).1 := by
    unfold readPayload
    split_ifs
    · exact input m [] start
    · exact start
  unfold scrape
  split
  · next payload =>
    rw [payload] at read
    exact note _ _ read
  · next payload =>
    rw [payload] at read
    exact read

theorem replay_keeps {m : Machine} (start : P m) (interval : Float) (h : History) (i : Nat) (files : List String) :
    P (m.replay interval h i files).1 := by
  induction files generalizing m h i with
  | nil => exact start
  | cons path files ih =>
    have scraped := scrape_keeps note input start path
    unfold replay
    split
    · next failed =>
      rw [failed] at scraped
      exact scraped
    · next done =>
      rw [done] at scraped
      exact ih scraped _ _

omit input in
theorem noteDelta_keeps {m : Machine} (start : P m) (d : Delta) : P (m.noteDelta d) := by
  unfold noteDelta
  split
  · exact note _ _ start
  · exact start

omit input in
theorem noteDropped_keeps {m : Machine} (start : P m) (files : Nat) (h : History) : P (m.noteDropped files h) := by
  unfold noteDropped
  split_ifs
  · exact note _ _ start
  · exact start

/-- What notes and the reading of the standard input keep, a task keeps. -/
theorem perform_keeps {m : Machine} (start : P m) (c : Config) (task : Command.Task) : P (m.perform c task).1 := by
  unfold perform
  cases task with
  | parse file =>
    have scraped := scrape_keeps note input start file
    dsimp only
    split <;> next done => rw [done] at scraped; exact scraped
  | replay files given =>
    have replayed :=
      replay_keeps note input start (given.getD c.interval) (History.create c.capacity c.marker) 0 files
    dsimp only
    split
    · next done =>
      rw [done] at replayed
      exact noteDelta_keeps note (noteDelta_keeps note (noteDropped_keeps note replayed _ _) _) _
    · next failed =>
      rw [failed] at replayed
      exact replayed

end Kept

/-! ## Files that are not written to -/

/-- A machine that has written to no file but the log file. -/
structure Sparing (s : Storage) (log output : Option Place) (m : Machine) : Prop where
  output : m.output = output
  guards : m.journal.Guards s log

namespace Sparing

variable {s : Storage} {log output : Option Place} {m : Machine}

theorem note (sparing : Sparing s log output m) (n : Log.Notice) : Sparing s log output (m.note n) where
  output := sparing.output
  guards := sparing.guards.note m.now n

theorem perform (sparing : Sparing s log output m) (c : Config) (task : Command.Task) :
    Sparing s log output (m.perform c task).1 :=
  perform_keeps (fun _ n sparing => sparing.note n) (fun _ _ sparing => ⟨sparing.output, sparing.guards⟩) sparing c task

/-- A run that exits has set up its journal, so from then on only the log file is written to. -/
theorem work {c : Config} {task : Command.Task} {code : Nat} {printed : String}
    (exited : (m.work c task).2 = .exit code printed) :
    Sparing m.journal.storage (Log.Journal.logPlace? m.journal.storage c.logging) m.output (m.work c task).1 := by
  unfold Machine.work at exited ⊢
  cases setUp : m.journal.setUp c.logging with
  | mk j fault =>
    rw [setUp] at exited
    cases fault with
    | some f => simp at exited
    | none =>
      have guards := Log.Journal.guards_setUp (j := m.journal) (c := c.logging) (by rw [setUp])
      rw [setUp] at guards
      have ready : Sparing m.journal.storage (Log.Journal.logPlace? m.journal.storage c.logging) m.output
          { m with journal := j } := ⟨rfl, guards⟩
      have performed := ready.perform c task
      dsimp only at exited ⊢
      split
      · next done =>
        rw [done] at performed
        exact performed
      · next failed =>
        rw [failed] at performed
        exact performed.note _
      · next failed =>
        rw [failed] at performed
        exact performed

end Sparing

/-! ## The whole run -/

/-- The machine when its first input is about to be read: the configuration is noted, then the journal set up. -/
def prepared (m : Machine) (path : Option String) (c : Config) : Machine :=
  let m := match path with
    | some p => m.note (.configLoaded p)
    | none => m
  { m with journal := (m.journal.setUp c.logging).1 }

/-- How a run that has its configuration exits, with what code and output. -/
inductive Exits (m : Machine) (c : Config) (task : Command.Task) : Nat → String → Prop
  | printed (texts : List (List Char)) (reads : List.Forall₂ m.Reads task.inputs texts) :
      Exits m c task 0 ((task.document c m.now texts).toText ++ "\n")
  | unreadable (path : String) (mem : path ∈ task.inputs) (unreadable : m.Unreadable path) : Exits m c task 1 ""

theorem work_exit {m : Machine} {c : Config} {task : Command.Task} {code : Nat} {output : String}
    (exited : (m.work c task).2 = .exit code output) :
    Exits { m with journal := (m.journal.setUp c.logging).1 } c task code output := by
  unfold work at exited
  cases setUp : m.journal.setUp c.logging with
  | mk j fault =>
    rw [setUp] at exited
    cases fault with
    | some f => simp at exited
    | none =>
      have attached := Log.Journal.attached_setUp (j := m.journal) (c := c.logging) (by rw [setUp])
      rw [setUp] at attached
      have onward : Onward { m with journal := j } { m with journal := j } := ⟨rfl, attached, .inl rfl⟩
      dsimp only at exited ⊢
      have decided := perform_decidedBy onward c task
      generalize ({ m with journal := j } : Machine).perform c task = performed at exited decided
      match performed, decided with
      | (_, .ok _), ⟨texts, reads, told⟩ =>
        obtain ⟨rfl, rfl⟩ := Outcome.exit.inj exited
        rw [told]
        exact .printed texts reads
      | (_, .error (.unreadable _)), ⟨path, mem, unreadable⟩ =>
        obtain ⟨rfl, rfl⟩ := Outcome.exit.inj exited
        exact .unreadable path mem unreadable
      | (_, .error (.escape _)), _ => simp at exited

section Loading

variable [Yaml.Reader] [Config.Validator]

/-- A run that exits has its configuration rejected, or it has one and exits by what it reads. -/
theorem run_exit {m : Machine} {arguments : List String} {i : Command.Invocation} {code : Nat} {output : String}
    (accepted : Command.Invocation.ofArguments arguments = .ok i) (exited : (m.run arguments).2 = .exit code output) :
    (∃ r, Config.load m.journal.storage i.config = .error (.rejected r) ∧ code = 1 ∧ output = "") ∨
      ∃ c, Config.load m.journal.storage i.config = .ok c ∧ (m.prepared i.config c).Exits c i.task code output := by
  unfold run at exited
  rw [accepted] at exited
  dsimp only at exited
  unfold start at exited
  match loaded : Config.load m.journal.storage i.config, exited with
  | .ok c, exited =>
    refine .inr ⟨c, rfl, ?_⟩
    exact work_exit exited
  | .error (.rejected r), exited =>
    obtain ⟨rfl, rfl⟩ := Outcome.exit.inj exited
    exact .inl ⟨r, rfl, rfl, rfl⟩

/-- The standard output stands among the files, empty as yet, and is not the log file that the configuration asks
for. -/
structure OutputApart (m : Machine) (path : Option String) (p : Place) : Prop where
  output : m.output = some p
  empty : m.journal.storage.get? p = some (.file [])
  notLog : ∀ c, Config.load m.journal.storage path = .ok c →
    Log.Journal.logPlace? m.journal.storage c.logging ≠ some p

/-- The standard output receives what is printed, and nothing before it. -/
theorem received_eq_printed {m : Machine} {arguments : List String} {i : Command.Invocation} {code : Nat}
    {printed : String} (accepted : Command.Invocation.ofArguments arguments = .ok i)
    (exited : (m.run arguments).2 = .exit code printed) (fresh : m.journal.sinks = []) {p : Place}
    (apart : m.OutputApart i.config p) : (m.run arguments).1.received printed = Utf8.encode printed.toList := by
  have kept {n : Machine} (output : n.output = some p) (same : n.journal.storage.get? p = some (.file [])) :
      n.received printed = Utf8.encode printed.toList := by
    simp [received, output, Storage.content, Storage.bytes?, same]
  unfold run at exited ⊢
  rw [accepted] at exited ⊢
  dsimp only at exited ⊢
  unfold start at exited ⊢
  cases loaded : Config.load m.journal.storage i.config with
  | error f =>
    rw [loaded] at exited
    cases f with
    | rejected r => exact kept apart.output apart.empty
    | nulInPath | undecodable | scalar | keyNotText => simp at exited
  | ok c =>
    rw [loaded] at exited
    dsimp only at exited ⊢
    have work {n : Machine} (storage : n.journal.storage = m.journal.storage) (output : n.output = m.output)
        (exited : (n.work c i.task).2 = .exit code printed) :
        (n.work c i.task).1.received printed = Utf8.encode printed.toList := by
      have sparing := Sparing.work exited
      rw [storage, output] at sparing
      exact kept (sparing.output.trans apart.output)
        (sparing.guards.keeps.file p [] (apart.notLog c loaded) apart.empty)
    cases config : i.config with
    | none =>
      rw [config] at exited
      exact work rfl rfl exited
    | some path =>
      rw [config] at exited
      exact work (Log.Journal.storage_note_of_sinks fresh m.now (.configLoaded path)) rfl exited

omit [Yaml.Reader] [Config.Validator] in
theorem not_unreadable_of_mem {m : Machine} {paths : List String} {texts : List (List Char)}
    (reads : List.Forall₂ m.Reads paths texts) {path : String} (mem : path ∈ paths) : ¬ m.Unreadable path := by
  induction reads with
  | nil => simp at mem
  | cons first _ ih =>
    rcases List.mem_cons.1 mem with rfl | later
    · exact first.not_unreadable
    · exact ih later

/-- Why a run has nothing to print: its configuration is rejected, or it has one and an input cannot be read. -/
inductive Refuses (m : Machine) (i : Command.Invocation) : Prop
  | configuration (r : Config.Rejection) (loaded : Config.load m.journal.storage i.config = .error (.rejected r))
  | input (c : Config) (loaded : Config.load m.journal.storage i.config = .ok c) (path : String)
      (mem : path ∈ i.task.inputs) (unreadable : (m.prepared i.config c).Unreadable path)

end Loading

/-- A machine with one payload, and bytes that are no text at its standard input. -/
def onePayload : Machine where
  journal := { storage := ⟨[(["a"], .file "blocky_query_total 12".toUTF8.data.toList)], [], [], []⟩ }
  input := [0xff]
  now := 1000.0

end Machine

end ResolverWatch
