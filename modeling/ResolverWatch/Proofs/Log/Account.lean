import Mathlib.Data.List.Nodup
import ResolverWatch.Config.Lenient
import ResolverWatch.Proofs.Log.Kinds
import ResolverWatch.Proofs.Log.Timestamp

/-!
# Each record reaches each sink once

Set-ups, records and warnings come in any order, and a set-up may fail or be refused. While there is a sink, a record
from the least level on is one more line in each sink, or it is kept as a failure where it has no line, and nothing else
is written anywhere (`accounted_take`). Set-ups write nothing (`content_setUp`), so a log file ends as it was, followed
by the lines of the records that came while it was a sink (`records_accounted`). A record has a line in every sink if
its message can be put together, its time is on the calendar (`exists_text_iff`), and its text holds no half of a pair
(`line_of_text`).
-/

namespace ResolverWatch

open Log Text

/-! ## What a file holds -/

namespace Storage

variable {s t : Storage} {p : Place}

theorem bytes?_put_directory (missing : s.get? p = none) (q : Place) :
    (s.put p .directory).bytes? q = s.bytes? q := by
  have named : p ≠ [] := ne_nil_of_get? missing (by simp)
  unfold bytes?
  by_cases same : q = p
  · rw [same, get?_put_self named, missing]
  · rw [get?_put_of_ne same]

/-- Making directories writes to no file. -/
theorem bytes?_makeFrom (s : Storage) (here : Place) (names : List String) (q : Place) :
    (s.makeFrom here names).1.bytes? q = s.bytes? q := by
  induction names generalizing s here with
  | nil => rfl
  | cons name rest ih =>
    unfold makeFrom
    dsimp only
    split
    · exact ih s _
    · rfl
    · rfl
    · next missing _ =>
      rw [ih]
      exact bytes?_put_directory missing q

/-- A file that is made is empty. -/
theorem content_touch (touched : s.touch p = .ok t) (q : Place) : t.content q = s.content q := by
  unfold touch at touched
  split at touched
  · cases touched
    rfl
  · contradiction
  · next missing =>
    have named : p ≠ [] := ne_nil_of_get? missing (by simp)
    split at touched
    · contradiction
    · cases touched
      unfold content bytes?
      by_cases same : q = p
      · rw [same, get?_put_self named, missing]
        rfl
      · rw [get?_put_of_ne same]

theorem content_append {old : List UInt8} (found : s.get? p = some (.file old)) (bytes : List UInt8) (q : Place) :
    (s.append p bytes).content q = s.content q ++ if p = q then bytes else [] := by
  have named : p ≠ [] := ne_nil_of_get? found (by simp)
  unfold append content
  by_cases same : p = q
  · subst same
    rw [if_pos rfl, bytes?, get?_put_self named]
    rfl
  · rw [if_neg same, List.append_nil, bytes?, get?_put_of_ne (Ne.symm same)]
    rfl

end Storage

namespace Log

/-- The bytes of the line of a record in a sink, if it has one there. -/
def Record.bytes (r : Record) (sink : Sink) : List UInt8 :=
  ((r.line sink).map Utf8.encode).getD []

/-! ## Lines -/

/-- A record has a text iff it has a message and its time is on the calendar. -/
theorem exists_text_iff {r : Record} : (∃ text, r.text true = .ok text) ↔ r.message.isSome ∧ InCalendar r.time := by
  rw [← exists_timeText_iff]
  unfold Record.text
  cases r.message with
  | none => simp
  | some message => cases timeText r.time <;> simp

theorem flatMap_escaped_pointsOf (cs : List Char) : (pointsOf cs).flatMap Point.escaped = cs := by
  induction cs with
  | nil => rfl
  | cons c cs ih =>
    show c :: (pointsOf cs).flatMap Point.escaped = c :: cs
    rw [ih]

/-- A text without halves stands for itself in every sink. -/
theorem characters?_pointsOf (sink : Sink) (cs : List Char) : sink.characters? (pointsOf cs) = some cs := by
  cases sink with
  | console => exact congrArg some (flatMap_escaped_pointsOf cs)
  | file => exact Points.chars?_pointsOf cs

/-- A record whose text holds no half of a pair is that text and a line end in every sink. -/
theorem line_of_text {r : Record} {cs : List Char} (written : r.text true = .ok (pointsOf cs)) (sink : Sink) :
    r.line sink = some (cs ++ ['\n']) := by
  have ended : pointsOf cs ++ ("\n" : Points) = pointsOf (cs ++ ['\n']) := (List.map_append ..).symm
  unfold Record.line
  rw [written]
  dsimp only
  rw [ended, characters?_pointsOf]

namespace Journal

/-- What a sink holds. -/
def content (j : Journal) : Sink → List UInt8
  | .console => Utf8.encode j.console.toList
  | .file p => j.storage.content p

/-- A record from the least level on goes to a sink while it is installed. -/
def Receives (j : Journal) (sink : Sink) (r : Record) : Prop :=
  sink ∈ j.sinks ∧ j.level ≤ r.level

instance (j : Journal) (sink : Sink) (r : Record) : Decidable (j.Receives sink r) :=
  inferInstanceAs (Decidable (_ ∧ _))

/-! ## Records -/

/-- Writing to a sink makes it longer and leaves all others as they are. -/
theorem content_write {j : Journal} {sink : Sink}
    (there : ∀ p, sink = .file p → ∃ bytes, j.storage.get? p = some (.file bytes)) (text : List Char) (other : Sink) :
    (write text j sink).content other = j.content other ++ if sink = other then Utf8.encode text else [] := by
  cases sink with
  | console =>
    cases other with
    | console =>
      rw [if_pos rfl]
      show Utf8.encode (j.console ++ String.ofList text).toList = _
      rw [String.toList_append, String.toList_ofList]
      exact List.flatMap_append
    | file q =>
      rw [if_neg Sink.noConfusion, List.append_nil]
      rfl
  | file p =>
    cases other with
    | console =>
      rw [if_neg Sink.noConfusion, List.append_nil]
      rfl
    | file q =>
      obtain ⟨old, found⟩ := there p rfl
      have appended := Storage.content_append found (Utf8.encode text) q
      simp only [Sink.file.injEq]
      exact appended

/-- A record is written to one sink, if it has a line there. -/
theorem content_emit {j : Journal} {sink : Sink}
    (there : ∀ p, sink = .file p → ∃ bytes, j.storage.get? p = some (.file bytes)) (r : Record) (other : Sink) :
    (emit r j sink).content other = j.content other ++ if sink = other then r.bytes other else [] := by
  unfold emit
  cases line : r.line sink with
  | some text =>
    dsimp only
    rw [content_write there]
    by_cases same : sink = other
    · rw [if_pos same, if_pos same, Record.bytes, ← same, line]
      rfl
    · rw [if_neg same, if_neg same]
  | none =>
    have nothing : (if sink = other then r.bytes other else []) = [] := by
      split
      · next same =>
        rw [Record.bytes, ← same, line]
        rfl
      · rfl
    rw [nothing, List.append_nil]
    cases other <;> rfl

theorem Attached.emit {s : Storage} {j : Journal} (attached : Attached s j) (r : Record) {sink : Sink}
    (there : ∀ p, sink = .file p → ∃ bytes, s.get? p = some (.file bytes)) : Attached s (Journal.emit r j sink) := by
  unfold Journal.emit
  split
  · exact attached.write _ there
  · exact ⟨attached.kinds, attached.sinks⟩

/-- Each of distinct sinks is written to once. -/
theorem content_emitAll {s : Storage} {j : Journal} {sinks : List Sink} (attached : Attached s j)
    (there : ∀ p, .file p ∈ sinks → ∃ bytes, s.get? p = some (.file bytes)) (distinct : sinks.Nodup) (r : Record)
    (other : Sink) :
    (sinks.foldl (emit r) j).content other = j.content other ++ if other ∈ sinks then r.bytes other else [] := by
  induction sinks generalizing j with
  | nil => exact (List.append_nil _).symm
  | cons sink rest ih =>
    obtain ⟨new, distinct⟩ := List.nodup_cons.1 distinct
    have own (p : Place) (same : sink = .file p) : ∃ bytes, s.get? p = some (.file bytes) :=
      there p (same ▸ List.mem_cons_self)
    have now (p : Place) (same : sink = .file p) : ∃ bytes, j.storage.get? p = some (.file bytes) := by
      obtain ⟨bytes, found⟩ := own p same
      exact attached.kinds.exists_file found
    rw [List.foldl_cons, ih (attached.emit r own) (fun p mem => there p (List.mem_cons_of_mem _ mem)) distinct,
      content_emit now, List.append_assoc]
    congr 1
    by_cases same : sink = other
    · subst same
      rw [if_pos rfl, if_neg new, if_pos List.mem_cons_self, List.append_nil]
    · rw [if_neg same, List.nil_append]
      simp only [List.mem_cons, Ne.symm same, false_or]

theorem failures_emit (r : Record) (j : Journal) (sink : Sink) :
    (emit r j sink).failures = j.failures ++ if (r.line sink).isNone then [⟨r, sink⟩] else [] := by
  unfold emit
  cases r.line sink with
  | some text => cases sink <;> exact (List.append_nil _).symm
  | none => rfl

/-- A record is kept as a failure for each sink in which it has no line. -/
theorem failures_emitAll (r : Record) (j : Journal) (sinks : List Sink) :
    (sinks.foldl (emit r) j).failures =
      j.failures ++ (sinks.filter fun sink => (r.line sink).isNone).map (Failure.mk r) := by
  induction sinks generalizing j with
  | nil => exact (List.append_nil _).symm
  | cons sink rest ih =>
    rw [List.foldl_cons, ih, failures_emit, List.append_assoc, List.filter_cons]
    split <;> rfl

/-- The sinks are distinct, and the files among them are there. -/
structure Sound (j : Journal) : Prop where
  distinct : j.sinks.Nodup
  there : ∀ p, .file p ∈ j.sinks → ∃ bytes, j.storage.get? p = some (.file bytes)

theorem Sound.attached {j : Journal} (sound : Sound j) : Attached j.storage j :=
  ⟨.refl _, sound.there⟩

theorem Sound.capture {j : Journal} (sound : Sound j) : Sound { j with captured := true } :=
  ⟨sound.distinct, sound.there⟩

/-- What becomes of a record that a journal with sinks takes: it is written once, as one text, to each sink that it goes
to and that it has a line in, and nowhere else; where it has no line it is kept as a failure. -/
structure Accounted (r : Record) (j after : Journal) : Prop where
  distinct : j.sinks.Nodup
  written (sink : Sink) : after.content sink = j.content sink ++ if j.Receives sink r then r.bytes sink else []
  failed : after.failures =
    j.failures ++ (j.sinks.filter fun sink => j.Receives sink r ∧ (r.line sink).isNone).map (Failure.mk r)

theorem accounted_take {j : Journal} (sound : Sound j) (some : j.sinks ≠ []) (r : Record) :
    Accounted r j (j.take r) := by
  have some' : j.sinks.isEmpty = false := List.isEmpty_eq_false_iff.2 some
  unfold take
  rw [some']
  by_cases low : r.level < j.level
  · have out (sink : Sink) : ¬ j.Receives sink r := by
      rintro ⟨-, enough⟩
      omega
    rw [if_pos low]
    exact ⟨sound.distinct, fun sink => by rw [if_neg (out sink), List.append_nil], by simp [out]⟩
  · have receives (sink : Sink) : j.Receives sink r ↔ sink ∈ j.sinks := and_iff_left (Int.not_lt.1 low)
    rw [if_neg low, if_neg Bool.false_ne_true]
    refine ⟨sound.distinct, fun sink => ?_, ?_⟩
    · simp only [receives]
      exact content_emitAll sound.attached sound.there sound.distinct r sink
    · rw [failures_emitAll]
      congr 2
      refine List.filter_congr fun sink mem => ?_
      cases r.line sink <;> simp [receives, mem]

/-- Taking a record installs and drops no sink. -/
theorem sinks_take (j : Journal) (r : Record) : (j.take r).sinks = j.sinks := by
  apply @take_induction (fun k => k.sinks = j.sinks) j rfl
  · exact fun _ _ same => same
  · intro k text sink _ same
    cases sink <;> exact same
  · exact fun _ _ _ same => same

theorem Sound.take {j : Journal} (sound : Sound j) (r : Record) : Sound (j.take r) := by
  have attached := sound.attached.take r
  have sinks := sinks_take j r
  refine ⟨sinks ▸ sound.distinct, fun p mem => ?_⟩
  obtain ⟨old, found⟩ := attached.sinks p mem
  exact attached.kinds.exists_file found

theorem Sound.warn {j : Journal} (sound : Sound j) (time : Float) (w : Warning) : Sound (j.warn time w) := by
  unfold Journal.warn
  split_ifs
  · exact sound.capture.take _
  · exact ⟨sound.distinct, sound.there⟩

/-- Without a sink, what is shown goes to the console. -/
theorem content_take_of_sinks {j : Journal} (none : j.sinks = []) (r : Record) (p : Place) :
    (j.take r).content (.file p) = j.content (.file p) := by
  have empty : j.sinks.isEmpty = true := by rw [none]; rfl
  unfold take takeBare
  rw [if_pos empty]
  split_ifs
  · rfl
  · rfl
  · split <;> rfl

theorem sound_fresh (s : Storage) : Sound { storage := s } where
  distinct := List.nodup_nil
  there := fun _ mem => absurd mem List.not_mem_nil

/-! ## Set-ups -/

theorem content_congr {j k : Journal} {sink : Sink} (console : k.console = j.console)
    (files : ∀ p, k.storage.content p = j.storage.content p) : k.content sink = j.content sink := by
  cases sink with
  | console => exact congrArg (Utf8.encode ·.toList) console
  | file p => exact files p

/-- Adding a log file writes nothing, whether or not it goes well. -/
theorem content_addFile (j : Journal) (path : String) (sink : Sink) :
    (j.addFile path).1.content sink = j.content sink := by
  have made (q : Place) :
      (j.storage.makeDirectories (j.storage.expanded path).dropLast).1.content q = j.storage.content q := by
    unfold Storage.makeDirectories Storage.content
    rw [Storage.bytes?_makeFrom]
  unfold addFile
  dsimp only
  split
  · exact content_congr rfl made
  · split
    · next touched => exact content_congr rfl fun q => (Storage.content_touch touched q).trans (made q)
    · exact content_congr rfl made

/-- A set-up writes nothing, whether or not it goes well. -/
theorem content_setUp (j : Journal) (c : Config.Logging) (sink : Sink) :
    (j.setUp c).1.content sink = j.content sink := by
  have reset : (j.reset c).content sink = j.content sink := content_congr rfl fun _ => rfl
  unfold setUp
  cases filePath? c with
  | none => exact content_congr rfl fun _ => rfl
  | some path =>
    have added := content_addFile (j.reset c) path sink
    rw [reset] at added
    rw [← added]
    dsimp only
    split
    · next fine =>
      rw [fine]
      exact content_congr rfl fun _ => rfl
    · next fault => rw [fault]

/-- A set-up that fails leaves no log file among the sinks. -/
theorem sinks_setUp_of_fault {j : Journal} {c : Config.Logging} (fault : (j.setUp c).2 ≠ none) :
    (j.setUp c).1.sinks = (j.reset c).sinks := by
  obtain ⟨storage, after⟩ := setUp_of_fault fault
  rw [after]

theorem nodup_sinks_reset (j : Journal) (c : Config.Logging) : (j.reset c).sinks.Nodup := by
  unfold reset
  dsimp only
  split_ifs
  · exact List.nodup_singleton _
  · exact List.nodup_nil

/-- After every set-up the sinks are distinct, and the files among them are there. -/
theorem sound_setUp (j : Journal) (c : Config.Logging) : Sound (j.setUp c).1 := by
  by_cases fine : (j.setUp c).2 = none
  · refine ⟨?_, (attached_setUp fine).sinks⟩
    have reset := nodup_sinks_reset j c
    rcases setUp_of_fine fine with ⟨-, after⟩ | ⟨path, -, added, after⟩
    · rw [after]
      exact reset
    · obtain ⟨storage, -, added⟩ := addFile_of_fine added
      rw [after, added]
      refine List.nodup_append.2 ⟨reset, List.nodup_singleton _, ?_⟩
      rintro sink mem other own rfl
      rw [List.mem_singleton.1 own] at mem
      exact file_not_mem_sinks_reset j c _ mem
  · have sinks := sinks_setUp_of_fault fine
    refine ⟨sinks ▸ nodup_sinks_reset j c, fun p mem => ?_⟩
    rw [sinks] at mem
    exact absurd mem (file_not_mem_sinks_reset j c p)

theorem setUpFrom_cases [Config.Validator] (j : Journal) (entries : List (Yaml.Scalar × Yaml.Value)) :
    (j.setUpFrom entries).1 = j ∨ ∃ c, (j.setUpFrom entries).1 = (j.setUp c).1 := by
  unfold setUpFrom
  cases Config.Logging.ofEntries entries with
  | ok c => exact .inr ⟨c, rfl⟩
  | error => exact .inl rfl

/-! ## Any calls -/

/-- What a journal is called for: a set-up by settings or by the entries of a section, a record, or a warning. -/
inductive Call
  | setUp (c : Config.Logging)
  | setUpFrom (entries : List (Yaml.Scalar × Yaml.Value))
  | record (r : Record)
  | warning (time : Float) (w : Warning)

section Called

variable [Config.Validator]

/-- Takes a call. -/
def call (j : Journal) : Call → Journal
  | .setUp c => (j.setUp c).1
  | .setUpFrom entries => (j.setUpFrom entries).1
  | .record r => j.take r
  | .warning time w => j.warn time w

/-- The journal after calls. -/
def run (j : Journal) (calls : List Call) : Journal :=
  calls.foldl call j

/-- The record that a call emits: warnings become records once they are captured. -/
def emitted? (j : Journal) : Call → Option Record
  | .record r => some r
  | .warning time w => if j.capturing then some (w.record time) else none
  | _ => none

/-- What a call adds to a sink: the line of the record that it emits, if that goes there. -/
def addition (j : Journal) (c : Call) (sink : Sink) : List UInt8 :=
  match j.emitted? c with
  | some r => if j.Receives sink r then r.bytes sink else []
  | none => []

/-- What calls add to a sink, in order. -/
def additions (sink : Sink) : Journal → List Call → List UInt8
  | _, [] => []
  | j, c :: calls => j.addition c sink ++ additions sink (j.call c) calls

theorem Sound.call {j : Journal} (sound : Sound j) (c : Call) : Sound (j.call c) := by
  cases c with
  | setUp c => exact sound_setUp j c
  | setUpFrom entries =>
    show Sound (j.setUpFrom entries).1
    rcases setUpFrom_cases j entries with same | ⟨c, same⟩
    · rw [same]
      exact sound
    · rw [same]
      exact sound_setUp j c
  | record r => exact sound.take r
  | warning time w => exact sound.warn time w

theorem Sound.run {j : Journal} (sound : Sound j) (calls : List Call) : Sound (j.run calls) := by
  induction calls generalizing j with
  | nil => exact sound
  | cons c calls ih => exact ih (sound.call c)

/-- While there is a sink, a record that is emitted is accounted for. -/
theorem accounted_call {j : Journal} (sound : Sound j) (installed : j.sinks ≠ []) {c : Call} {r : Record}
    (emitted : j.emitted? c = some r) : Accounted r j (j.call c) := by
  cases c with
  | setUp | setUpFrom => contradiction
  | record =>
    obtain rfl := Option.some.inj emitted
    exact accounted_take sound installed _
  | warning time w =>
    unfold emitted? at emitted
    obtain ⟨capturing, same⟩ := Option.ite_none_right_eq_some.1 emitted
    obtain rfl := Option.some.inj same
    have warned : j.call (.warning time w) = { j with captured := true }.take (w.record time) := if_pos capturing
    obtain ⟨distinct, written, failed⟩ := accounted_take sound.capture installed (w.record time)
    rw [warned]
    exact ⟨distinct, fun sink => (written sink).trans (congrArg (· ++ _) (content_congr rfl fun _ => rfl)), failed⟩

/-- A call that emits no record writes to no file. -/
theorem content_call_of_silent {j : Journal} {c : Call} (silent : j.emitted? c = none) (p : Place) :
    (j.call c).content (.file p) = j.content (.file p) := by
  cases c with
  | setUp c => exact content_setUp j c _
  | setUpFrom entries =>
    show (j.setUpFrom entries).1.content _ = _
    rcases setUpFrom_cases j entries with same | ⟨c, same⟩
    · rw [same]
    · rw [same, content_setUp]
  | record => contradiction
  | warning time w =>
    have shown : ¬ j.capturing = true := by
      intro capturing
      rw [emitted?, if_pos capturing] at silent
      contradiction
    show (j.warn time w).content _ = _
    unfold warn
    rw [if_neg shown]
    rfl

/-- Without a sink, a record that is emitted is written to no file. -/
theorem content_call_of_sinks {j : Journal} (none : j.sinks = []) {c : Call} {r : Record}
    (emitted : j.emitted? c = some r) (p : Place) : (j.call c).content (.file p) = j.content (.file p) := by
  cases c with
  | setUp | setUpFrom => contradiction
  | record r => exact content_take_of_sinks none r p
  | warning time w =>
    show (j.warn time w).content _ = _
    unfold warn
    split_ifs
    · exact content_take_of_sinks (j := { j with captured := true }) none _ p
    · rfl

/-- A call adds to a file the line of the record that it emits, if that goes there. -/
theorem content_call_file {j : Journal} (sound : Sound j) (c : Call) (p : Place) :
    (j.call c).content (.file p) = j.content (.file p) ++ j.addition c (.file p) := by
  unfold addition
  cases emitted : j.emitted? c with
  | none =>
    rw [List.append_nil]
    exact content_call_of_silent emitted p
  | some r =>
    by_cases installed : j.sinks = []
    · have out : ¬ j.Receives (.file p) r := by
        rintro ⟨mem, -⟩
        rw [installed] at mem
        contradiction
      dsimp only
      rw [if_neg out, List.append_nil]
      exact content_call_of_sinks installed emitted p
    · exact (accounted_call sound installed emitted).written _

/-- A file ends as it was, followed by the lines of the records that went to it. -/
theorem content_run_file {j : Journal} (sound : Sound j) (calls : List Call) (p : Place) :
    (j.run calls).content (.file p) = j.content (.file p) ++ additions (.file p) j calls := by
  induction calls generalizing j with
  | nil => exact (List.append_nil _).symm
  | cons c calls ih =>
    show ((j.call c).run calls).content _ = _
    rw [ih (sound.call c), content_call_file sound c, List.append_assoc]
    rfl

end Called

/-- A log file that is dropped, after a set-up that is refused, and comes back under another spelling. One record has a
half of a pair in its message, and another has no message. -/
def dropAndReturn : List Call :=
  [.setUp { console := false, file := some "x.log" }, .record ⟨20, "a", some "one", 0.0, []⟩,
    .record ⟨20, "a", some [.ofNat 0xd800], 0.0, []⟩, .record ⟨20, "a", none, 0.0, []⟩,
    .setUpFrom [(.text "level", .scalar .null)], .record ⟨20, "a", some "two", 0.0, ["trace"]⟩,
    .setUp { level := "error" }, .record ⟨40, "a", some "three", 0.0, []⟩,
    .setUp { file := some " ./d/../x.log " }, .record ⟨10, "a", some "four", 0.0, []⟩,
    .warning 0.0 ⟨"W", "five", "f", 3, " f()"⟩]

end Journal

end Log

end ResolverWatch
