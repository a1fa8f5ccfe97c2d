import ResolverWatch.Program
import ResolverWatch.Proofs.Scrape.Parts
import ResolverWatch.Proofs.Text.Newline
import ResolverWatch.Proofs.Text.Utf8

/-!
# A line spoils only itself

Two files that differ in one line, which may hold any bytes but line ends, have the same lines
otherwise (`exists_lines_around`). So their snapshots agree on every part that reads no metric that
either of the two lines names (`agreesOn_of_otherLine`). The time of all requests is read from two
metrics: it is only shown beside the number of requests, so a line for the one can hide the other
(`durationSum_hidden_without_count`).
-/

namespace ResolverWatch

open Text

/-! ## Parts and the metrics they read -/

/-- A part of a snapshot. -/
inductive Part
  | figure (f : Figure)
  | split (b : Split)
  | blockingEnabled
  | build

/-- The metrics that a part is read from: its own, and the one that decides whether it is reported. -/
def Part.sources : Part → List Metric
  | .figure f => [f.metric, f.gate.metric]
  | .split b => [b.metric]
  | .blockingEnabled => [.blockingEnabled]
  | .build => [.buildInfo]

/-- Two snapshots have the same part, or both do not have it. -/
def Snapshot.AgreesOn (s t : Snapshot) : Part → Prop
  | .figure f => s.figure f = t.figure f
  | .split b => s.split b = t.split b
  | .blockingEnabled => s.blockingEnabled = t.blockingEnabled
  | .build => s.build = t.build

namespace Report

/-- Snapshots agree on a part when the samples of its metrics are the same. -/
theorem agreesOn_of_counted {pairs others : List (Metric × Sample)} {part : Part}
    (same : ∀ m ∈ part.sources, counted m pairs = counted m others) :
    (Tally.ofSamples pairs).snapshot.AgreesOn (Tally.ofSamples others).snapshot part := by
  cases part with
  | figure f =>
    have own := same f.metric (by simp [Part.sources])
    have gate := same f.gate.metric (by simp [Part.sources])
    show (Tally.ofSamples pairs).snapshot.figure f = (Tally.ofSamples others).snapshot.figure f
    rw [figure_ofSamples, figure_ofSamples, figure, figure, own, gate]
  | split b =>
    have own := same b.metric (by simp [Part.sources])
    show (Tally.ofSamples pairs).snapshot.split b = (Tally.ofSamples others).snapshot.split b
    rw [split_ofSamples, split_ofSamples, split, split, own]
  | blockingEnabled =>
    have own := same .blockingEnabled (by simp [Part.sources])
    show (Tally.ofSamples pairs).blockingEnabled = (Tally.ofSamples others).blockingEnabled
    rw [blockingEnabled_ofSamples, blockingEnabled_ofSamples, own]
  | build =>
    have own := same .buildInfo (by simp [Part.sources])
    show (Tally.ofSamples pairs).build = (Tally.ofSamples others).build
    rw [build_ofSamples, build_ofSamples, own]

/-! ## Lines -/

/-- The name of the metric on a line, known or not, if the line is a sample. -/
def nameOn (line : List Char) : Option String :=
  (Sample.parse? line).map Sample.name

/-- The samples of known metrics on lines. -/
def onLines (lines : List (List Char)) : List (Metric × Sample) :=
  (lines.map Line.read).filterMap Line.sample?

theorem onLines_append (lines others : List (List Char)) :
    onLines (lines ++ others) = onLines lines ++ onLines others := by
  simp [onLines]

theorem counted_append (m : Metric) (pairs others : List (Metric × Sample)) :
    counted m (pairs ++ others) = counted m pairs ++ counted m others := by
  simp [counted]

/-- A line has no samples of a metric that it does not name. -/
theorem counted_onLines_of_other {m : Metric} {line : List Char} (other : nameOn line ≠ some m.name) :
    counted m (onLines [line]) = [] := by
  unfold onLines
  rw [List.map_singleton, List.filterMap_cons, sample?_read]
  cases parsed : Sample.parse? line with
  | none => rfl
  | some s =>
    cases known : Metric.ofName? s.name with
    | none => simp [known, counted]
    | some m' =>
      have named : m'.name = s.name := Metric.ofName?_eq_some_iff.1 known
      have differs : m' ≠ m := by
        rintro rfl
        exact other (by simp [nameOn, parsed, named])
      simp [known, counted, differs]

theorem read_agreesOn {text other : List Char} {before after : List (List Char)} {x y : List Char}
    (lines : splitLines text = before ++ x :: after) (others : splitLines other = before ++ y :: after) {part : Part}
    (spared : ∀ m ∈ part.sources, nameOn x ≠ some m.name ∧ nameOn y ≠ some m.name) :
    (Scrape.read text).snapshot.AgreesOn (Scrape.read other).snapshot part := by
  show (Tally.ofSamples (onLines (splitLines text))).snapshot.AgreesOn
    (Tally.ofSamples (onLines (splitLines other))).snapshot part
  apply agreesOn_of_counted
  intro m mem
  obtain ⟨notX, notY⟩ := spared m mem
  have around (line : List Char) (other : nameOn line ≠ some m.name) :
      counted m (onLines (before ++ line :: after)) = counted m (onLines before) ++ counted m (onLines after) := by
    rw [onLines_append, ← List.singleton_append, onLines_append, counted_append, counted_append,
      counted_onLines_of_other other, List.nil_append]
  rw [lines, others, around x notX, around y notY]

/-! ## Bytes -/

/-- Bytes without line ends. -/
def IsLine (bs : List UInt8) : Prop :=
  0x0a ∉ bs ∧ 0x0d ∉ bs

instance : DecidablePred IsLine := fun bs =>
  inferInstanceAs (Decidable (0x0a ∉ bs ∧ 0x0d ∉ bs))

theorem newline_not_mem_decodeLossy {line : List UInt8} (isLine : IsLine line) : '\n' ∉ Utf8.decodeLossy line :=
  fun mem => isLine.1 (Utf8.mem_of_mem_decodeLossy mem (by decide) (by decide))

theorem return_not_mem_decodeLossy {line : List UInt8} (isLine : IsLine line) : '\r' ∉ Utf8.decodeLossy line :=
  fun mem => isLine.2 (Utf8.mem_of_mem_decodeLossy mem (by decide) (by decide))

/-- The lines behind a line of a file do not depend on it. -/
theorem exists_lines_after {post : List UInt8} (ends : post = [] ∨ post.head? = some 0x0a) :
    ∃ after, ∀ line, IsLine line →
      splitLines (unifyNewlines (Utf8.decodeLossy (line ++ post))) = Utf8.decodeLossy line :: after := by
  cases post with
  | nil =>
    refine ⟨[], fun line isLine => ?_⟩
    rw [List.append_nil, unifyNewlines_of_not_mem (return_not_mem_decodeLossy isLine),
      splitLines_of_not_mem (newline_not_mem_decodeLossy isLine)]
  | cons b rest =>
    obtain rfl : b = 0x0a := by simpa using ends
    refine ⟨splitLines (unifyNewlines (Utf8.decodeLossy rest)), fun line isLine => ?_⟩
    rw [Utf8.decodeLossy_append_newline, unifyNewlines_append_of_not_mem (return_not_mem_decodeLossy isLine),
      unifyNewlines_cons_of_ne (by decide), splitLines_append_newline,
      splitLines_of_not_mem (newline_not_mem_decodeLossy isLine), List.singleton_append]

/-- The lines around a line of a file do not depend on it. -/
theorem exists_lines_around {pre post : List UInt8} (starts : pre = [] ∨ pre.getLast? = some 0x0a)
    (ends : post = [] ∨ post.head? = some 0x0a) :
    ∃ before after, ∀ line, IsLine line →
      splitLines (unifyNewlines (Utf8.decodeLossy (pre ++ line ++ post))) =
        before ++ Utf8.decodeLossy line :: after := by
  obtain ⟨after, lines⟩ := exists_lines_after ends
  rcases starts with rfl | fed
  · exact ⟨[], after, fun line isLine => lines line isLine⟩
  · obtain ⟨front, rfl⟩ := List.getLast?_eq_some_iff.1 fed
    -- The line feed ends whatever stands before it, be it half a character or a carriage return.
    obtain ⟨unified, behind⟩ := exists_unifyNewlines_append_newline (Utf8.decodeLossy front)
    refine ⟨splitLines unified, after, fun line isLine => ?_⟩
    rw [List.append_assoc, List.append_assoc, List.singleton_append, Utf8.decodeLossy_append_newline, behind,
      splitLines_append_newline, lines line isLine]

/-- Two files that differ in one line give snapshots that agree on every part that is read from metrics that neither
of the two lines names. -/
theorem agreesOn_of_otherLine {m n : Machine} {path other : String} {pre x y post : List UInt8}
    (lineX : IsLine x) (lineY : IsLine y) (starts : pre = [] ∨ pre.getLast? = some 0x0a)
    (ends : post = [] ∨ post.head? = some 0x0a) (file : path ≠ "-") (otherFile : other ≠ "-")
    (read : m.journal.storage.read path = .ok (pre ++ x ++ post))
    (otherRead : n.journal.storage.read other = .ok (pre ++ y ++ post)) :
    ∃ s t, (m.scrape path).2 = .ok s ∧ (n.scrape other).2 = .ok t ∧
      ∀ part : Part, (∀ metric ∈ part.sources, nameOn (Utf8.decodeLossy x) ≠ some metric.name ∧
        nameOn (Utf8.decodeLossy y) ≠ some metric.name) → s.AgreesOn t part := by
  obtain ⟨before, after, lines⟩ := exists_lines_around starts ends
  refine ⟨_, _, congrArg Prod.snd (Machine.scrape_of_read file read),
    congrArg Prod.snd (Machine.scrape_of_read otherFile otherRead), ?_⟩
  intro part spared
  exact read_agreesOn (lines x lineX) (lines y lineY) spared

/-- A machine with one file. -/
def machineWith (bytes : List UInt8) : Machine where
  journal := { storage := ⟨[(["metrics"], .file bytes)], [], [], []⟩ }
  input := []
  now := 0.0

theorem read_machineWith (bytes : List UInt8) : (machineWith bytes).journal.storage.read "metrics" = .ok bytes :=
  rfl

/-- A stray byte in place of a line leaves the number of queries on another line as it is. -/
theorem agreesOn_queries_of_strayByte :
    let pre := "blocky_query_total 5\n".toUTF8.data.toList
    let x : List UInt8 := [0xe2]
    let y := "blocky_prefetches_total 1".toUTF8.data.toList
    let post := "\nblocky_error_total 2".toUTF8.data.toList
    ∃ s t, ((machineWith (pre ++ x ++ post)).scrape "metrics").2 = .ok s ∧
      ((machineWith (pre ++ y ++ post)).scrape "metrics").2 = .ok t ∧ s.AgreesOn t (.figure .queries) := by
  intro pre x y post
  have lineX : IsLine x := by decide +kernel
  have lineY : IsLine y := by decide +kernel
  have starts : pre = [] ∨ pre.getLast? = some 0x0a := .inr (by decide +kernel)
  have ends : post = [] ∨ post.head? = some 0x0a := .inr (by decide +kernel)
  obtain ⟨s, t, read, otherRead, agrees⟩ := agreesOn_of_otherLine lineX lineY starts ends (by decide) (by decide)
    (read_machineWith (pre ++ x ++ post)) (read_machineWith (pre ++ y ++ post))
  have spared : ∀ metric ∈ (Part.figure .queries).sources,
      nameOn (Utf8.decodeLossy x) ≠ some metric.name ∧ nameOn (Utf8.decodeLossy y) ≠ some metric.name := by
    decide +kernel
  exact ⟨s, t, read, otherRead, agrees (.figure .queries) spared⟩

/-- A line for the number of requests decides whether the time of all requests on another line is shown. -/
theorem durationSum_hidden_without_count :
    let pre := "blocky_request_duration_seconds_sum 5\n".toUTF8.data.toList
    let x := "blocky_request_duration_seconds_count 1".toUTF8.data.toList
    let shown (line : List UInt8) := ((machineWith (pre ++ line)).scrape "metrics").2.toOption.bind Snapshot.durationSum
    pre.getLast? = some 0x0a ∧ IsLine x ∧ IsLine [] ∧ shown x = some 5.0 ∧ shown [] = none ∧
      nameOn (Utf8.decodeLossy x) ≠ some Metric.durationSum.name ∧ nameOn (Utf8.decodeLossy []) = none := by
  decide +kernel

end Report

end ResolverWatch
